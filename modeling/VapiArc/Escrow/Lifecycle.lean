import VapiArc.Escrow.Changes

/-!
# The life of one escrow

`Diagram` is the state diagram of the documentation. `Move` is what an accepted
transaction does to a clone that it writes, and every move follows the diagram.
-/
namespace VapiArc.Escrow

open Function

/-- The edges of the documented state diagram, each with the call that takes it. -/
inductive Diagram (e : Address) : Call → State → State → Prop
  | createEscrow {buyer token : Address} {amount : Uint256} {workDuration reviewWindow : Uint64}
      {termsHash salt : Bytes32} :
      Diagram e (.createEscrow buyer token amount workDuration reviewWindow termsHash salt)
        .none .created
  | fund {call : Call} : call.Funds e → Diagram e call .created .locked
  | cancelOffer : Diagram e (.cancelOffer e) .created .expired
  | submitDelivery {deliveryHash : Bytes32} :
      Diagram e (.submitDelivery e deliveryHash) .locked .submitted
  | raiseDispute {live : State} {evidenceHash : Bytes32} : live = .locked ∨ live = .submitted →
      Diagram e (.raiseDispute e evidenceHash) live .disputed
  | refundBuyer {live : State} : live = .locked ∨ live = .submitted →
      Diagram e (.refundBuyer e) live .resolved
  | releaseFunds : Diagram e (.releaseFunds e) .submitted .resolved
  | timeoutRefund : Diagram e (.timeoutRefund e) .locked .resolved
  | finalize : Diagram e (.finalize e) .submitted .resolved
  | panelOutcome : Diagram e (.execute e) .disputed .resolved
  | councilFallback {outcome : Uint8} : Diagram e (.resolveDispute e outcome) .disputed .resolved

/-- The states that the diagram marks as final. -/
def State.Final (s : State) : Prop := s = .resolved ∨ s = .expired

theorem Diagram.leaves {e : Address} {call : Call} {s s' : State} (edge : Diagram e call s s') :
    ¬ s.Final ∧ s' ≠ .none := by
  unfold State.Final
  cases edge with
  | raiseDispute live => rcases live with rfl | rfl <;> decide
  | refundBuyer live => rcases live with rfl | rfl <;> decide
  | _ => decide

/-- What the parties agreed on. -/
structure Terms where
  seller : Address
  buyer : Address
  token : Address
  amount : Uint256
  termsHash : Bytes32
  offerDeadline : Uint64
  workDuration : Uint64
  reviewWindow : Uint64
  deriving DecidableEq

def EscrowV1.terms (c : EscrowV1) : Terms :=
  ⟨c.seller, c.buyer, c.token, c.amount, c.termsHash, c.offerDeadline, c.workDuration,
    c.reviewWindow⟩

theorem Resolution.ofNat?_succ {n : Nat} {result : Resolution}
    (h : Resolution.ofNat? (n + 1) = some result) : result ≠ .none := by
  rintro rfl
  match n with
  | 0 => cases h
  | 1 => cases h
  | 2 => cases h
  | _ + 3 => cases h

variable {d : Deployment} {w w' : World} {tx : Tx} {e : Address}

/-- What an accepted transaction does to the clone at `e` when it writes there. -/
inductive Move (d : Deployment) (w : World) (tx : Tx) (e : Address) : EscrowV1 → Prop
  | created {buyer token : Address} {amount : Uint256} {workDuration reviewWindow : Uint64}
      {termsHash salt : Bytes32} {offerDeadline : Uint64}
      (call : tx.call = .createEscrow buyer token amount workDuration reviewWindow termsHash salt)
      (creation : Creation d tx.msg w buyer token amount workDuration reviewWindow offerDeadline
        salt e) :
      Move d w tx e (.offered tx.msg.sender buyer token amount offerDeadline workDuration
        reviewWindow termsHash)
  | funded {c : EscrowV1} {l : Erc20.Ledger Address} {workDeadline : Uint64}
      (call : tx.call.Funds e) (funding : EscrowV1.Funding d tx.msg w e c l workDeadline) :
      Move d w tx e { c with workDeadline, state := .locked }
  | cancelled {c : EscrowV1} (call : tx.call = .cancelOffer e) (clone : w.escrows e = some c)
      (state : c.state = .created) (late : c.offerDeadline.val < tx.msg.timestamp) :
      Move d w tx e { c with state := .expired }
  | delivered {c : EscrowV1} {deliveryHash : Bytes32} {reviewDeadline : Uint64}
      (call : tx.call = .submitDelivery e deliveryHash) (clone : w.escrows e = some c)
      (state : c.state = .locked) (seller : tx.msg.sender = c.seller)
      (inTime : tx.msg.timestamp ≤ c.workDeadline.val)
      (deadline : tx.msg.timestamp + c.reviewWindow.val = reviewDeadline.val) :
      Move d w tx e { c with deliveryHash, reviewDeadline, state := .submitted }
  | disputed {c : EscrowV1} {evidenceHash : Bytes32} {disputedAt deadline : Uint64}
      (call : tx.call = .raiseDispute e evidenceHash) (clone : w.escrows e = some c)
      (state : c.state = .locked ∨ c.state = .submitted)
      (party : tx.msg.sender = c.buyer ∨ tx.msg.sender = c.seller)
      (raised : disputedAt.val = tx.msg.timestamp)
      (evidence : deadline.val = tx.msg.timestamp + d.evidenceWindow.val) :
      Move d w tx e (c.disputedBy tx.msg.sender disputedAt deadline)
  | countered {c : EscrowV1} {evidenceHash : Bytes32}
      (call : tx.call = .submitCounterEvidence e evidenceHash) (clone : w.escrows e = some c)
      (state : c.state = .disputed) (inTime : tx.msg.timestamp ≤ c.counterEvidenceDeadline.val) :
      Move d w tx e { c with counterEvidenceSubmitted := true }
  | settled {c : EscrowV1} {result : Resolution} (clone : w.escrows e = some c)
      (authority : Authority d tx e c result) : Move d w tx e (c.settled result)
  | executed {c : EscrowV1} {result : Resolution} (call : tx.call = .execute e)
      (clone : w.escrows e = some c) (state : c.state = .disputed) (ruled : result ≠ .none) :
      Move d w tx e (c.settled result)

/-- A change writes at most one clone, by one of its moves. -/
theorem Change.escrows (change : Change d w tx w') : w'.escrows = w.escrows ∨
    ∃ e c, Move d w tx e c ∧ w'.escrows = update w.escrows e (some c) := by
  cases change with
  | created call creation => exact .inr ⟨_, _, .created call creation, rfl⟩
  | funded call funding => exact .inr ⟨_, _, .funded call funding, rfl⟩
  | cancelled call clone state late => exact .inr ⟨_, _, .cancelled call clone state late, rfl⟩
  | delivered call clone state seller inTime deadline =>
    exact .inr ⟨_, _, .delivered call clone state seller inTime deadline, rfl⟩
  | disputed call clone state party raised evidence =>
    exact .inr ⟨_, _, .disputed call clone state party raised evidence, rfl⟩
  | countered call clone state _ inTime =>
    exact .inr ⟨_, _, .countered call clone state inTime, rfl⟩
  | settled clone authority => exact .inr ⟨_, _, .settled clone authority, rfl⟩
  | executed call clone state _ ruling =>
    exact .inr ⟨_, _, .executed call clone state (Resolution.ofNat?_succ ruling), rfl⟩
  | _ => exact .inl rfl

/-- A step leaves the storage of a clone alone or makes one of its moves. -/
theorem step_move (admissible : Admissible d w tx) (e : Address) :
    (step d w tx).escrows e = w.escrows e ∨
    Accepted d (w, tx) ∧ ∃ c, Move d w tx e c ∧ (step d w tx).escrows e = some c := by
  rcases step_cases admissible with ⟨_, same⟩ | ⟨w', accepted, change, next⟩
  · left
    rw [same]
  · rw [next]
    rcases change.escrows with same | ⟨written, c, move, storage⟩
    · left
      exact congrFun same e
    · by_cases own : e = written
      · subst own
        right
        exact ⟨⟨w', accepted⟩, c, move, by simp [storage]⟩
      · left
        simp [storage, own]

/-! ### Every move follows the diagram -/

/-- The state of a clone; an address without storage is in the sentinel state. -/
def World.stateOf (w : World) (e : Address) : State := ((w.escrows e).map EscrowV1.state).getD .none

theorem World.stateOf_some {c : EscrowV1} (clone : w.escrows e = some c) :
    w.stateOf e = c.state := by
  simp [stateOf, clone]

theorem Authority.state {c : EscrowV1} {result : Resolution}
    (authority : Authority d tx e c result) :
    Diagram e tx.call c.state .resolved ∧ result ≠ .none := by
  cases authority with
  | released call state _ => exact ⟨by rw [call, state]; exact .releaseFunds, by decide⟩
  | refunded call state _ => exact ⟨by rw [call]; exact .refundBuyer state, by decide⟩
  | timedOut call state _ => exact ⟨by rw [call, state]; exact .timeoutRefund, by decide⟩
  | finalized call state _ => exact ⟨by rw [call, state]; exact .finalize, by decide⟩
  | councilRuled call state _ _ ruling _ =>
    exact ⟨by rw [call, state]; exact .councilFallback, Resolution.ofNat?_succ ruling⟩

theorem Move.diagram {c : EscrowV1} (move : Move d w tx e c) :
    Diagram e tx.call (w.stateOf e) c.state ∨ w.stateOf e = .disputed ∧ c.state = .disputed := by
  cases move with
  | created call creation =>
    left
    have none : w.stateOf e = .none := by simp [World.stateOf, creation.vacant.2]
    rw [none, call]
    exact .createEscrow
  | funded call funding =>
    left
    rw [World.stateOf_some funding.clone, funding.state]
    exact .fund call
  | cancelled call clone state _ =>
    left
    rw [World.stateOf_some clone, state, call]
    exact .cancelOffer
  | delivered call clone state _ _ _ =>
    left
    rw [World.stateOf_some clone, state, call]
    exact .submitDelivery
  | disputed call clone state _ _ _ =>
    left
    rw [World.stateOf_some clone, call]
    exact .raiseDispute state
  | countered _ clone state _ =>
    right
    exact ⟨(World.stateOf_some clone).trans state, state⟩
  | settled clone authority =>
    left
    rw [World.stateOf_some clone]
    exact authority.state.1
  | executed call clone state _ =>
    left
    rw [World.stateOf_some clone, state, call]
    exact .panelOutcome

/-- A state changes along an edge of the diagram, by that edge's call, or not at all. -/
theorem step_diagram (admissible : Admissible d w tx) (e : Address) :
    (step d w tx).stateOf e = w.stateOf e ∨
    Accepted d (w, tx) ∧ Diagram e tx.call (w.stateOf e) ((step d w tx).stateOf e) := by
  rcases step_move admissible e with same | ⟨accepted, c, move, storage⟩
  · left
    rw [World.stateOf, World.stateOf, same]
  · have after := World.stateOf_some storage
    rcases move.diagram with edge | ⟨before, disputed⟩
    · right
      rw [after]
      exact ⟨accepted, edge⟩
    · left
      rw [after, disputed, before]

theorem Move.notFinal {c c' : EscrowV1} (clone : w.escrows e = some c) (move : Move d w tx e c') :
    ¬ c.state.Final := by
  rw [← World.stateOf_some clone]
  rcases move.diagram with edge | ⟨disputed, _⟩
  · exact edge.leaves.1
  · rw [disputed, State.Final]
    decide

/-- No move changes the terms. -/
theorem Move.terms {c c' : EscrowV1} (clone : w.escrows e = some c) (move : Move d w tx e c') :
    c'.terms = c.terms := by
  have same {b : EscrowV1} (found : w.escrows e = some b) : b = c :=
    Option.some.inj (found.symm.trans clone)
  cases move with
  | created _ creation =>
    -- no clone is created where one exists
    have vacant := creation.vacant.2
    rw [clone] at vacant
    cases vacant
  | funded _ funding => rw [← same funding.clone]; rfl
  | cancelled _ found => rw [← same found]; rfl
  | delivered _ found => rw [← same found]; rfl
  | disputed _ found => rw [← same found]; rfl
  | countered _ found => rw [← same found]; rfl
  | settled found => rw [← same found]; rfl
  | executed _ found => rw [← same found]; rfl

/-! ### Whole runs -/

section Runs

variable {later : History}

/-- A clone keeps its code and its terms. -/
theorem run_terms {c : EscrowV1} (run : Transition.Run (system d) w later w')
    (clone : w.escrows e = some c) : ∃ c', w'.escrows e = some c' ∧ c'.terms = c.terms := by
  refine run.invariant (fun v => ∃ c', v.escrows e = some c' ∧ c'.terms = c.terms)
    ⟨c, clone, rfl⟩ ?_
  rintro v t ⟨c', found, kept⟩ admissible
  rcases step_move admissible e with same | ⟨_, c'', move, storage⟩
  · exact ⟨c', same.trans found, kept⟩
  · exact ⟨c'', storage, (move.terms found).trans kept⟩

/-- A clone in a final state is never written again. -/
theorem run_final {c : EscrowV1} (run : Transition.Run (system d) w later w')
    (clone : w.escrows e = some c) (final : c.state.Final) : w'.escrows e = some c := by
  refine run.invariant (fun v => v.escrows e = some c) clone ?_
  intro v t found admissible
  rcases step_move admissible e with same | ⟨_, c', move, _⟩
  · exact same.trans found
  · exact absurd final (move.notFinal found)

/-- The transaction takes the clone at `e` into the resolved state. -/
def Resolves (d : Deployment) (e : Address) (entry : World × Tx) : Prop :=
  entry.1.stateOf e ≠ .resolved ∧ (step d entry.1 entry.2).stateOf e = .resolved

theorem World.stateOf_resolved (resolved : w.stateOf e = .resolved) :
    ∃ c, w.escrows e = some c ∧ c.state = .resolved := by
  cases storage : w.escrows e with
  | none =>
    rw [World.stateOf, storage] at resolved
    cases resolved
  | some c => exact ⟨c, rfl, (World.stateOf_some storage).symm.trans resolved⟩

theorem run_resolved (run : Transition.Run (system d) w later w')
    (resolved : w.stateOf e = .resolved) : w'.stateOf e = .resolved := by
  obtain ⟨c, clone, state⟩ := World.stateOf_resolved resolved
  exact (World.stateOf_some (run_final run clone (.inl state))).trans state

/-- A clone is resolved at most once. -/
theorem Resolves.once {newest between oldest : History} {second first : World × Tx}
    (run : Transition.Run (system d) w (newest ++ second :: between ++ first :: oldest) w')
    (entered : Resolves d e first) : ¬ Resolves d e second := by
  refine run.atMostOnce (Resolves d e) (fun v => v.stateOf e = .resolved)
    (fun entry resolves => resolves.2) (fun entry resolves => resolves.1) ?_ entered
  intro v t resolved admissible
  exact run_resolved (.step t .refl admissible) resolved

end Runs

end VapiArc.Escrow
