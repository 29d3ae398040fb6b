import VapiArc.Escrow.Registration

/-!
# Dispute cases

`CaseMove` is what a transaction does to one case of the panel. `Coupled` ties the
case of a clone to the clone's own storage: the two contracts keep the dispute's
clock separately, and this invariant is what makes them agree.
-/
namespace VapiArc.Escrow

open DisputePanel Function

variable {d : Deployment} {start w w' : World} {tx : Tx} {history : History} {e : Address}

/-- What an accepted transaction does to the case of `e` when it writes there. -/
inductive CaseMove (d : Deployment) (w : World) (tx : Tx) (e : Address) : CaseData → Prop
  | opened {commitStart commitEnd revealEnd : Uint64}
      (unopened : (w.panel.cases e).commitDeadline = 0)
      (windows : Windows d tx.msg.timestamp commitStart commitEnd revealEnd) :
      CaseMove d w tx e (opened (w.panel.cases e) commitStart commitEnd revealEnd)
  | revealed {vote : Uint8} {salt : Bytes32} {dispute : CaseData}
      (call : tx.call = .reveal e vote salt) (revealable : Revealable d tx.msg w e vote salt)
      (counted : Counted (w.panel.cases e) vote dispute) : CaseMove d w tx e dispute
  | executed (call : tx.call = .execute e)
      (due : Executable tx.msg.timestamp (w.panel.cases e)) :
      CaseMove d w tx e { w.panel.cases e with executed := true }

/-- A change writes at most one case, by one of its moves. -/
theorem Change.cases (change : Change d w tx w') : w'.panel.cases = w.panel.cases ∨
    ∃ e dispute, CaseMove d w tx e dispute ∧
      w'.panel.cases = update w.panel.cases e dispute := by
  cases change with
  | disputed call clone state party raised evidence unopened windows =>
    exact .inr ⟨_, _, .opened unopened windows, rfl⟩
  | executed call clone state due => exact .inr ⟨_, _, .executed call due, rfl⟩
  | executedElsewhere call foreign due => exact .inr ⟨_, _, .executed call due, rfl⟩
  | openedElsewhere unopened windows => exact .inr ⟨_, _, .opened unopened windows, rfl⟩
  | revealed call revealable counted => exact .inr ⟨_, _, .revealed call revealable counted, rfl⟩
  | _ => exact .inl rfl

theorem step_case (admissible : Admissible d w tx) (e : Address) :
    (step d w tx).panel.cases e = w.panel.cases e ∨
    Accepted d (w, tx) ∧ ∃ dispute, CaseMove d w tx e dispute ∧
      (step d w tx).panel.cases e = dispute := by
  rcases step_cases admissible with ⟨_, same⟩ | ⟨w', accepted, change, next⟩
  · left
    rw [same]
  · rw [next]
    rcases change.cases with same | ⟨written, dispute, move, cases⟩
    · left
      exact congrFun same e
    · by_cases own : e = written
      · subst own
        right
        exact ⟨⟨w', accepted⟩, dispute, move, by simp [cases]⟩
      · left
        simp [cases, own]

/-- What `open` fixed of a case. -/
structure SameWindows (k k' : CaseData) : Prop where
  commitStart : k'.commitStart = k.commitStart
  commitDeadline : k'.commitDeadline = k.commitDeadline
  revealDeadline : k'.revealDeadline = k.revealDeadline

/-- An opened case keeps its windows, and an executed one is not written any more. -/
theorem CaseMove.known {dispute : CaseData} (move : CaseMove d w tx e dispute)
    (known : (w.panel.cases e).commitDeadline ≠ 0) :
    SameWindows (w.panel.cases e) dispute ∧ (w.panel.cases e).executed = false := by
  cases move with
  | opened unopened windows => exact absurd unopened known
  | revealed call revealable counted =>
    obtain ⟨start, commitEnd, revealEnd, _, _⟩ := counted.frame
    exact ⟨⟨start, commitEnd, revealEnd⟩, revealable.pending⟩
  | executed call due => exact ⟨⟨rfl, rfl, rfl⟩, due.pending⟩

/-- An opened case stays opened, with its windows; an executed one stays as it is. -/
theorem run_case {later : History} (run : Transition.Run (system d) w later w')
    (known : (w.panel.cases e).commitDeadline ≠ 0) :
    SameWindows (w.panel.cases e) (w'.panel.cases e) ∧
      ((w.panel.cases e).executed = true → w'.panel.cases e = w.panel.cases e) := by
  refine run.invariant (fun v => SameWindows (w.panel.cases e) (v.panel.cases e) ∧
    ((w.panel.cases e).executed = true → v.panel.cases e = w.panel.cases e))
    ⟨⟨rfl, rfl, rfl⟩, fun _ => rfl⟩ ?_
  rintro v t ⟨windows, frozen⟩ admissible
  show SameWindows _ ((step d v t).panel.cases e) ∧ (_ → (step d v t).panel.cases e = _)
  rcases step_case admissible e with same | ⟨_, dispute, move, case⟩
  · rw [same]
    exact ⟨windows, frozen⟩
  · rw [case]
    have stillKnown : (v.panel.cases e).commitDeadline ≠ 0 := windows.commitDeadline ▸ known
    obtain ⟨kept, pending⟩ := move.known stillKnown
    refine ⟨⟨kept.commitStart.trans windows.commitStart,
      kept.commitDeadline.trans windows.commitDeadline,
      kept.revealDeadline.trans windows.revealDeadline⟩, fun executed => ?_⟩
    -- a move on an executed case would have found it pending
    have contradiction : (w.panel.cases e).executed = false := frozen executed ▸ pending
    rw [executed] at contradiction
    cases contradiction

/-! ### The clone and its case -/

/-- What a transaction does to a clone together with its case. -/
inductive JointMove (d : Deployment) (w : World) (tx : Tx) (e : Address) :
    Option EscrowV1 → CaseData → Prop
  | still : JointMove d w tx e (w.escrows e) (w.panel.cases e)
  | calm {c' : EscrowV1} (before : (w.stateOf e).Calm) (after : c'.state.Calm) :
      JointMove d w tx e (some c') (w.panel.cases e)
  | disputed {c : EscrowV1} {disputedAt deadline commitStart commitEnd revealEnd : Uint64}
      (before : (w.stateOf e).Calm) (raised : disputedAt.val = tx.msg.timestamp)
      (evidence : deadline.val = tx.msg.timestamp + d.evidenceWindow.val)
      (windows : Windows d tx.msg.timestamp commitStart commitEnd revealEnd) :
      JointMove d w tx e (some (c.disputedBy tx.msg.sender disputedAt deadline))
        (opened (w.panel.cases e) commitStart commitEnd revealEnd)
  | countered {c : EscrowV1} (clone : w.escrows e = some c) (state : c.state = .disputed) :
      JointMove d w tx e (some { c with counterEvidenceSubmitted := true }) (w.panel.cases e)
  | revealed {vote : Uint8} {salt : Bytes32} {dispute : CaseData}
      (revealable : Revealable d tx.msg w e vote salt)
      (counted : Counted (w.panel.cases e) vote dispute) : JointMove d w tx e (w.escrows e) dispute
  | settled {c : EscrowV1} {result : Resolution} (clone : w.escrows e = some c)
      (authority : Authority d tx e c result) :
      JointMove d w tx e (some (c.settled result)) (w.panel.cases e)
  | executed {c : EscrowV1} {result : Resolution} (clone : w.escrows e = some c)
      (state : c.state = .disputed) (due : Executable tx.msg.timestamp (w.panel.cases e)) :
      JointMove d w tx e (some (c.settled result)) { w.panel.cases e with executed := true }
  | executedElsewhere (foreign : w.escrows e = none)
      (due : Executable tx.msg.timestamp (w.panel.cases e)) :
      JointMove d w tx e (w.escrows e) { w.panel.cases e with executed := true }

/-- A move of one clone leaves the other pairs still. -/
theorem JointMove.clone {e' : Address} {o : Option EscrowV1}
    (move : JointMove d w tx e' o (w.panel.cases e')) (e : Address) :
    JointMove d w tx e (update w.escrows e' o e) (w.panel.cases e) := by
  by_cases own : e = e'
  · subst own
    rw [update_self]
    exact move
  · rw [update_of_ne own]
    exact .still

theorem JointMove.case {e' : Address} {k : CaseData} (move : JointMove d w tx e' (w.escrows e') k)
    (e : Address) : JointMove d w tx e (w.escrows e) (update w.panel.cases e' k e) := by
  by_cases own : e = e'
  · subst own
    rw [update_self]
    exact move
  · rw [update_of_ne own]
    exact .still

theorem JointMove.both {e' : Address} {o : Option EscrowV1} {k : CaseData}
    (move : JointMove d w tx e' o k) (e : Address) :
    JointMove d w tx e (update w.escrows e' o e) (update w.panel.cases e' k e) := by
  by_cases own : e = e'
  · subst own
    rw [update_self, update_self]
    exact move
  · rw [update_of_ne own, update_of_ne own]
    exact .still

/-- What a change does to a clone's address and its case. -/
theorem Change.joint (change : Change d w tx w') (caller : d.External tx.msg.sender)
    (address : d.CloneAddress e) : JointMove d w tx e (w'.escrows e) (w'.panel.cases e) := by
  have calm {e : Address} {c : EscrowV1} {s : State} (clone : w.escrows e = some c)
      (state : c.state = s) (calm : s.Calm) : (w.stateOf e).Calm := by
    rw [World.stateOf_some clone, state]
    exact calm
  cases change with
  | @created e' _ _ _ _ _ _ _ _ call made =>
    have blank : (w.stateOf e').Calm := by
      rw [World.stateOf, made.vacant.2]
      exact .none
    refine (JointMove.calm blank ?_).clone e
    exact .created
  | funded call funding =>
    have before := calm funding.clone funding.state .created
    refine (JointMove.calm before ?_).clone e
    exact .locked
  | cancelled call clone state late =>
    have before := calm clone state .created
    refine (JointMove.calm before ?_).clone e
    exact .expired
  | delivered call clone state seller inTime deadline =>
    have before := calm clone state .locked
    refine (JointMove.calm before ?_).clone e
    exact .submitted
  | disputed call clone state party raised evidence unopened windows =>
    have before := calm clone rfl (.of_working state)
    exact (JointMove.disputed before raised evidence windows).both e
  | countered call clone state party inTime first =>
    exact (JointMove.countered clone state).clone e
  | settled clone authority settlement => exact (JointMove.settled clone authority).clone e
  | executed call clone state due ruling settlement =>
    exact (JointMove.executed clone state due).both e
  | executedElsewhere call foreign due => exact (JointMove.executedElsewhere foreign due).case e
  | openedElsewhere unopened windows =>
    -- the panel's own entry point serves the caller's case, and no clone calls from outside
    have other : e ≠ tx.msg.sender := caller.ne_clone address
    show JointMove d w tx e (w.escrows e) (update w.panel.cases tx.msg.sender _ e)
    rw [update_of_ne other]
    exact .still
  | revealed call revealable counted => exact (JointMove.revealed revealable counted).case e
  | _ => exact .still

/-- The case of a clone under dispute: open, not executed, on the clone's own clock. -/
structure Pending (d : Deployment) (c : EscrowV1) (k : CaseData) : Prop where
  known : k.commitDeadline ≠ 0
  unexecuted : k.executed = false
  windows : Windows d c.disputedAt.val k.commitStart k.commitDeadline k.revealDeadline
  evidence : c.counterEvidenceDeadline = k.commitStart

/-- A clone and its case: no case before a dispute, a pending one during it. -/
structure Coupled (d : Deployment) (o : Option EscrowV1) (k : CaseData) : Prop where
  calm : ((o.map EscrowV1.state).getD .none).Calm → k = {}
  disputed : ∀ c, o = some c → c.state = .disputed → Pending d c k

/-- No window ends at the epoch. -/
theorem DisputePanel.Windows.known {timestamp : Nat} {commitStart commitEnd revealEnd : Uint64}
    (windows : Windows d timestamp commitStart commitEnd revealEnd) : commitEnd ≠ 0 := by
  rintro rfl
  have sum := windows.commit
  have long := d.windows.2.1
  simp only [Fin.val_zero] at sum
  omega

/-- Counting a vote keeps a case pending. -/
theorem Pending.counted {c : EscrowV1} {k k' : CaseData} {vote : Uint8} (pending : Pending d c k)
    (counted : Counted k vote k') : Pending d c k' := by
  obtain ⟨start, commitEnd, revealEnd, executed, _⟩ := counted.frame
  refine ⟨commitEnd ▸ pending.known, executed ▸ pending.unexecuted, ?_, start ▸ pending.evidence⟩
  rw [start, commitEnd, revealEnd]
  exact pending.windows

theorem Coupled.calmly {c : EscrowV1} {o : Option EscrowV1} {k : CaseData}
    (coupled : Coupled d o k) (before : ((o.map EscrowV1.state).getD .none).Calm)
    (after : c.state.Calm) : Coupled d (some c) k := by
  refine ⟨fun _ => coupled.calm before, fun c' same disputed => ?_⟩
  cases same
  exact absurd disputed after.1

theorem Coupled.resolved (c : EscrowV1) (result : Resolution) (k : CaseData) :
    Coupled d (some (c.settled result)) k := by
  refine ⟨fun calm => absurd rfl calm.2, fun c' same disputed => ?_⟩
  cases same
  cases disputed

theorem JointMove.coupled {o : Option EscrowV1} {k : CaseData} (move : JointMove d w tx e o k)
    (coupled : Coupled d (w.escrows e) (w.panel.cases e)) : Coupled d o k := by
  cases move with
  | still => exact coupled
  | calm before after => exact coupled.calmly before after
  | @disputed _ disputedAt _ commitStart commitEnd revealEnd before raised evidence windows =>
    refine ⟨fun calm => absurd rfl calm.1, fun c' same _ => ?_⟩
    cases same
    rw [coupled.calm before]
    -- both contracts add the evidence window to the timestamp of this transaction
    refine ⟨windows.known, rfl, ?_, ?_⟩
    · show Windows d disputedAt.val commitStart commitEnd revealEnd
      rw [raised]
      exact windows
    · exact Fin.ext (evidence.trans windows.evidence.symm)
  | countered clone state =>
    have pending := coupled.disputed _ clone state
    refine ⟨fun calm => absurd state calm.1, fun c' same _ => ?_⟩
    cases same
    exact ⟨pending.known, pending.unexecuted, pending.windows, pending.evidence⟩
  | revealed revealable counted =>
    refine ⟨fun calm => ?_, fun c clone disputed => ?_⟩
    · -- a calm clone has no case, so there is nothing to reveal on
      have blank := coupled.calm calm
      have known := revealable.known
      rw [blank] at known
      exact absurd rfl known
    · exact (coupled.disputed c clone disputed).counted counted
  | settled clone authority => exact Coupled.resolved _ _ _
  | executed clone state due => exact Coupled.resolved _ _ _
  | executedElsewhere foreign due =>
    have blank : w.panel.cases e = {} := coupled.calm (by rw [foreign]; exact .none)
    have known := due.known
    rw [blank] at known
    exact absurd rfl known

theorem Run.coupled (run : Run d start history w) (address : d.CloneAddress e) :
    Coupled d (w.escrows e) (w.panel.cases e) := by
  refine run.invariant (fun v => Coupled d (v.escrows e) (v.panel.cases e)) ?_ ?_
  · intro genesis
    refine ⟨fun _ => by rw [genesis.panel], fun c clone disputed => ?_⟩
    obtain ⟨_, rfl⟩ := genesis.blank clone
    cases disputed
  · intro v t v' _ coupled admissible change
    exact (change.joint admissible.2 address).coupled coupled

/-- The case of a disputed clone is pending. -/
theorem Run.pending {c : EscrowV1} (run : Run d start history w) (clone : w.escrows e = some c)
    (disputed : c.state = .disputed) : Pending d c (w.panel.cases e) := by
  have initialized : c.state ≠ .none := by
    rw [disputed]
    nofun
  have address := (run.registered.clone clone initialized).agreement.clone
  exact (run.coupled address).disputed c clone disputed

end VapiArc.Escrow
