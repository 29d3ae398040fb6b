import VapiArc.Escrow.Ballots

/-!
# The events that are indexed

What the factory, the panel and the reputation registry emit, and the logs of a run.
A transaction emits at most one of these events. The events on a case tell everything
that the panel stores of its votes and its end.
-/
namespace VapiArc.Escrow

open Checked DisputePanel Function

structure EscrowCreated where
  escrow : Address
  seller : Address
  buyer : Address
  token : Address
  amount : Uint256
  offerDeadline : Uint64
  workDuration : Uint64
  reviewWindow : Uint64
  termsHash : Bytes32
  salt : Bytes32
  deriving DecidableEq, Repr

structure DisputeOpened where
  escrow : Address
  raisedBy : Address
  commitDeadline : Uint64
  revealDeadline : Uint64
  deriving DecidableEq, Repr

structure VoteCommitted where
  escrow : Address
  arbiter : Address
  commitment : Bytes32
  deriving DecidableEq, Repr

structure VoteRevealed where
  escrow : Address
  arbiter : Address
  vote : Uint8
  deriving DecidableEq, Repr

structure DisputeExecuted where
  escrow : Address
  outcome : Uint8
  releaseVotes : Uint8
  refundVotes : Uint8
  splitVotes : Uint8
  deriving DecidableEq, Repr

structure SettlementAttested where
  escrow : Address
  seller : Address
  buyer : Address
  resolution : Uint8
  deriving DecidableEq, Repr

/-- The data of a log: one of the indexed events, or another one. -/
inductive Event where
  | escrowCreated (args : EscrowCreated)
  | disputeOpened (args : DisputeOpened)
  | voteCommitted (args : VoteCommitted)
  | voteRevealed (args : VoteRevealed)
  | disputeExecuted (args : DisputeExecuted)
  | settlementAttested (args : SettlementAttested)
  | other
  deriving DecidableEq, Repr

/-- A log of `address`; its block is not known as long as it is pending. -/
structure Log (α : Type) where
  address : Address
  blockNumber : Option Nat
  args : α
  deriving DecidableEq, Repr

namespace Event

def opened? : Event → Option DisputeOpened
  | .disputeOpened args => some args
  | _ => none

def revealed? : Event → Option VoteRevealed
  | .voteRevealed args => some args
  | _ => none

def executed? : Event → Option DisputeExecuted
  | .disputeExecuted args => some args
  | _ => none

end Event

variable (d : Deployment)

/-- What the panel emits when it opens the case of `e`. -/
def DisputePanel.openedEvent (w' : World) (e raisedBy : Address) : Event :=
  let dispute := w'.panel.cases e
  .disputeOpened ⟨e, raisedBy, dispute.commitDeadline, dispute.revealDeadline⟩

/-- Who emits what in a call that leads from `w` to `w'`. -/
def Call.emits (msg : Msg) (w w' : World) : Call → Option (Address × Event)
  | .createEscrow buyer token amount workDuration reviewWindow termsHash salt =>
    let escrow := d.predictEscrow msg.sender salt
    let offerDeadline := (w'.escrows escrow).elim 0 EscrowV1.offerDeadline
    some (d.factory, .escrowCreated ⟨escrow, msg.sender, buyer, token, amount, offerDeadline,
      workDuration, reviewWindow, termsHash, salt⟩)
  -- the escrow opens its own case, for the party that called it
  | .raiseDispute e _ => some (d.panel, openedEvent w' e msg.sender)
  | .open raisedBy _ => some (d.panel, openedEvent w' msg.sender raisedBy)
  | .commit e commitment => some (d.panel, .voteCommitted ⟨e, msg.sender, commitment⟩)
  | .reveal e vote _ => some (d.panel, .voteRevealed ⟨e, msg.sender, vote⟩)
  | .execute e =>
    let dispute := w.panel.cases e
    some (d.panel, .disputeExecuted ⟨e, outcome dispute, dispute.releaseVotes,
      dispute.refundVotes, dispute.splitVotes⟩)
  | .attest e =>
    (w.escrows e).map fun c =>
      (d.reputation, .settlementAttested ⟨e, c.seller, c.buyer, c.resolution.toUint8⟩)
  | _ => none

/-- A revert emits nothing. -/
def emitted (entry : World × Tx) : Option (Address × Event) :=
  match exec d entry.2 entry.1 with
  | .ok w' => entry.2.call.emits d entry.2.msg entry.1 w'
  | .error _ => none

/-- The logs of a run in the order of the chain, where `number n` is the block of the `n`th
transaction. -/
def logs (number : Nat → Nat) : History → List (Log Event)
  | [] => []
  | entry :: earlier => logs number earlier ++ (emitted d entry).toList.map fun pair =>
      ⟨pair.1, some (number earlier.length), pair.2⟩

/-- The events of one kind in a history, the newest first. -/
def History.events {α : Type} (select : Event → Option α) (history : History) : List α :=
  history.filterMap fun entry => (emitted d entry).bind fun pair => select pair.2

variable {d} {start w w' : World} {tx : Tx} {history : History} {e : Address}

theorem History.events_cons {α : Type} (select : Event → Option α) (entry : World × Tx) :
    History.events d select (entry :: history) =
      ((emitted d entry).bind fun pair => select pair.2).toList ++ history.events d select := by
  simp only [History.events, List.filterMap_cons]
  cases (emitted d entry).bind fun pair => select pair.2 with
  | none => rfl
  | some a => rfl

/-! ### The events of the panel -/

/-- The event is about the votes or the end of a case, or opens one. -/
def Event.Concerns (event : Event) : Prop :=
  event.opened? ≠ none ∨ event.revealed? ≠ none ∨ event.executed? ≠ none

@[simp] theorem Event.concerns_iff (event : Event) : event.Concerns ↔
    (∃ args, event = .disputeOpened args) ∨ (∃ args, event = .voteRevealed args) ∨
      ∃ args, event = .disputeExecuted args := by
  cases event <;> simp [Event.Concerns, Event.opened?, Event.revealed?, Event.executed?]

/-- What an accepted transaction does to the cases, with the event that it emits. -/
inductive Docket (d : Deployment) (w : World) (tx : Tx) (w' : World) : Prop
  | opened {e raisedBy : Address} {commitStart commitEnd revealEnd : Uint64}
      (unopened : (w.panel.cases e).commitDeadline = 0)
      (windows : Windows d tx.msg.timestamp commitStart commitEnd revealEnd)
      (cases : w'.panel.cases = update w.panel.cases e
        (opened (w.panel.cases e) commitStart commitEnd revealEnd))
      (event : emitted d (w, tx) =
        some (d.panel, .disputeOpened ⟨e, raisedBy, commitEnd, revealEnd⟩))
  | revealed {e : Address} {vote : Uint8} {salt : Bytes32} {dispute : CaseData}
      (revealable : Revealable d tx.msg w e vote salt)
      (counted : Counted (w.panel.cases e) vote dispute)
      (cases : w'.panel.cases = update w.panel.cases e dispute)
      (event : emitted d (w, tx) = some (d.panel, .voteRevealed ⟨e, tx.msg.sender, vote⟩))
  | executed {e : Address} (due : Executable tx.msg.timestamp (w.panel.cases e))
      (cases : w'.panel.cases = update w.panel.cases e
        { w.panel.cases e with executed := true })
      (event : emitted d (w, tx) = some (d.panel, .disputeExecuted ⟨e,
        outcome (w.panel.cases e), (w.panel.cases e).releaseVotes,
        (w.panel.cases e).refundVotes, (w.panel.cases e).splitVotes⟩))
  | elsewhere (cases : w'.panel.cases = w.panel.cases)
      (events : ∀ pair, emitted d (w, tx) = some pair → ¬ pair.2.Concerns)

theorem emitted_accepted (h : exec d tx w = .ok w') :
    emitted d (w, tx) = tx.call.emits d tx.msg w w' := by
  simp only [emitted, h]

/-- A call without an event that leaves the cases alone. -/
theorem Docket.silent (h : exec d tx w = .ok w') (none : tx.call.emits d tx.msg w w' = none)
    (cases : w'.panel.cases = w.panel.cases) : Docket d w tx w' := by
  refine .elsewhere cases fun pair given => ?_
  rw [emitted_accepted h, none] at given
  cases given

theorem settle_cases {msg : Msg} {c : EscrowV1} {result : Resolution}
    (h : EscrowV1.settle d msg w e c result = .ok w') : w'.panel.cases = w.panel.cases := by
  obtain ⟨l, rfl, -⟩ := settle_pays h
  rfl

theorem onToken_cases {token : Address}
    {call : Erc20.Ledger Address → Except Erc20.Fault (Erc20.Ledger Address)}
    (h : w.onToken d token call = .ok w') : w'.panel.cases = w.panel.cases := by
  obtain ⟨-, l, -, rfl⟩ := (World.onToken_ok ..).mp h
  rfl

/-- The case that a successful `open` leaves is the one that its event announces. -/
theorem Docket.ofOpen {msg : Msg} {v : World} {raisedBy : Address}
    (h : DisputePanel.open d msg v = .ok w') (same : v.panel.cases = w.panel.cases)
    (time : msg.timestamp = tx.msg.timestamp)
    (event : emitted d (w, tx) = some (d.panel, openedEvent w' msg.sender raisedBy)) :
    Docket d w tx w' := by
  obtain ⟨-, -, unopened, start, commitEnd, revealEnd, windows, rfl⟩ := open_ok.mp h
  rw [same] at unopened
  rw [time] at windows
  have announced : openedEvent (v.setCase msg.sender (DisputePanel.opened
      (v.panel.cases msg.sender) start commitEnd revealEnd)) msg.sender raisedBy =
      .disputeOpened ⟨msg.sender, raisedBy, commitEnd, revealEnd⟩ := by
    simp [openedEvent, DisputePanel.opened]
  rw [announced] at event
  exact .opened unopened windows (by rw [← same]; rfl) event

/-- What every accepted transaction did to the cases, and what it emitted. -/
theorem exec_docket (caller : d.External tx.msg.sender) (h : exec d tx w = .ok w') :
    Docket d w tx w' := by
  have event := emitted_accepted h
  have accepted := h
  unfold exec at h
  cases call : tx.call with
  | raiseDispute e evidenceHash =>
    rw [call] at h event
    obtain ⟨c, -, -, -, t, t', -, -, opening⟩ := EscrowV1.raiseDispute_ok.mp h
    -- the panel's caller is the escrow
    exact .ofOpen opening rfl rfl event
  | «open» raisedBy evidenceHash =>
    rw [call] at h event
    exact .ofOpen h rfl rfl event
  | commit e commitment =>
    rw [call] at h event
    obtain ⟨-, -, -, -, -, -, rfl⟩ := commit_ok.mp h
    -- its event is the commitment's, which no case depends on
    refine .elsewhere rfl fun pair given => ?_
    rw [event] at given
    cases given
    simp
  | reveal e vote salt =>
    rw [call] at h event
    obtain ⟨revealable, dispute, counted, rfl⟩ := reveal_ok.mp h
    exact .revealed revealable (countVote_counted counted) rfl event
  | execute e =>
    rw [call] at h event
    obtain ⟨due, ⟨-, resolve⟩ | ⟨-, -, rfl⟩⟩ := execute_ok.mp h
    · -- the panel's own ruling executes the case
      obtain ⟨c, -, -, -, -, result, -, settle⟩ := EscrowV1.resolveDispute_ok.mp resolve
      exact .executed due (settle_cases settle) event
    · exact .executed due rfl event
  | createEscrow buyer token amount workDuration reviewWindow termsHash salt =>
    rw [call] at h event
    obtain ⟨⟨e, _⟩, created, rfl⟩ := (map_ok ..).mp h
    obtain ⟨offerDeadline, -, rfl⟩ := EscrowFactory.createEscrow_ok.mp created
    -- a creation and an attestation are announced by the factory and the registry, not by the panel
    refine .elsewhere rfl fun pair given => ?_
    rw [event] at given
    cases given
    simp
  | attest e =>
    rw [call] at h event
    obtain ⟨c, sellerScore, buyerScore, -, rfl⟩ := ReputationRegistryV0.attest_ok.mp h
    refine .elsewhere rfl fun pair given => ?_
    rw [event] at given
    obtain ⟨c', -, rfl⟩ := Option.map_eq_some_iff.mp given
    simp
  | initializeEscrow e seller buyer token amount offerDeadline workDuration reviewWindow terms =>
    rw [call] at h
    -- the factory is the only caller, and it is no external account
    exact (EscrowV1.initializeEscrow_reverts caller.ne_factory _ _ _ _ _ _ _ _ h).elim
  | depositFunds e =>
    -- from here on the panel's cases stay as they are, and nothing is announced
    refine .silent accepted (by rw [call]; rfl) ?_
    rw [call] at h
    obtain ⟨c, l, workDeadline, -, rfl⟩ := EscrowV1.depositFunds_funding h
    rfl
  | fundWithAuthorization e validAfter validBefore nonce signature =>
    refine .silent accepted (by rw [call]; rfl) ?_
    rw [call] at h
    obtain ⟨c, l, workDeadline, -, rfl⟩ := EscrowV1.fundWithAuthorization_funding h
    rfl
  | cancelOffer e =>
    refine .silent accepted (by rw [call]; rfl) ?_
    rw [call] at h
    obtain ⟨c, -, -, -, rfl⟩ := EscrowV1.cancelOffer_ok.mp h
    rfl
  | submitDelivery e deliveryHash =>
    refine .silent accepted (by rw [call]; rfl) ?_
    rw [call] at h
    obtain ⟨c, -, -, -, -, review, -, rfl⟩ := EscrowV1.submitDelivery_ok.mp h
    rfl
  | releaseFunds e =>
    refine .silent accepted (by rw [call]; rfl) ?_
    rw [call] at h
    obtain ⟨c, -, -, -, settle⟩ := EscrowV1.releaseFunds_ok.mp h
    exact settle_cases settle
  | refundBuyer e =>
    refine .silent accepted (by rw [call]; rfl) ?_
    rw [call] at h
    obtain ⟨c, -, -, -, settle⟩ := EscrowV1.refundBuyer_ok.mp h
    exact settle_cases settle
  | timeoutRefund e =>
    refine .silent accepted (by rw [call]; rfl) ?_
    rw [call] at h
    obtain ⟨c, -, -, -, settle⟩ := EscrowV1.timeoutRefund_ok.mp h
    exact settle_cases settle
  | finalize e =>
    refine .silent accepted (by rw [call]; rfl) ?_
    rw [call] at h
    obtain ⟨c, -, -, -, settle⟩ := EscrowV1.finalize_ok.mp h
    exact settle_cases settle
  | submitCounterEvidence e evidenceHash =>
    refine .silent accepted (by rw [call]; rfl) ?_
    rw [call] at h
    obtain ⟨c, -, -, -, -, -, rfl⟩ := EscrowV1.submitCounterEvidence_ok.mp h
    rfl
  | resolveDispute e o =>
    refine .silent accepted (by rw [call]; rfl) ?_
    rw [call] at h
    -- the council's ruling leaves the case of the panel pending
    obtain ⟨c, -, -, -, -, result, -, settle⟩ := EscrowV1.resolveDispute_ok.mp h
    exact settle_cases settle
  | setFactory factory =>
    refine .silent accepted (by rw [call]; rfl) ?_
    rw [call] at h
    simp only [DisputePanel.setFactory, bind_ok, pure_ok] at h
    obtain ⟨-, -, -, -, -, -, rfl⟩ := h
    rfl
  | transferPanelOwnership newOwner =>
    refine .silent accepted (by rw [call]; rfl) ?_
    rw [call] at h
    simp only [DisputePanel.transferOwnership, bind_ok, pure_ok] at h
    obtain ⟨-, -, -, -, rfl⟩ := h
    rfl
  | renouncePanelOwnership =>
    refine .silent accepted (by rw [call]; rfl) ?_
    rw [call] at h
    simp only [DisputePanel.renounceOwnership, bind_ok, pure_ok] at h
    obtain ⟨-, -, rfl⟩ := h
    rfl
  | setArbiter arbiter allowed =>
    refine .silent accepted (by rw [call]; rfl) ?_
    rw [call] at h
    simp only [ArbiterRegistry.setArbiter, bind_ok, ite_ok, pure_ok] at h
    obtain ⟨-, -, -, -, -, -, ⟨-, rfl⟩ | ⟨-, count, -, rfl⟩⟩ := h
    · rfl
    · rfl
  | transferRegistryOwnership newOwner =>
    refine .silent accepted (by rw [call]; rfl) ?_
    rw [call] at h
    simp only [ArbiterRegistry.transferOwnership, bind_ok, pure_ok] at h
    obtain ⟨-, -, -, -, rfl⟩ := h
    rfl
  | renounceRegistryOwnership =>
    refine .silent accepted (by rw [call]; rfl) ?_
    rw [call] at h
    simp only [ArbiterRegistry.renounceOwnership, bind_ok, pure_ok] at h
    obtain ⟨-, -, rfl⟩ := h
    rfl
  | distribute token seller gross =>
    refine .silent accepted (by rw [call]; rfl) ?_
    rw [call] at h
    obtain ⟨⟨net, fee, _⟩, distributed, rfl⟩ := (map_ok ..).mp h
    obtain ⟨-, -, -, -, m, l, -, -, rfl⟩ := distribute_ok.mp distributed
    rfl
  | transfer dst value =>
    refine .silent accepted (by rw [call]; rfl) ?_
    rw [call] at h
    exact onToken_cases h
  | approve spender value =>
    refine .silent accepted (by rw [call]; rfl) ?_
    rw [call] at h
    exact onToken_cases h
  | transferFrom src dst value =>
    refine .silent accepted (by rw [call]; rfl) ?_
    rw [call] at h
    exact onToken_cases h
  | receiveWithAuthorization src value validAfter validBefore nonce signature =>
    refine .silent accepted (by rw [call]; rfl) ?_
    rw [call] at h
    exact onToken_cases h
  | mint dst value =>
    refine .silent accepted (by rw [call]; rfl) ?_
    rw [call] at h
    exact onToken_cases h
  | setPolicy permits =>
    refine .silent accepted (by rw [call]; rfl) ?_
    rw [call] at h
    cases h
    rfl

/-- A step does what its transaction does; a revert does nothing to the cases. -/
theorem step_docket (admissible : Admissible d w tx) : Docket d w tx (step d w tx) := by
  cases h : exec d tx w with
  | error reason =>
    rw [step_reverted h]
    refine .elsewhere rfl fun pair given => ?_
    simp [emitted, h] at given
  | ok w' =>
    rw [step_accepted h]
    -- the clock is no part of the cases
    cases exec_docket admissible.2 h with
    | opened unopened windows cases event => exact .opened unopened windows cases event
    | revealed revealable counted cases event => exact .revealed revealable counted cases event
    | executed due cases event => exact .executed due cases event
    | elsewhere cases events => exact .elsewhere cases events

/-! ### What the events say about the cases -/

/-- An event that concerns no case is none of the three. -/
theorem events_elsewhere {α : Type} {select : Event → Option α}
    (events : ∀ pair, emitted d (w, tx) = some pair → ¬ pair.2.Concerns)
    (concerns : ∀ event : Event, select event ≠ none → event.Concerns) :
    History.events d select ((w, tx) :: history) = history.events d select := by
  rw [History.events_cons]
  cases given : emitted d (w, tx) with
  | none => rfl
  | some pair =>
    have unselected : select pair.2 = none := by
      by_contra selected
      exact events pair given (concerns pair.2 selected)
    simp [unselected]

theorem events_emitted {α : Type} {select : Event → Option α} {address : Address} {event : Event}
    (given : emitted d (w, tx) = some (address, event)) :
    History.events d select ((w, tx) :: history) =
      (select event).toList ++ history.events d select := by
  rw [History.events_cons, given, Option.bind_some]

/-- A flag of the cases after one of them was written. -/
theorem flag_update (flag : CaseData → Bool) (cases : Address → CaseData) (e : Address)
    (k : CaseData) : (fun a => flag (update cases e k a)) =
      update (fun a => flag (cases a)) e (flag k) :=
  comp_update flag cases e k

theorem flag_kept (flag : CaseData → Bool) {cases : Address → CaseData} {k : CaseData}
    (same : flag k = flag (cases e)) :
    (fun a => flag (update cases e k a)) = fun a => flag (cases a) := by
  rw [flag_update, same]
  exact update_eq_self e fun a => flag (cases a)

/-- The opened cases are those of the opening events, each once. -/
theorem Run.openings (run : Run d start history w) :
    Roll (fun e => decide ((w.panel.cases e).commitDeadline ≠ 0))
      ((history.events d Event.opened?).map DisputeOpened.escrow) := by
  refine run.run.historyInvariant
    (fun past v => Roll (fun e => decide ((v.panel.cases e).commitDeadline ≠ 0))
      ((History.events d Event.opened? past).map DisputeOpened.escrow)) ?_ ?_
  · rw [run.genesis.panel]
    exact Roll.nil
  · intro earlier v t before roll admissible
    show Roll (fun e => decide (((step d v t).panel.cases e).commitDeadline ≠ 0)) _
    cases step_docket admissible with
    | @opened e raisedBy start commitEnd revealEnd unopened windows cases event =>
      rw [events_emitted event, cases, flag_update fun k => decide (k.commitDeadline ≠ 0)]
      have raised := roll.raise (a := e) (by simp [unopened])
      simpa [opened, windows.known, Event.opened?] using raised
    | revealed revealable counted cases event =>
      rw [events_emitted event, cases, flag_kept fun k => decide (k.commitDeadline ≠ 0)]
      · exact roll
      · rw [counted.frame.2.1]
    | executed due cases event =>
      rw [events_emitted event, cases, flag_kept fun k => decide (k.commitDeadline ≠ 0)]
      · exact roll
      · rfl
    | elsewhere cases events =>
      rw [events_elsewhere events fun event selected => .inl selected, cases]
      exact roll

/-- The executed cases are those of the executions, each once, with the outcome that the
tally still has. -/
theorem Run.executions (run : Run d start history w) :
    Roll (fun e => (w.panel.cases e).executed)
      ((history.events d Event.executed?).map DisputeExecuted.escrow) ∧
    ∀ args ∈ history.events d Event.executed?,
      args.outcome = outcome (w.panel.cases args.escrow) := by
  refine run.run.historyInvariant
    (fun past v => Roll (fun e => (v.panel.cases e).executed)
      ((History.events d Event.executed? past).map DisputeExecuted.escrow) ∧
      ∀ args ∈ History.events d Event.executed? past,
        args.outcome = outcome (v.panel.cases args.escrow)) ?_ ?_
  · rw [run.genesis.panel]
    refine ⟨Roll.nil, fun args member => ?_⟩
    cases member
  · rintro earlier v t before ⟨roll, outcomes⟩ admissible
    -- a write that keeps the flag, and the outcome of an executed case
    have keep {e : Address} {k : CaseData} (flag : k.executed = (v.panel.cases e).executed)
        (settled : (v.panel.cases e).executed = true → outcome k = outcome (v.panel.cases e)) :
        Roll (fun e' => (update v.panel.cases e k e').executed)
          ((History.events d Event.executed? earlier).map DisputeExecuted.escrow) ∧
        ∀ args ∈ History.events d Event.executed? earlier,
          args.outcome = outcome (update v.panel.cases e k args.escrow) := by
      refine ⟨by rw [flag_kept CaseData.executed flag]; exact roll, fun args member => ?_⟩
      rw [outcomes args member]
      by_cases own : args.escrow = e
      · subst own
        rw [update_self, settled ((roll.mem _).mp (List.mem_map_of_mem member))]
      · rw [update_of_ne own]
    show Roll (fun e => ((step d v t).panel.cases e).executed) _ ∧
      ∀ args : DisputeExecuted, args ∈ _ →
        args.outcome = outcome ((step d v t).panel.cases args.escrow)
    cases step_docket admissible with
    | @opened e raisedBy start commitEnd revealEnd unopened windows cases event =>
      rw [events_emitted event, cases]
      exact keep rfl fun _ => rfl
    | @revealed e vote salt dispute revealable counted cases event =>
      rw [events_emitted event, cases]
      refine keep counted.frame.2.2.2.1 fun executed => ?_
      rw [revealable.pending] at executed
      cases executed
    | @executed e due cases event =>
      rw [events_emitted event, cases]
      rw [flag_update CaseData.executed]
      refine ⟨roll.raise due.pending, fun args member => ?_⟩
      rcases List.mem_cons.mp member with rfl | old
      · simp [outcome]
      · -- the case was pending, so the earlier executions are of other cases
        have other : args.escrow ≠ e := by
          rintro rfl
          have already := (roll.mem _).mp (List.mem_map_of_mem old)
          rw [due.pending] at already
          cases already
        rw [update_of_ne other]
        exact outcomes args old
    | elsewhere cases events =>
      rw [events_elsewhere events fun event selected => .inr (.inr selected), cases]
      exact ⟨roll, outcomes⟩

/-- A revealing event on a case is a vote on it. -/
theorem revealed_vote (entry : World × Tx) (e : Address) :
    (((emitted d entry).bind fun pair => pair.2.revealed?).toList.filter
      fun args => args.escrow = e).map VoteRevealed.vote =
    ((vote d e entry).map Vote.choice).toList := by
  obtain ⟨w, msg, call⟩ := entry
  cases call with
  | reveal escrow choice salt =>
    by_cases accepted : Accepted d (w, ⟨msg, .reveal escrow choice salt⟩)
    · obtain ⟨w', h⟩ := accepted
      have again : Accepted d (w, ⟨msg, .reveal escrow choice salt⟩) := ⟨w', h⟩
      rw [emitted_accepted h]
      by_cases own : escrow = e
      · subst own
        simp [vote, Call.emits, Event.revealed?, again]
      · simp [vote, Call.emits, Event.revealed?, own]
    · have reverted : emitted d (w, ⟨msg, .reveal escrow choice salt⟩) = none := by
        unfold emitted
        split
        next w' h => exact absurd ⟨w', h⟩ accepted
        next => rfl
      simp [vote, reverted, accepted]
  | attest escrow =>
    simp only [vote, emitted]
    split
    next => cases clone : w.escrows escrow <;> simp [Call.emits, Event.revealed?, clone]
    next => rfl
  | _ =>
    simp only [vote, emitted]
    split
    next => simp [Call.emits, Event.revealed?, openedEvent]
    next => rfl

theorem revealed_votes (history : History) (e : Address) :
    ((history.events d Event.revealed?).filter fun args => args.escrow = e).map VoteRevealed.vote =
      (votes d e history).map Vote.choice := by
  induction history with
  | nil => rfl
  | cons entry earlier ih =>
    rw [History.events_cons, List.filter_append, List.map_append, ih, revealed_vote]
    simp only [votes, List.filterMap_cons]
    cases vote d e entry with
    | none => rfl
    | some v => rfl

end VapiArc.Escrow
