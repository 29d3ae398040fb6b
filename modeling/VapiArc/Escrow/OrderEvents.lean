import VapiArc.Escrow.Events
import VapiArc.Escrow.FactoryIdentity
import VapiArc.Escrow.ReputationSoundness

/-!
# What the events say about the orders

The factory announces each clone once, with the terms that it keeps; the registry
announces each attestation once; and the panel announces the party that the disputed clone
itself remembers.
-/
namespace VapiArc.Escrow

open Checked Function

variable {d : Deployment} {start w w' : World} {tx : Tx} {history : History} {e : Address}

namespace Event

def created? : Event → Option EscrowCreated
  | .escrowCreated args => some args
  | _ => none

def attested? : Event → Option SettlementAttested
  | .settlementAttested args => some args
  | _ => none

end Event

/-! ### Creations -/

/-- The terms that a creation announces. -/
def EscrowCreated.terms (args : EscrowCreated) : Terms where
  seller := args.seller
  buyer := args.buyer
  token := args.token
  amount := args.amount
  termsHash := args.termsHash
  offerDeadline := args.offerDeadline
  workDuration := args.workDuration
  reviewWindow := args.reviewWindow

/-- A creation announces the clone that it leaves. -/
theorem creation_event {made : Created} (h : creation d (w, tx) = some made) :
    ∃ args clone, emitted d (w, tx) = some (d.factory, .escrowCreated args) ∧
      args.escrow = made.escrow ∧ args.terms = clone.terms ∧ w.escrows made.escrow = none ∧
      step d w tx = { w.created made.escrow clone with clock := tx.msg.timestamp } := by
  unfold creation at h
  split at h
  next buyer token amount workDuration reviewWindow termsHash salt call =>
    change tx.call = _ at call
    split at h
    next escrow w' success =>
      cases h
      obtain ⟨offerDeadline, created, rfl⟩ := EscrowFactory.createEscrow_ok.mp success
      have accepted : exec d tx w = .ok (w.created escrow (.offered tx.msg.sender buyer token amount
          offerDeadline workDuration reviewWindow termsHash)) := by
        simp only [exec, call, map_ok]
        exact ⟨_, success, rfl⟩
      have event := emitted_accepted accepted
      rw [call] at event
      refine ⟨_, _, event, created.address.symm, ?_, created.vacant.2, step_accepted accepted⟩
      -- the offer deadline is read back from the new clone
      simp [EscrowCreated.terms, EscrowV1.terms, EscrowV1.offered, World.created,
        ← created.address]
    next => cases h
  next => cases h

/-- Nothing else announces a clone. -/
theorem creation_silent {entry : World × Tx} {pair : Address × Event}
    (h : creation d entry = none) (given : emitted d entry = some pair) :
    pair.2.created? = none := by
  obtain ⟨w, msg, call⟩ := entry
  unfold emitted at given
  split at given
  next w' accepted =>
    cases call with
    | createEscrow buyer token amount workDuration reviewWindow termsHash salt =>
      obtain ⟨⟨escrow, _⟩, success, rfl⟩ := (map_ok ..).mp accepted
      simp [creation, success] at h
    | attest e =>
      obtain ⟨c, -, rfl⟩ := Option.map_eq_some_iff.mp given
      rfl
    | _ => cases given <;> rfl
  next => cases given

/-- The announced clones are the registered ones, each once, and they hold the terms that
were announced. -/
theorem Run.announced (run : Run d start history w) :
    Roll w.factory.isEscrow ((history.events d Event.created?).map EscrowCreated.escrow) ∧
    ∀ args ∈ history.events d Event.created?,
      ∃ c, w.escrows args.escrow = some c ∧ c.terms = args.terms := by
  refine run.run.historyInvariant
    (fun past v => Roll v.factory.isEscrow
      ((History.events d Event.created? past).map EscrowCreated.escrow) ∧
      ∀ args ∈ History.events d Event.created? past,
        ∃ c, v.escrows args.escrow = some c ∧ c.terms = args.terms) ?_ ?_
  · rw [run.genesis.factory]
    refine ⟨Roll.nil, fun args member => ?_⟩
    cases member
  · rintro earlier v t before ⟨roll, terms⟩ admissible
    -- a clone keeps its terms
    have kept (args : EscrowCreated) (old : args ∈ History.events d Event.created? earlier) :
        ∃ c, (step d v t).escrows args.escrow = some c ∧ c.terms = args.terms := by
      obtain ⟨c, clone, same⟩ := terms args old
      obtain ⟨c', clone', same'⟩ := run_terms (.step t .refl admissible) clone
      exact ⟨c', clone', same'.trans same⟩
    show Roll (step d v t).factory.isEscrow _ ∧ ∀ args : EscrowCreated, args ∈ _ →
      ∃ c, (step d v t).escrows args.escrow = some c ∧ c.terms = args.terms
    cases made : creation d (v, t) with
    -- a transaction that creates no clone announces none
    | none =>
      have silent : History.events d Event.created? ((v, t) :: earlier) =
          History.events d Event.created? earlier := by
        rw [History.events_cons]
        cases given : emitted d (v, t) with
        | none => rfl
        | some pair => simp [creation_silent made given]
      rw [silent, creation_none admissible made]
      exact ⟨roll, kept⟩
    | some c =>
      obtain ⟨args, clone, event, address, agreed, vacant, next⟩ := creation_event made
      have registered := (Run.mk run.genesis before).registered
      -- a registered address has code, and this one had none
      have fresh : v.factory.isEscrow c.escrow = false := by
        rw [← Bool.not_eq_true, registered.deployed]
        exact fun deployed => deployed.2 vacant
      rw [events_emitted event]
      constructor
      · rw [next]
        simpa [World.created, Event.created?, address] using roll.raise fresh
      · intro args' member
        rcases List.mem_append.mp member with new | old
        · cases List.mem_singleton.mp new
          rw [next, address]
          exact ⟨clone, by simp [World.created], agreed.symm⟩
        · exact kept args' old

/-! ### Attestations -/

/-- What the registry announces of an attested order. -/
def Attested.args (r : Attested) : SettlementAttested where
  escrow := r.escrow
  seller := r.clone.seller
  buyer := r.clone.buyer
  resolution := r.clone.resolution.toUint8

/-- The announcements are the attestations. -/
theorem attested_events (history : History) :
    history.events d Event.attested? = (attestations d history).map Attested.args := by
  simp only [attestations, History.events, List.map_filterMap]
  refine List.filterMap_congr fun entry _ => ?_
  obtain ⟨w, msg, call⟩ := entry
  unfold emitted attestation
  cases call with
  | attest e =>
    cases accepted : exec d ⟨msg, .attest e⟩ w with
    | error reason => simp [Accepted, accepted]
    | ok w' =>
      cases clone : w.escrows e <;>
        simp [Accepted, accepted, Call.emits, Event.attested?, Attested.args, clone]
  | _ =>
    simp only
    split <;> simp [Call.emits, Event.attested?, DisputePanel.openedEvent]

/-! ### Openings -/

/-- A party of the clone raised the dispute, and the clone remembers it. -/
structure EscrowV1.RaisedBy (c : EscrowV1) (party : Address) : Prop where
  past : ¬ c.state.Calm
  stored : c.disputeRaisedBy = party
  party : c.Party party

/-- No move takes a disputed clone out of dispute without a resolution, and none writes who
raised it. -/
theorem Move.raisedBy {c c' : EscrowV1} {party : Address} (clone : w.escrows e = some c)
    (raised : c.RaisedBy party) (move : Move d w tx e c') : c'.RaisedBy party := by
  have notCalm {s : State} (state : c.state = s) : ¬ s.Calm := state ▸ raised.past
  cases move with
  | created call creation =>
    have vacant := creation.vacant.2
    rw [clone] at vacant
    cases vacant
  | funded call funding =>
    have same := funding.clone
    rw [clone] at same
    cases same
    exact absurd .created (notCalm funding.state)
  | cancelled call found state =>
    rw [clone] at found
    cases found
    exact absurd .created (notCalm state)
  | delivered call found state =>
    rw [clone] at found
    cases found
    exact absurd .locked (notCalm state)
  | disputed call found state =>
    rw [clone] at found
    cases found
    exact absurd (.of_working state) raised.past
  | countered call found state =>
    rw [clone] at found
    cases found
    exact ⟨raised.past, raised.stored, raised.party⟩
  | settled found authority =>
    rw [clone] at found
    cases found
    exact ⟨fun calm => calm.2 rfl, raised.stored, raised.party⟩
  | executed call found state =>
    rw [clone] at found
    cases found
    exact ⟨fun calm => calm.2 rfl, raised.stored, raised.party⟩

/-- Who raised the dispute stays so for good. -/
theorem run_raisedBy {later : History} {c : EscrowV1} {party : Address}
    (run : Transition.Run (system d) w later w') (clone : w.escrows e = some c)
    (raised : c.RaisedBy party) : ∃ c', w'.escrows e = some c' ∧ c'.RaisedBy party := by
  refine run.invariant (fun v => ∃ c', v.escrows e = some c' ∧ c'.RaisedBy party)
    ⟨c, clone, raised⟩ ?_
  rintro v t ⟨c', found, kept⟩ admissible
  rcases step_move admissible e with same | ⟨_, c'', move, storage⟩
  · exact ⟨c', same.trans found, kept⟩
  · exact ⟨c'', storage, move.raisedBy found kept⟩

/-- An opening that is announced for a clone is the clone's own. -/
theorem opened_event {emitter : Address} {args : DisputeOpened}
    (caller : d.External tx.msg.sender)
    (given : emitted d (w, tx) = some (emitter, .disputeOpened args))
    (address : d.CloneAddress args.escrow) :
    ∃ c, (step d w tx).escrows args.escrow = some c ∧ c.RaisedBy args.raisedBy := by
  obtain ⟨msg, call⟩ := tx
  unfold emitted at given
  split at given
  next w' accepted =>
    rw [step_accepted accepted]
    cases call with
    | raiseDispute e evidenceHash =>
      cases given
      obtain ⟨c, -, -, party, t, t', -, -, opening⟩ := EscrowV1.raiseDispute_ok.mp accepted
      obtain ⟨-, -, -, start, commitEnd, revealEnd, -, rfl⟩ := DisputePanel.open_ok.mp opening
      refine ⟨_, update_self .., ?_, rfl, party.symm⟩
      exact fun calm => calm.1 rfl
    | «open» raisedBy evidenceHash =>
      cases given
      -- the caller of `open` would be the clone, and no clone calls
      exact absurd rfl (caller.ne_clone address)
    | attest e =>
      obtain ⟨c, -, other⟩ := Option.map_eq_some_iff.mp given
      cases other
    | _ => cases given
  next => cases given

/-- Who raised the dispute of a clone, by the events, is who the clone itself says. -/
theorem Run.raisers (run : Run d start history w) :
    ∀ args ∈ history.events d Event.opened?, d.CloneAddress args.escrow →
      ∃ c, w.escrows args.escrow = some c ∧ c.RaisedBy args.raisedBy := by
  refine run.run.historyInvariant
    (fun past v => ∀ args ∈ History.events d Event.opened? past, d.CloneAddress args.escrow →
      ∃ c, v.escrows args.escrow = some c ∧ c.RaisedBy args.raisedBy) ?_ ?_
  · intro args member
    cases member
  · intro earlier v t before raisers admissible args member address
    show ∃ c, (step d v t).escrows args.escrow = some c ∧ _
    rw [History.events_cons] at member
    rcases List.mem_append.mp member with new | old
    · cases given : emitted d (v, t) with
      | none => simp [given] at new
      | some pair =>
        obtain ⟨emitter, event⟩ := pair
        cases event with
        | disputeOpened opening =>
          cases (by simpa [given, Event.opened?] using new : args = opening)
          exact opened_event admissible.2 given address
        | _ => simp [given, Event.opened?] at new
    · obtain ⟨c, clone, raised⟩ := raisers args old address
      exact run_raisedBy (.step t .refl admissible) clone raised

end VapiArc.Escrow
