import VapiArc.Escrow.Registration

/-!
# The identity of a clone

The factory's past is the list of its creations. That list and the registration
determine each other, so a registered address stands for one creation only.
-/
namespace VapiArc.Escrow

open Checked Function

variable {d : Deployment} {start w w' : World} {tx : Tx} {history : History}

/-- What a successful `createEscrow` was called with, and what it returned. -/
structure Created where
  seller : Address
  salt : Bytes32
  escrow : Address
  deriving DecidableEq

def Created.pair (c : Created) : Address × Bytes32 := (c.seller, c.salt)

/-- The creation that a transaction was, if it was one and did not revert. -/
def creation (d : Deployment) (entry : World × Tx) : Option Created :=
  match entry.2.call with
  | .createEscrow buyer token amount workDuration reviewWindow termsHash salt =>
    match EscrowFactory.createEscrow d entry.2.msg entry.1 buyer token amount workDuration
        reviewWindow termsHash salt with
    | .ok (escrow, _) => some ⟨entry.2.msg.sender, salt, escrow⟩
    | .error _ => none
  | _ => none

/-- The successful creations of a history, the newest first. -/
def creations (d : Deployment) (history : History) : List Created :=
  history.filterMap (creation d)

/-- A creation took place exactly when the storage changed like one. -/
theorem creation_some {c : Created} (h : creation d (w, tx) = some c) :
    c.escrow = d.predictEscrow c.seller c.salt ∧ w.escrows c.escrow = none ∧
    c.escrow ∉ d.contracts ∧
    ∃ clone, step d w tx = { w.created c.escrow clone with clock := tx.msg.timestamp } := by
  unfold creation at h
  split at h
  next buyer token amount workDuration reviewWindow termsHash salt call =>
    split at h
    next escrow w' success =>
      obtain ⟨offerDeadline, created, rfl⟩ := EscrowFactory.createEscrow_ok.mp success
      cases h
      change tx.call = _ at call
      have accepted : exec d tx w = .ok (w.created escrow (.offered tx.msg.sender buyer token amount
          offerDeadline workDuration reviewWindow termsHash)) := by
        simp only [exec, call, map_ok]
        exact ⟨_, success, rfl⟩
      exact ⟨created.address, created.vacant.2, created.vacant.1, _, step_accepted accepted⟩
    next => cases h
  next => cases h

theorem Move.creation {e : Address} {c : EscrowV1} (move : Move d w tx e c)
    (vacant : w.stateOf e = .none) :
    ∃ made, creation d (w, tx) = some made ∧ made.escrow = e := by
  have edge : Diagram e tx.call .none c.state := by
    rcases move.diagram with edge | ⟨disputed, _⟩
    · rwa [vacant] at edge
    · rw [vacant] at disputed
      cases disputed
  -- the diagram leaves the uninitialized state by one edge only
  have entered := edge.entry
  cases move with
  | @created buyer token amount workDuration reviewWindow termsHash salt _ call made =>
    have success : EscrowFactory.createEscrow d tx.msg w buyer token amount workDuration
        reviewWindow termsHash salt = .ok (e, _) :=
      EscrowFactory.createEscrow_ok.mpr ⟨_, made, rfl⟩
    exact ⟨⟨tx.msg.sender, salt, e⟩, by simp only [VapiArc.Escrow.creation, call, success], rfl⟩
  | countered _ _ state => rw [state] at entered; cases entered
  | _ => cases entered

/-- A transaction that creates nothing leaves the registration as it was. -/
theorem creation_none (admissible : Admissible d w tx) (none : creation d (w, tx) = none) :
    (step d w tx).factory = w.factory := by
  rcases step_cases admissible with ⟨_, same⟩ | ⟨w', _, change, next⟩
  · rw [same]
  · rw [next]
    rcases change.factory with ⟨same, _⟩ | ⟨e, c, move, vacant, _, _⟩
    · exact same
    · obtain ⟨made, created, _⟩ := move.creation (by simp [World.stateOf, vacant])
      rw [none] at created
      cases created

/-- The registration after a history is the list of its creations. -/
structure Recorded (d : Deployment) (history : History) (w : World) : Prop where
  registered : ∀ e, w.factory.isEscrow e = true ↔ e ∈ (creations d history).map Created.escrow
  distinct : ((creations d history).map Created.escrow).Nodup
  predicted : ∀ c ∈ creations d history, c.escrow = d.predictEscrow c.seller c.salt

theorem Recorded.step (recorded : Recorded d history w) (registered : Registered d w)
    (admissible : Admissible d w tx) : Recorded d ((w, tx) :: history) (step d w tx) := by
  cases made : creation d (w, tx) with
  | none =>
    have same : creations d ((w, tx) :: history) = creations d history := by
      simp [creations, made]
    refine ⟨fun e => ?_, ?_, ?_⟩
    · rw [same, creation_none admissible made]
      exact recorded.registered e
    · rw [same]
      exact recorded.distinct
    · rw [same]
      exact recorded.predicted
  | some c =>
    have more : creations d ((w, tx) :: history) = c :: creations d history := by
      simp [creations, made]
    obtain ⟨address, vacant, _, clone, next⟩ := creation_some made
    -- a second creation at the address would have found the first one's code
    have fresh : c.escrow ∉ (creations d history).map Created.escrow := by
      intro old
      exact ((registered.deployed c.escrow).mp ((recorded.registered c.escrow).mpr old)).2 vacant
    refine ⟨fun e => ?_, ?_, ?_⟩
    · rw [next, more, List.map_cons, List.mem_cons, ← recorded.registered e]
      by_cases own : e = c.escrow
      · simp [World.created, own]
      · simp [World.created, own]
    · rw [more, List.map_cons, List.nodup_cons]
      exact ⟨fresh, recorded.distinct⟩
    · rw [more]
      intro c' member
      rcases List.mem_cons.mp member with rfl | old
      · exact address
      · exact recorded.predicted c' old

theorem Run.recorded (run : Run d start history w) : Recorded d history w := by
  refine run.run.historyInvariant (Recorded d) ⟨?_, ?_, ?_⟩ ?_
  · intro e
    simp [run.genesis.factory, creations]
  · simp [creations]
  · simp [creations]
  · intro earlier v t before recorded admissible
    exact recorded.step (Run.mk run.genesis before).registered admissible

/-- The pairs are distinct because their addresses are. -/
theorem Recorded.pairs (recorded : Recorded d history w) :
    ((creations d history).map Created.pair).Nodup := by
  -- the address is a function of the pair
  have addresses : ((creations d history).map Created.pair).map
      (fun p => d.predictEscrow p.1 p.2) = (creations d history).map Created.escrow := by
    rw [List.map_map]
    exact List.map_congr_left fun c member => (recorded.predicted c member).symm
  exact List.Nodup.of_map _ (addresses ▸ recorded.distinct)

/-- What a registered address stands for, after `history` and in all states to come. -/
structure FactoryIdentity (d : Deployment) (history : History) (w : World) : Prop where
  /-- Registered are exactly the addresses of one creation. -/
  registered : ∀ e, w.factory.isEscrow e = true ↔
    ((creations d history).map Created.escrow).count e = 1
  /-- `predictEscrow` has one answer at all times, and it is the address. -/
  predicted : ∀ c ∈ creations d history, c.escrow = d.predictEscrow c.seller c.salt
  /-- No two creations share a clone. -/
  unshared : ((creations d history).map Created.escrow).Nodup
  /-- No pair succeeds twice. -/
  unrepeated : ((creations d history).map Created.pair).Nodup
  /-- A registered clone holds checked terms. -/
  agreement : ∀ e, w.factory.isEscrow e = true →
    ∃ c, w.escrows e = some c ∧ c.state ≠ .none ∧ Agreement d e c.terms
  /-- Only a creation takes a clone out of the uninitialized state. -/
  initialized : ∀ entry ∈ history, ∀ e, entry.1.stateOf e = .none →
    (step d entry.1 entry.2).stateOf e ≠ .none →
    ∃ c, creation d entry = some c ∧ c.escrow = e
  /-- Nobody else's `initialize` is accepted, on a clone or on the implementation. -/
  uninitializable : ∀ entry ∈ history,
    ∀ e seller buyer token amount offerDeadline workDuration reviewWindow termsHash,
    entry.2.call = .initializeEscrow e seller buyer token amount offerDeadline workDuration
      reviewWindow termsHash → ¬ Accepted d entry
  /-- The terms never change. -/
  constant : ∀ later w', Transition.Run (system d) w later w' → ∀ e c, w.escrows e = some c →
    ∃ c', w'.escrows e = some c' ∧ c'.terms = c.terms
  /-- The implementation stays blank. -/
  implementation : w.escrows d.implementation = some {} ∧ w.stateOf d.implementation = .none
  /-- A creation that reverts registers nothing and leaves no storage. -/
  reverted : ∀ entry ∈ history, ∀ buyer token amount workDuration reviewWindow termsHash salt,
    entry.2.call = .createEscrow buyer token amount workDuration reviewWindow termsHash salt →
    creation d entry = none → (step d entry.1 entry.2).factory = entry.1.factory ∧
      (step d entry.1 entry.2).escrows = entry.1.escrows

theorem creation_reverted {buyer token : Address} {amount : Uint256}
    {workDuration reviewWindow : Uint64} {termsHash salt : Bytes32}
    (call : tx.call = .createEscrow buyer token amount workDuration reviewWindow termsHash salt)
    (none : creation d (w, tx) = none) :
    step d w tx = { w with clock := tx.msg.timestamp } := by
  cases result : EscrowFactory.createEscrow d tx.msg w buyer token amount workDuration
      reviewWindow termsHash salt with
  | ok made =>
    simp only [creation, call, result] at none
    cases none
  | error reason =>
    have failed : exec d tx w = .error reason := by
      simp only [exec, call, result]
      rfl
    exact step_reverted failed

theorem factory_identity (run : Run d start history w) : FactoryIdentity d history w := by
  have registered := run.registered
  have recorded := run.recorded
  have entryOf {entry : World × Tx} (member : entry ∈ history) : Admissible d entry.1 entry.2 := by
    obtain ⟨_, _, _, _, admissible, _⟩ := run.run.of_mem member
    exact admissible
  constructor
  · -- the list of creations has no address twice
    intro e
    rw [recorded.registered e]
    constructor
    · exact List.count_eq_one_of_mem recorded.distinct
    · intro once
      exact List.count_pos_iff.mp (by omega)
  · exact recorded.predicted
  · exact recorded.distinct
  · exact recorded.pairs
  · intro e listed
    obtain ⟨fresh, stored⟩ := (registered.deployed e).mp listed
    obtain ⟨c, clone⟩ := Option.ne_none_iff_exists'.mp stored
    have facts := registered.listed e c fresh clone
    exact ⟨c, clone, facts.initialized, facts.agreement⟩
  · -- only a creation writes where nothing is stored
    intro entry member e blank left
    rcases step_move (entryOf member) e with same | ⟨_, c, move, _⟩
    · exact absurd (by rw [World.stateOf, same]; exact blank) left
    · exact move.creation blank
  · -- the clone was initialized by the factory, and accepts no second caller
    intro entry member e seller buyer token amount offerDeadline workDuration reviewWindow terms
      call accepted
    obtain ⟨w', success⟩ := accepted
    simp only [exec, call] at success
    exact EscrowV1.initializeEscrow_reverts (entryOf member).2.ne_factory _ _ _ _ _ _ _ _ success
  · intro later w' future e c clone
    exact run_terms future clone
  · exact ⟨registered.implementation, World.stateOf_some registered.implementation⟩
  · intro entry member buyer token amount workDuration reviewWindow terms salt call none
    rw [creation_reverted call none]
    exact ⟨rfl, rfl⟩

namespace Walkthrough

def happyPath : List Tx :=
  wiring ++ createAndFund 0 ++
  [⟨⟨seller, 1⟩, .submitDelivery (escrow 0) 8⟩,
   ⟨⟨deployer, 62⟩, .finalize (escrow 0)⟩]

end Walkthrough

/-- The walkthrough's finalized order. -/
theorem factory_identity_walkthrough :
    FactoryIdentity (Walkthrough.deployment 600 (by decide))
      (Walkthrough.history 600 (by decide) Walkthrough.happyPath)
      (Walkthrough.state 600 (by decide) Walkthrough.happyPath) :=
  factory_identity (Walkthrough.run 600 (by decide) Walkthrough.happyPath (by decide))

end VapiArc.Escrow
