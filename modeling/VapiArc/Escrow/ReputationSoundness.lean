import VapiArc.Escrow.SettlementAuthority
import VapiArc.Escrow.Solvency
import VapiArc.Lib.Roll

/-!
# What a score counts

A score counts orders of its subject. The registry reads a clone when it attests it,
and since a resolved clone is never written again, what it counted then is what the
clone is for good.
-/
namespace VapiArc.Escrow

open Checked Function

variable {d : Deployment} {start w w' : World} {tx : Tx} {history : History} {e a : Address}
  {c : EscrowV1}

/-- The counters of a score. -/
inductive Counter where
  | settled
  | released
  | refunded
  | disputed
  | splits
  deriving DecidableEq

def Score.get (s : Score) : Counter → Uint64
  | .settled => s.settled
  | .released => s.released
  | .refunded => s.refunded
  | .disputed => s.disputed
  | .splits => s.splits

/-- The orders that a counter is for. -/
def Counter.Counts (c : EscrowV1) : Counter → Prop
  | .settled => True
  | .released => c.resolution = .release
  | .refunded => c.resolution = .refund
  | .disputed => c.disputedAt ≠ 0
  | .splits => c.resolution = .split

instance (c : EscrowV1) : DecidablePred (Counter.Counts c)
  | .settled => inferInstanceAs (Decidable True)
  | .released => inferInstanceAs (Decidable (c.resolution = .release))
  | .refunded => inferInstanceAs (Decidable (c.resolution = .refund))
  | .disputed => inferInstanceAs (Decidable (c.disputedAt ≠ 0))
  | .splits => inferInstanceAs (Decidable (c.resolution = .split))

/-- What a counted resolution adds to the counters. -/
theorem recordResolution_counts {s s' : Score} (valid : c.resolution ≠ .none)
    (h : ReputationRegistryV0.recordResolution s c.resolution.toUint8 = .ok s') :
    s'.settled = s.settled ∧ s'.disputed = s.disputed ∧
    s'.released.val = s.released.val + (if c.resolution = .release then 1 else 0) ∧
    s'.refunded.val = s.refunded.val + (if c.resolution = .refund then 1 else 0) ∧
    s'.splits.val = s.splits.val + (if c.resolution = .split then 1 else 0) := by
  simp only [ReputationRegistryV0.recordResolution, bind_ok, Word.increment_ok, ite_ok,
    pure_ok] at h
  -- the codes of the resolutions are those that the registry compares with
  cases result : c.resolution with
  | none => exact absurd result valid
  | release =>
    obtain ⟨_, released, grown, rfl⟩ | ⟨other, _⟩ := h
    · simp [← grown]
    · rw [result] at other
      exact absurd rfl other
  | refund =>
    rw [result] at h
    obtain ⟨release, _⟩ | ⟨_, ⟨_, refunded, grown, rfl⟩ | ⟨other, _⟩⟩ := h
    · exact absurd release (by decide)
    · simp [← grown]
    · exact absurd rfl other
  | split =>
    rw [result] at h
    obtain ⟨release, _⟩ | ⟨_, ⟨refund, _⟩ | ⟨_, splits, grown, rfl⟩⟩ := h
    · exact absurd release (by decide)
    · exact absurd refund (by decide)
    · simp [← grown]

/-- `_record` raises exactly the counters that count the order. -/
theorem record_counts {s s' : Score} (valid : c.resolution ≠ .none)
    (h : ReputationRegistryV0.record s c.resolution.toUint8 (decide (c.disputedAt ≠ 0)) = .ok s')
    (counter : Counter) :
    (s'.get counter).val = (s.get counter).val + if counter.Counts c then 1 else 0 := by
  simp only [ReputationRegistryV0.record, bind_ok, Word.increment_ok, ite_ok, pure_ok,
    decide_eq_true_eq] at h
  obtain ⟨settled, one, s₁, recorded, last⟩ := h
  obtain ⟨same, calm, released, refunded, splits⟩ := recordResolution_counts valid recorded
  -- the dispute counter is the last one and touches no other
  have grown : s'.settled = s₁.settled ∧ s'.released = s₁.released ∧ s'.refunded = s₁.refunded ∧
      s'.splits = s₁.splits ∧
      s'.disputed.val = s₁.disputed.val + (if c.disputedAt ≠ 0 then 1 else 0) := by
    obtain ⟨disputed, dispute, grown, rfl⟩ | ⟨undisputed, rfl⟩ := last
    · rw [if_pos disputed]
      exact ⟨rfl, rfl, rfl, rfl, grown.symm⟩
    · rw [if_neg undisputed]
      exact ⟨rfl, rfl, rfl, rfl, rfl⟩
  obtain ⟨settled', released', refunded', splits', disputed'⟩ := grown
  cases counter with
  | settled =>
    show s'.settled.val = s.settled.val + 1
    rw [settled', same, ← one]
  | released => exact (congrArg Fin.val released').trans released
  | refunded => exact (congrArg Fin.val refunded').trans refunded
  | splits => exact (congrArg Fin.val splits').trans splits
  | disputed =>
    rw [calm] at disputed'
    exact disputed'

/-- An attested order, with the storage that was read. -/
structure Attested where
  escrow : Address
  clone : EscrowV1

/-- What a transaction recorded, if it was an accepted attestation. -/
def attestation (d : Deployment) (entry : World × Tx) : Option Attested :=
  match entry.2.call with
  | .attest escrow =>
    if Accepted d entry then (entry.1.escrows escrow).map (Attested.mk escrow) else none
  | _ => none

/-- The attested orders, the newest first. -/
def attestations (d : Deployment) (history : History) : List Attested :=
  history.filterMap (attestation d)

/-- What a transaction does that attests an order. -/
theorem attestation_some {r : Attested} (h : attestation d (w, tx) = some r) :
    ∃ sellerScore buyerScore, Attestation w r.escrow r.clone sellerScore buyerScore ∧
      step d w tx = { w.attested r.escrow r.clone sellerScore buyerScore with
        clock := tx.msg.timestamp } := by
  unfold attestation at h
  split at h
  next escrow call =>
    split at h
    next accepted =>
      obtain ⟨w', success⟩ := accepted
      change tx.call = _ at call
      have attested : ReputationRegistryV0.attest w escrow = .ok w' := by
        simpa only [exec, call] using success
      obtain ⟨c, sellerScore, buyerScore, attestation, rfl⟩ :=
        ReputationRegistryV0.attest_ok.mp attested
      rw [attestation.clone] at h
      cases h
      exact ⟨sellerScore, buyerScore, attestation, step_accepted success⟩
    next => cases h
  next => cases h

/-- Only attestations write the registry. -/
theorem Change.reputation (change : Change d w tx w') : w'.reputation = w.reputation ∨
    ∃ e, tx.call = .attest e ∧ w.escrows e ≠ none := by
  cases change with
  | attested call attestation =>
    right
    refine ⟨_, call, ?_⟩
    rw [attestation.clone]
    exact Option.some_ne_none _
  | _ => exact .inl rfl

theorem attestation_none (admissible : Admissible d w tx)
    (none : attestation d (w, tx) = none) : (step d w tx).reputation = w.reputation := by
  rcases step_cases admissible with ⟨_, same⟩ | ⟨w', accepted, change, next⟩
  · rw [same]
  · rw [next]
    rcases change.reputation with same | ⟨e, call, code⟩
    · exact same
    · have here : Accepted d (w, tx) := ⟨w', accepted⟩
      simp [attestation, call, here, code] at none

/-! ### Counting -/

def EscrowV1.Party (c : EscrowV1) (a : Address) : Prop := a = c.seller ∨ a = c.buyer

instance (c : EscrowV1) : DecidablePred c.Party :=
  fun a => inferInstanceAs (Decidable (a = c.seller ∨ a = c.buyer))

/-- The number of recorded orders of `a` that a counter is for. -/
def count (a : Address) (counter : Counter) (records : List Attested) : Nat :=
  records.countP fun r => decide (r.clone.Party a ∧ counter.Counts r.clone)

theorem count_cons (a : Address) (counter : Counter) (r : Attested) (records : List Attested) :
    count a counter (r :: records) = count a counter records +
      if r.clone.Party a ∧ counter.Counts r.clone then 1 else 0 := by
  simp [count, List.countP_cons]

/-- Every order has one of the three results. -/
theorem count_settled {records : List Attested}
    (valid : ∀ r ∈ records, r.clone.resolution ≠ .none) (a : Address) :
    count a .settled records =
      count a .released records + count a .refunded records + count a .splits records := by
  induction records with
  | nil => rfl
  | cons r records ih =>
    have rest := ih fun old member => valid old (List.mem_cons_of_mem r member)
    have result := valid r List.mem_cons_self
    simp only [count_cons, rest]
    by_cases party : r.clone.Party a
    · cases resolution : r.clone.resolution with
      | none => exact absurd resolution result
      | release =>
        simp [party, Counter.Counts, resolution]
        omega
      | refund =>
        simp [party, Counter.Counts, resolution]
        omega
      | split =>
        simp [party, Counter.Counts, resolution]
        omega
    · simp [party]

theorem count_le {small large : Counter} {records : List Attested}
    (below : ∀ r ∈ records, small.Counts r.clone → large.Counts r.clone) (a : Address) :
    count a small records ≤ count a large records := by
  refine List.countP_mono_left fun r member counted => ?_
  rw [decide_eq_true_eq] at counted ⊢
  exact ⟨counted.1, below r member counted.2⟩

/-- The attested orders of `a` that a counter is for, by their present storage. -/
def Orders (attested : Address → Bool) (escrows : Address → Option EscrowV1) (a : Address)
    (counter : Counter) : Set Address :=
  {e | attested e = true ∧ ∃ c, escrows e = some c ∧ c.Party a ∧ counter.Counts c}

/-- Records that still tell what is stored count the orders themselves. -/
theorem count_eq_ncard {attested : Address → Bool} {escrows : Address → Option EscrowV1}
    {records : List Attested} (roll : Roll attested (records.map Attested.escrow))
    (stored : ∀ r ∈ records, escrows r.escrow = some r.clone) (a : Address) (counter : Counter) :
    count a counter records = (Orders attested escrows a counter).ncard := by
  classical
  have counted := roll.ncard_eq_countP fun e =>
    decide (∃ c, escrows e = some c ∧ c.Party a ∧ counter.Counts c)
  simp only [decide_eq_true_eq] at counted
  rw [Orders, counted, List.countP_map]
  refine List.countP_congr fun r member => ?_
  simp [stored r member]

/-! ### The registry along a run -/

/-- The registry after a history. -/
structure Reputed (d : Deployment) (history : History) (w : World) : Prop where
  roll : Roll w.reputation.isAttested ((attestations d history).map Attested.escrow)
  stored : ∀ r ∈ attestations d history, w.escrows r.escrow = some r.clone ∧
    r.clone.state = .resolved ∧ r.clone.resolution ≠ .none
  scores : ∀ a counter,
    ((w.reputation.scores a).get counter).val = count a counter (attestations d history)

/-- An attestation counts the order for both of its parties. -/
theorem Attestation.scores {r : Attested} {sellerScore buyerScore : Score}
    (attestation : Attestation w r.escrow r.clone sellerScore buyerScore)
    (apart : r.clone.buyer ≠ r.clone.seller) (a : Address) (counter : Counter) :
    (((w.attested r.escrow r.clone sellerScore buyerScore).reputation.scores a).get counter).val =
      ((w.reputation.scores a).get counter).val +
        if r.clone.Party a ∧ counter.Counts r.clone then 1 else 0 := by
  have seller := record_counts attestation.resolution attestation.seller counter
  have buyer := record_counts attestation.resolution attestation.buyer counter
  -- the parties differ, so the buyer's record started from the buyer's own score
  rw [update_of_ne apart] at buyer
  show ((update (update w.reputation.scores r.clone.seller sellerScore) r.clone.buyer buyerScore
    a).get counter).val = _
  by_cases isBuyer : a = r.clone.buyer
  · subst isBuyer
    rw [update_self, buyer]
    simp [EscrowV1.Party]
  · rw [update_of_ne isBuyer]
    by_cases isSeller : a = r.clone.seller
    · subst isSeller
      rw [update_self, seller]
      simp [EscrowV1.Party]
    · rw [update_of_ne isSeller]
      simp [EscrowV1.Party, isBuyer, isSeller]

theorem Run.reputed (run : Run d start history w) : Reputed d history w := by
  refine run.run.historyInvariant (Reputed d) ?_ ?_
  · have blank := run.genesis.reputation
    refine ⟨?_, fun r none => absurd none List.not_mem_nil, ?_⟩
    · rw [blank]
      exact Roll.nil
    · intro a counter
      rw [blank]
      cases counter <;> rfl
  · intro earlier v t before reputed admissible
    -- an attested clone is resolved, and a resolved one is not written again
    have kept (r : Attested) (old : r ∈ attestations d earlier) :
        (step d v t).escrows r.escrow = some r.clone := by
      obtain ⟨storage, state, _⟩ := reputed.stored r old
      exact run_final (.step t .refl admissible) storage (.inl state)
    show Reputed d _ (step d v t)
    cases added : attestation d (v, t) with
    | none =>
      have same := attestation_none admissible added
      have records : attestations d ((v, t) :: earlier) = attestations d earlier :=
        List.filterMap_cons_none added
      constructor
      · rw [same, records]
        exact reputed.roll
      · intro r old
        rw [records] at old
        exact ⟨kept r old, (reputed.stored r old).2⟩
      · rw [same, records]
        exact reputed.scores
    | some r =>
      obtain ⟨sellerScore, buyerScore, attestation, next⟩ := attestation_some added
      have records : attestations d ((v, t) :: earlier) = r :: attestations d earlier :=
        List.filterMap_cons_some added
      have listed := (Run.mk run.genesis before).registered.clone attestation.clone
        (by rw [attestation.state]; decide)
      constructor
      · rw [next, records]
        exact reputed.roll.raise attestation.fresh
      · intro r' member
        rw [records] at member
        rcases List.mem_cons.mp member with rfl | old
        · rw [next]
          exact ⟨attestation.clone, attestation.state, attestation.resolution⟩
        · exact ⟨kept r' old, (reputed.stored r' old).2⟩
      · intro a counter
        rw [next, records, count_cons, ← reputed.scores a counter]
        exact attestation.scores listed.agreement.buyer.2 a counter

/-- A record is exactly an attested address with what is stored there. -/
theorem Reputed.mem (reputed : Reputed d history w) (r : Attested) :
    r ∈ attestations d history ↔
      w.reputation.isAttested r.escrow = true ∧ w.escrows r.escrow = some r.clone := by
  constructor
  · intro member
    exact ⟨(reputed.roll.mem _).mp (List.mem_map_of_mem member), (reputed.stored r member).1⟩
  · rintro ⟨attested, storage⟩
    obtain ⟨r', member, same⟩ := List.mem_map.mp ((reputed.roll.mem _).mpr attested)
    have stored := (reputed.stored r' member).1
    rw [same, storage] at stored
    cases r
    cases r'
    cases same
    cases stored
    exact member

theorem Score.ext_get {s s' : Score} (same : ∀ counter, s.get counter = s'.get counter) :
    s = s' := by
  have settled := same .settled
  have released := same .released
  have refunded := same .refunded
  have disputed := same .disputed
  have splits := same .splits
  cases s
  cases s'
  simp_all [Score.get]

/-- What the scores say after a run. -/
structure ReputationSoundness (d : Deployment) (history : History) (w : World) : Prop where
  /-- Finitely many orders are attested, each by one attestation. -/
  once : ((attestations d history).map Attested.escrow).Nodup ∧
    {e | w.reputation.isAttested e = true} =
      {e | e ∈ (attestations d history).map Attested.escrow}
  /-- `settled` is the number of attested orders of the subject. -/
  settled : ∀ a, (w.reputation.scores a).settled.val = {e | w.reputation.isAttested e = true ∧
    ∃ c, w.escrows e = some c ∧ (a = c.seller ∨ a = c.buyer)}.ncard
  sum : ∀ a, (w.reputation.scores a).settled.val = (w.reputation.scores a).released.val +
    (w.reputation.scores a).refunded.val + (w.reputation.scores a).splits.val
  bounds : ∀ a, (w.reputation.scores a).splits ≤ (w.reputation.scores a).disputed ∧
    (w.reputation.scores a).disputed ≤ (w.reputation.scores a).settled
  /-- An attested order is registered, resolved, and stays as it is. -/
  final : ∀ e, w.reputation.isAttested e = true → w.factory.isEscrow e = true ∧
    ∃ c, c.state = .resolved ∧ c.resolution ≠ .none ∧
      ∀ later w', Transition.Run (system d) w later w' → w'.escrows e = some c
  /-- Whatever happens later, every counter counts what the orders ended up with. -/
  counted : ∀ later w', Transition.Run (system d) w later w' → ∀ a counter,
    ((w.reputation.scores a).get counter).val =
      (Orders w.reputation.isAttested w'.escrows a counter).ncard
  /-- Runs that attested the same orders, in whatever order, have the same scores. -/
  order : ∀ start' history' w', Run d start' history' w' →
    w'.reputation.isAttested = w.reputation.isAttested →
    (∀ e, w.reputation.isAttested e = true → w'.escrows e = w.escrows e) →
    w'.reputation.scores = w.reputation.scores

theorem reputation_soundness (run : Run d start history w) (positive : history.Positive) :
    ReputationSoundness d history w := by
  have reputed := run.reputed
  have stored (r : Attested) (member : r ∈ attestations d history) :
      w.escrows r.escrow = some r.clone := (reputed.stored r member).1
  constructor
  · refine ⟨reputed.roll.nodup, ?_⟩
    ext e
    exact (reputed.roll.mem e).symm
  · intro a
    -- the registry's counter against the list of its attestations, then against the set of the orders
    have counted := (reputed.scores a .settled).trans
      (count_eq_ncard reputed.roll stored a .settled)
    simpa only [Orders, Counter.Counts, and_true, EscrowV1.Party, Score.get] using counted
  · intro a
    have sum := count_settled (fun r member => (reputed.stored r member).2.2) a
    simp only [← reputed.scores] at sum
    exact sum
  · intro a
    constructor
    · -- a split is a panel's or a council's ruling on a dispute
      rw [Fin.le_def]
      have below : count a .splits (attestations d history) ≤
          count a .disputed (attestations d history) := by
        refine count_le (fun r member split => ?_) a
        obtain ⟨storage, state, _⟩ := reputed.stored r member
        obtain ⟨_, _, settled⟩ := (run.story positive r.escrow).resolved _ storage state
        exact settled.reason.disputed split
      simp only [← reputed.scores] at below
      exact below
    · rw [Fin.le_def]
      have below : count a .disputed (attestations d history) ≤
          count a .settled (attestations d history) := by
        refine count_le (fun r _ _ => ?_) a
        trivial
      simp only [← reputed.scores] at below
      exact below
  · intro e attested
    obtain ⟨r, member, rfl⟩ := List.mem_map.mp ((reputed.roll.mem e).mpr attested)
    obtain ⟨storage, state, result⟩ := reputed.stored r member
    refine ⟨?_, r.clone, state, result,
      fun later w' future => run_final future storage (.inl state)⟩
    have registered := run.registered
    refine (registered.deployed r.escrow).mpr ⟨?_, by rw [storage]; exact Option.some_ne_none _⟩
    -- the implementation is blank for good, so it is not what was attested
    intro own
    rw [own, registered.implementation] at storage
    rw [← Option.some.inj storage] at state
    cases state
  · -- what is attested is final, so later worlds count the same orders
    intro later w' future a counter
    refine (reputed.scores a counter).trans (count_eq_ncard reputed.roll ?_ a counter)
    intro r member
    obtain ⟨storage, state, _⟩ := reputed.stored r member
    exact run_final future storage (.inl state)
  · intro start' history' w' run' flags storage
    have reputed' := run'.reputed
    -- both lists are free of repetitions and have the same records
    have perm : (attestations d history').Perm (attestations d history) := by
      refine (List.perm_ext_iff_of_nodup (List.Nodup.of_map _ reputed'.roll.nodup)
        (List.Nodup.of_map _ reputed.roll.nodup)).mpr fun r => ?_
      rw [reputed'.mem, reputed.mem, flags]
      constructor
      · rintro ⟨attested, same⟩
        exact ⟨attested, (storage _ attested).symm.trans same⟩
      · rintro ⟨attested, same⟩
        exact ⟨attested, (storage _ attested).trans same⟩
    funext a
    refine Score.ext_get fun counter => Fin.ext ?_
    rw [reputed'.scores, reputed.scores]
    exact perm.countP_eq _

/-- The disputed order, and its attestation. -/
def Walkthrough.attestedPath : List Tx :=
  Walkthrough.disputePath ++
  [⟨⟨Walkthrough.deployer, 124⟩, .attest (Walkthrough.escrow 0)⟩]

/-- The walkthrough's disputed order, attested. -/
theorem reputation_soundness_walkthrough :
    ReputationSoundness (Walkthrough.deployment 600 (by decide))
      (Walkthrough.history 600 (by decide) Walkthrough.attestedPath)
      (Walkthrough.state 600 (by decide) Walkthrough.attestedPath) ∧
    (Walkthrough.state 600 (by decide) Walkthrough.attestedPath).reputation.scores
      Walkthrough.seller = { settled := 1, released := 1, disputed := 1 } :=
  ⟨reputation_soundness
    (Walkthrough.run 600 (by decide) Walkthrough.attestedPath (by decide))
    (by unfold History.Positive; decide), by decide⟩

end VapiArc.Escrow
