import VapiArc.Demo.FundRecord

/-!
# The record keeps track of the fund transactions

As long as the reply to a broadcast comes, no crash falls between a broadcast and its record, and a
`retry` clears the record of a reverted transaction only, every fund transaction that may take effect
is on record, or its run is just about to write it.
-/
namespace VapiArc.Demo

open Checked Function Async Transition Review DemoProcessor

section Actions

variable {d : DemoDependencies} {db db' : DemoDatabase} {runId : RunId} {run updated : DemoRun}
  {repository repository' : DemoRepository}

/-- The rows keep their keys, and the record of the fund transactions apart from that of one run. -/
structure Preserves (but : RunId → Prop) (repository repository' : DemoRepository) : Prop where
  keyed : repository.Keyed → repository'.Keyed
  fund : ∀ runId, ¬ but runId → repository'.fund runId = repository.fund runId

theorem Preserves.refl (but : RunId → Prop) (repository : DemoRepository) :
    Preserves but repository repository := ⟨fun keyed => keyed, fun _ _ => rfl⟩

theorem Preserves.mono {but but' : RunId → Prop} (preserves : Preserves but repository repository')
    (more : ∀ runId, but runId → but' runId) : Preserves but' repository repository' :=
  ⟨preserves.keyed, fun runId kept => preserves.fund runId fun old => kept (more runId old)⟩

theorem Preserves.patch {but : RunId → Prop} {change : DemoRun → DemoRun}
    (done : repository.patch runId change = .ok (updated, repository'))
    (keeps : ∀ run, (change run).id = run.id)
    (same : ∀ run, (change run).transactions .fund = run.transactions .fund) :
    Preserves but repository repository' :=
  ⟨DemoRepository.patch_keyed done keeps, fun other _ => DemoRepository.patch_fund done keeps same other⟩

/-- A `retry` of the run, which has failed, clears the record of its fund transaction. -/
def Clears (repository : DemoRepository) (runId : RunId) : Prop :=
  ∃ run, repository.get runId = some run ∧ run.state = .failed ∧ retryKey run = some .fund

theorem cleared_preserves (found : db.repository.get run.id = some run) (failed : run.state = .failed)
    (done : cleared db run = .ok (updated, repository')) :
    Preserves (fun id => id = run.id ∧ Clears db.repository id) db.repository repository' := by
  unfold cleared at done
  split at done
  next key retried =>
    refine ⟨DemoRepository.patch_keyed done fun _ => rfl, fun other kept => ?_⟩
    by_cases here : other = run.id
    · have different : key ≠ .fund := by
        rintro rfl
        exact kept ⟨here, run, here ▸ found, failed, retried⟩
      exact DemoRepository.patch_fund done (fun _ => rfl) (fun _ => update_of_ne different.symm _ _)
        other
    · obtain ⟨-, -, -, -, others⟩ := DemoRepository.patch_ok done fun _ => rfl
      unfold DemoRepository.fund
      rw [others other here]
  next =>
    cases done
    exact .refl _ _

theorem recoverRun_preserves {attached : Bool} (found : db.repository.get run.id = some run)
    (done : recoverRun db run attached = .ok (updated, db')) :
    Preserves (fun id => id = run.id ∧ Clears db.repository id) db.repository db'.repository := by
  simp only [recoverRun, bind_ok, revertIf_ok, exists_const, ne_eq, not_not] at done
  obtain ⟨failed, ⟨run', repository'⟩, clears, done⟩ := done
  obtain ⟨repository'', written, rfl⟩ := writes_ok done
  have first := cleared_preserves found failed clears
  refine ⟨fun keyed => DemoRepository.patch_keyed written (fun _ => rfl) (first.keyed keyed), ?_⟩
  intro other kept
  rw [DemoRepository.patch_fund written (fun _ => rfl) (fun _ => rfl) other]
  exact first.fund other kept

theorem retry_preserves {nextKey : IdempotencyKey}
    (done : retry d db runId nextKey = .ok (updated, db')) :
    Preserves (fun id => id = runId ∧ Clears db.repository id) db.repository db'.repository := by
  simp only [retry, bind_ok] at done
  obtain ⟨run, found, done⟩ := done
  replace found := requireRun_eq found
  have here := DemoRepository.get_id found
  subst here
  split at done
  next => exact recoverRun_preserves found done
  next =>
    simp only [bind_ok] at done
    obtain ⟨-, -, done⟩ := done
    split at done
    next => rw [(resumeOrder_ok done).1]; exact .refl _ _
    next => exact recoverRun_preserves found done

theorem purchase_preserves (done : purchase db runId = .ok (updated, db')) :
    Preserves (fun _ => False) db.repository db'.repository := by
  simp only [purchase, bind_ok] at done
  obtain ⟨run, -, done⟩ := done
  split at done
  · cases done
    exact .refl _ _
  · simp only [bind_ok, revertIf_ok, exists_const] at done
    obtain ⟨-, done⟩ := done
    obtain ⟨repository', written, rfl⟩ := writes_ok done
    exact .patch written (fun _ => rfl) fun _ => rfl

theorem archive_preserves (done : archive d db runId = .ok (updated, db')) :
    Preserves (fun _ => False) db.repository db'.repository := by
  simp only [archive, bind_ok] at done
  obtain ⟨run, -, done⟩ := done
  split at done
  · cases done
    exact .refl _ _
  · simp only [bind_ok, revertIf_ok, exists_const] at done
    obtain ⟨-, done⟩ := done
    split at done
    · simp only [bind_ok] at done
      obtain ⟨-, -, refused⟩ := done
      cases refused
    · split at done
      · obtain ⟨repository', written, rfl⟩ := writes_ok done
        exact .patch written (fun _ => rfl) fun _ => rfl
      · obtain ⟨repository', written, rfl⟩ := writes_ok done
        exact .patch written (fun _ => rfl) fun _ => rfl

theorem createRun_preserves {input : CreateDemoRunInput} {maxRunsPerHour : Nat}
    {now timestamp : Timestamp} {result : DemoRun × Bool}
    (done : repository.createRun input maxRunsPerHour now timestamp = .ok (result, repository')) :
    Preserves (fun id => repository.get id = none) repository repository' := by
  have changed := createRun_changed (R := fun _ _ => True) done
  unfold DemoRepository.createRun at done
  split at done
  · cases done
    exact .refl _ _
  split at done
  · cases done
  simp only [bind_ok, revertIf_ok, exists_const, pure_ok, Prod.mk.injEq] at done
  obtain ⟨-, -, -, rfl⟩ := done
  constructor
  · intro keyed
    refine ⟨changed.distinct keyed.distinct, ?_⟩
    intro run member other member' different
    -- a new run has neither a job nor an order
    have new {row : DemoRun} (added : row ∈ [({ input, createdAt := timestamp } : DemoRun)]) :
        row.jobId = none ∧ row.orderId = none := by
      rw [List.mem_singleton.mp added]
      exact ⟨rfl, rfl⟩
    rcases List.mem_append.mp member with old | added
    · rcases List.mem_append.mp member' with old' | added'
      · exact keyed.apart run old other old' different
      · simp [new added', sameKey]
    · rw [(new added).1, (new added).2, DemoRepository.sameKey_comm,
        DemoRepository.sameKey_comm other.orderId]
      exact ⟨rfl, rfl⟩
  · intro id there
    obtain ⟨run, found⟩ := Option.ne_none_iff_exists'.mp there
    unfold DemoRepository.fund
    rw [DemoRepository.get_append found, found]

variable {config : TreasuryConfig} {balance : Nat} {s : DemoStore} {event : DemoOutside}

/-- The event clears the record of the run's fund transaction, as a reverted one. -/
def ClearsFund (s : DemoStore) (runId : RunId) : DemoOutside → Prop
  | .retry id _ | .interruptedRetry id => runId = id ∧ Clears s.repository runId
  | _ => False

/-- What the presenter does leaves the records of the runs as they are, unless it clears one. -/
theorem outside_preserves (permitted : (demoHost d config balance).permits s event) :
    Preserves (fun id => ClearsFund s id event ∨ s.repository.get id = none) s.repository
      (outside d config balance s event).repository := by
  cases event with
  | createRun input now timestamp =>
    simp only [outside]
    split
    next done => exact (createRun_preserves done).mono fun _ => .inr
    next => exact .refl _ _
  | purchase runId =>
    simp only [outside, DemoStore.acted]
    split
    next done => exact (purchase_preserves done).mono fun _ => False.elim
    next => exact .refl _ _
  | retry runId nextKey =>
    simp only [outside, DemoStore.acted]
    split
    next done => exact (retry_preserves done).mono fun _ => .inl
    next => exact .refl _ _
  | interruptedRetry runId =>
    simp only [outside, DemoStore.acted]
    split
    next done =>
      simp only [bind_ok] at done
      obtain ⟨run, found, done⟩ := done
      replace found := requireRun_eq found
      obtain ⟨row, there, failed⟩ := permitted
      cases found.symm.trans there
      have here := DemoRepository.get_id found
      subst here
      obtain ⟨repository', clears, rfl⟩ := writes_ok done
      exact (cleared_preserves found failed clears).mono fun _ => .inl
    next => exact .refl _ _
  | archive runId =>
    simp only [outside, DemoStore.acted]
    split
    next done => exact (archive_preserves done).mono fun _ => False.elim
    next => exact .refl _ _
  | _ => exact .refl _ _

end Actions

section Chain

variable {s s' : DemoStore} {runId : RunId}

/-- The transaction funds nothing and never will. -/
def FundTransaction.ineffective (tx : FundTransaction) : Bool :=
  tx.fate = .reverted || tx.fate = .lost

/-- No transaction of the run funds its escrow, now or later. -/
def DemoStore.Unfunded (s : DemoStore) (runId : RunId) : Prop :=
  ∀ tx ∈ s.chain.funds, tx.runId = runId → tx.ineffective = true

/-- Each transaction of the run has come to nothing, or has this hash. -/
def DemoStore.Bears (s : DemoStore) (runId : RunId) (hash : Hex) : Prop :=
  ∀ tx ∈ s.chain.funds, tx.runId = runId → tx.ineffective = true ∨ tx.hash = some hash

/-- Each transaction of the run has come to nothing, or is the one on record. -/
def DemoStore.Tracked (s : DemoStore) (runId : RunId) : Prop :=
  ∀ tx ∈ s.chain.funds, tx.runId = runId → tx.ineffective = true ∨
    ∃ hash, tx.hash = some hash ∧ s.repository.fund runId = some (some (.hash hash))

/-- The transaction that is on record for the run has been reverted. -/
def DemoStore.Reverted (s : DemoStore) (runId : RunId) : Prop :=
  ∀ tx ∈ s.chain.funds, tx.runId = runId → ∀ hash, tx.hash = some hash →
    s.repository.fund runId = some (some (.hash hash)) → tx.fate = .reverted

/-- If it has been reverted, no transaction of the run takes effect any more. -/
theorem DemoStore.Tracked.unfunded (tracked : s.Tracked runId) (reverted : s.Reverted runId) :
    s.Unfunded runId := by
  intro tx member own
  rcases tracked tx member own with ineffective | ⟨hash, known, recorded⟩
  · exact ineffective
  · simp [FundTransaction.ineffective, reverted tx member own hash known recorded]

/-- A transaction that is on its way to a node has no hash yet. -/
def FundTransaction.unhashed (tx : FundTransaction) : Prop := tx.fate = .requested → tx.hash = none

def DemoStore.Unhashed (s : DemoStore) : Prop := ∀ tx ∈ s.chain.funds, tx.unhashed

/-- What may become of a transaction: nothing, if it has come to nothing, and its hash stays. -/
def FundTransaction.Becomes (tx tx' : FundTransaction) : Prop :=
  tx'.runId = tx.runId ∧ (tx.ineffective = true → tx' = tx) ∧
    (tx.unhashed → tx'.unhashed ∧ ∀ hash, tx.hash = some hash → tx'.hash = some hash)

theorem FundTransaction.Becomes.refl (tx : FundTransaction) : tx.Becomes tx :=
  ⟨rfl, fun _ => rfl, fun unhashed => ⟨unhashed, fun _ same => same⟩⟩

/-- Every transaction of the run was there before. -/
def OldFunds (s s' : DemoStore) (runId : RunId) : Prop :=
  ∀ tx' ∈ s'.chain.funds, tx'.runId = runId → ∃ tx ∈ s.chain.funds, tx.runId = runId ∧ tx.Becomes tx'

theorem OldFunds.unfunded (old : OldFunds s s' runId) (unfunded : s.Unfunded runId) :
    s'.Unfunded runId := by
  intro tx' member own
  obtain ⟨tx, member, own, -, same, -⟩ := old tx' member own
  have ineffective := unfunded tx member own
  rw [same ineffective, ineffective]

theorem OldFunds.of_eq (same : s'.chain.funds = s.chain.funds) : OldFunds s s' runId :=
  fun tx' member own => ⟨tx', same ▸ member, own, .refl tx'⟩

/-- A transaction of another run is sent. -/
theorem OldFunds.of_append {tx : FundTransaction} (more : s'.chain.funds = s.chain.funds ++ [tx])
    (other : tx.runId ≠ runId) : OldFunds s s' runId := by
  intro tx' member own
  rw [more] at member
  rcases List.mem_append.mp member with old | new
  · exact ⟨tx', old, own, .refl tx'⟩
  · obtain rfl := List.mem_singleton.mp new
    exact absurd own other

theorem OldFunds.tracked (old : OldFunds s s' runId) (unhashed : s.Unhashed)
    (kept : ∀ reference, s.repository.fund runId = some (some reference) →
      s'.repository.fund runId = some (some reference)) (tracked : s.Tracked runId) :
    s'.Tracked runId := by
  intro tx' member' own'
  obtain ⟨tx, member, own, -, same, hashed⟩ := old tx' member' own'
  rcases tracked tx member own with ineffective | ⟨hash, known, recorded⟩
  · left
    rw [same ineffective, ineffective]
  · exact .inr ⟨hash, (hashed (unhashed tx member)).2 hash known, kept _ recorded⟩

theorem OldFunds.bears {hash : Hex} (old : OldFunds s s' runId) (unhashed : s.Unhashed)
    (bears : s.Bears runId hash) : s'.Bears runId hash := by
  intro tx' member' own'
  obtain ⟨tx, member, own, -, same, hashed⟩ := old tx' member' own'
  rcases bears tx member own with ineffective | known
  · left
    rw [same ineffective, ineffective]
  · exact .inr ((hashed (unhashed tx member)).2 hash known)

theorem settle_funds {chain : DemoChain} {index : Nat} {fate : Fate} {hash : Hex}
    (permitted : ∃ tx, chain.funds[index]? = some tx ∧ chain.Permits tx fate)
    {tx' : FundTransaction} (member : tx' ∈ (chain.settle index fate hash).funds) :
    ∃ tx ∈ chain.funds, tx.Becomes tx' := by
  obtain ⟨tx, found, permits⟩ := permitted
  simp only [DemoChain.settle, found] at member
  rcases List.mem_or_eq_of_mem_set member with old | rfl
  · exact ⟨tx', old, .refl tx'⟩
  · refine ⟨tx, List.mem_of_getElem? found, rfl, fun ineffective => ?_, fun unhashed => ⟨?_, ?_⟩⟩
    · -- nothing more becomes of it
      simp only [FundTransaction.ineffective, Bool.or_eq_true, decide_eq_true_eq] at ineffective
      cases fate <;> rcases ineffective with ended | ended <;>
        simp [DemoChain.Permits, ended] at permits
    · rintro rfl
      exact permits.elim
    · intro known same
      by_cases pending : fate = .pending
      · subst pending
        rw [unhashed permits] at same
        cases same
      · exact (if_neg pending).trans same

variable {d : DemoDependencies} {config : TreasuryConfig} {balance : Nat} {event : DemoOutside}

theorem acted_chain (result : Except DemoError (DemoRun × DemoDatabase)) :
    (s.acted result).chain = s.chain := by
  unfold DemoStore.acted
  split <;> rfl

theorem outside_funds (permitted : (demoHost d config balance).permits s event) :
    ∀ tx' ∈ (outside d config balance s event).chain.funds,
      ∃ tx ∈ s.chain.funds, tx.Becomes tx' := by
  have still (same : (outside d config balance s event).chain.funds = s.chain.funds) :
      ∀ tx' ∈ (outside d config balance s event).chain.funds,
        ∃ tx ∈ s.chain.funds, tx.Becomes tx' :=
    fun tx' member => ⟨tx', same ▸ member, .refl tx'⟩
  cases event with
  | createRun input now timestamp =>
    apply still
    simp only [outside]
    split <;> rfl
  | purchase runId => exact still (by rw [outside, acted_chain])
  | retry runId nextKey => exact still (by rw [outside, acted_chain])
  | interruptedRetry runId => exact still (by rw [outside, acted_chain])
  | archive runId =>
    apply still
    simp only [outside]
    rw [acted_chain]
  | review => exact still rfl
  | finish => exact still rfl
  | fund index fate hash => exact fun tx' member => settle_funds permitted member
  | status => exact still rfl

theorem outside_oldFunds (permitted : (demoHost d config balance).permits s event) (runId : RunId) :
    OldFunds s (outside d config balance s event) runId := by
  intro tx' member own
  obtain ⟨tx, old, becomes⟩ := outside_funds permitted tx' member
  exact ⟨tx, old, becomes.1.symm.trans own, becomes⟩

end Chain

section Activities

variable {runId : RunId} {s : DemoStore}

/-- The activity has no fund transaction that it has still to record. -/
inductive Steady (runId : RunId) : DemoActivity → Prop
  | idle : Steady runId .idle
  | running {program : DemoProgram} : Records runId program → Steady runId (.running program)
  | waiting {message : DemoRequest} {rest : Except DemoError DemoReply → DemoProgram} :
      (∀ jobId, message.call ≠ .sendFund jobId) → (∀ answer, Records runId (rest answer)) →
      Steady runId (.waiting message rest)

/-- The activity waits for the hash of a fund transaction, or has it and is about to write it. -/
inductive Sends (runId : RunId) (s : DemoStore) : DemoActivity → Prop
  | waiting {jobId : Nat} {rest : Except DemoError DemoReply → DemoProgram}
      (next : Hex → Timestamp → DemoStore → DemoProgram) :
      (∀ hash, rest (.ok (.sent hash)) = .sync (fun _ => recorded runId hash) (next hash)) →
      (∀ hash now s, Records runId (next hash now s)) →
      (∀ answer, (∀ hash, answer ≠ .ok (.sent hash)) → Records runId (rest answer)) →
      Sends runId s (.waiting ⟨runId, .sendFund jobId⟩ rest)
  | running {hash : Hex} {next : Timestamp → DemoStore → DemoProgram} : s.Bears runId hash →
      (∀ now s, Records runId (next now s)) →
      Sends runId s (.running (.sync (fun _ => recorded runId hash) next))

/-- The activity of the run has broadcast a fund transaction, and has not taken the step after the
reply yet. -/
def Between (runId : RunId) : List (DemoState × DemoEvent) → Prop
  | [] => False
  | (v, .advance key _) :: earlier =>
    if key = runId then
      ∃ jobId rest, v.activity runId = .running (.request ⟨runId, .sendFund jobId⟩ rest)
    else Between runId earlier
  | (_, .crash) :: _ => False
  | _ :: earlier => Between runId earlier

/-- A step at which no hash is lost. The reply to a broadcast is the hash of each transaction of the
run that may take effect; where an activity ends between a broadcast and the step after its reply,
nothing comes of the transaction; and where a `retry` clears the record of a transaction, it has
indeed been reverted. -/
def NothingLost (history : List (DemoState × DemoEvent)) (v : DemoState) : DemoEvent → Prop
  | .reply runId answer => ∀ jobId rest, v.activity runId = .waiting ⟨runId, .sendFund jobId⟩ rest →
      ∀ tx ∈ v.store.chain.funds, tx.runId = runId → tx.ineffective = true ∨
        ∃ hash, answer = .ok (.sent hash) ∧ tx.hash = some hash
  | .crash => ∀ runId, Between runId history → v.store.Unfunded runId
  | .outside event => ∀ runId, ClearsFund v.store runId event → v.store.Reverted runId
  | _ => True

/-- No hash is lost at any step of the run. -/
def NoneLost : List (DemoState × DemoEvent) → Prop
  | [] => True
  | (v, event) :: earlier => NothingLost earlier v event ∧ NoneLost earlier

/-- Each run is in one of two phases: its transactions are tracked, or one is being recorded. -/
def Follows (history : List (DemoState × DemoEvent)) (v : DemoState) (runId : RunId) : Prop :=
  Steady runId (v.activity runId) ∧ v.store.Tracked runId ∨
    Between runId history ∧ (∃ run, v.store.repository.get runId = some run) ∧
      Sends runId v.store (v.activity runId)

structure Tracking (history : List (DemoState × DemoEvent)) (v : DemoState) : Prop where
  keyed : v.store.repository.Keyed
  unhashed : v.store.Unhashed
  follows : ∀ runId, Follows history v runId

end Activities

section Steps

variable {d : DemoDependencies} {config : TreasuryConfig} {balance : Nat} {s s' : DemoStore}
  {history : List (DemoState × DemoEvent)} {v u : DemoState} {entry : DemoState × DemoEvent}
  {runId : RunId}

theorem Sends.later {activity : DemoActivity} (sends : Sends runId s activity)
    (bears : ∀ hash, s.Bears runId hash → s'.Bears runId hash) : Sends runId s' activity := by
  cases sends with
  | waiting next recorded records lost => exact .waiting next recorded records lost
  | running here records => exact .running (bears _ here) records

/-- The row of the run stays, with what it has on record, and no transaction of it is sent. -/
structure Leaves (runId : RunId) (s s' : DemoStore) : Prop where
  there : ∀ run, s.repository.get runId = some run → ∃ run, s'.repository.get runId = some run
  old : OldFunds s s' runId
  kept : ∀ reference, s.repository.fund runId = some (some reference) →
    s'.repository.fund runId = some (some reference)

theorem Leaves.of_same (repository : s'.repository = s.repository) (old : OldFunds s s' runId) :
    Leaves runId s s' :=
  ⟨fun run found => ⟨run, repository ▸ found⟩, old, fun _ known => repository ▸ known⟩

theorem Leaves.refl (runId : RunId) (s : DemoStore) : Leaves runId s s :=
  .of_same rfl (.of_eq rfl)

theorem there_of_fund (same : s'.repository.fund runId = s.repository.fund runId) (run : DemoRun)
    (found : s.repository.get runId = some run) : ∃ run, s'.repository.get runId = some run := by
  rw [DemoRepository.fund, DemoRepository.fund, found, Option.map_some] at same
  obtain ⟨row, written, -⟩ := Option.map_eq_some_iff.mp same
  exact ⟨row, written⟩

theorem Kept.leaves (kept : Kept s s') (runId : RunId) : Leaves runId s s' :=
  ⟨there_of_fund (kept.fund runId), .of_eq kept.funds, fun _ known => (kept.fund runId).trans known⟩

/-- The row of a run that is there takes the hash, and no other row changes. -/
theorem recorded_there {hash : Hex} {run : DemoRun} (keyed : s.repository.Keyed)
    (found : s.repository.get runId = some run) :
    (recorded runId hash s).repository.Keyed ∧ (recorded runId hash s).chain = s.chain ∧
      (recorded runId hash s).repository.fund runId = some (some (.hash hash)) ∧
      ∀ other, other ≠ runId →
        (recorded runId hash s).repository.fund other = s.repository.fund other := by
  obtain ⟨repository, written⟩ : ∃ repository, s.repository.patch runId (fun run =>
      { run with transactions := update run.transactions .fund (some (.hash hash)) }) =
        .ok (_, repository) := DemoRepository.patch_there keyed found rfl rfl
  obtain ⟨row, -, -, here, others⟩ := DemoRepository.patch_ok written fun _ => rfl
  have value : recorded runId hash s = { s with repository } := by
    simp only [recorded, DemoRepository.recordTransaction, written]
  rw [value]
  refine ⟨DemoRepository.patch_keyed written (fun _ => rfl) keyed, rfl, ?_, ?_⟩
  · rw [DemoRepository.fund, here, Option.map_some]
    simp only [update_self]
  · intro other different
    rw [DemoRepository.fund, DemoRepository.fund, others other different]

theorem issue_quiet {message : DemoRequest} (other : ∀ jobId, message.call ≠ .sendFund jobId) :
    (s.issue message).repository = s.repository ∧ (s.issue message).chain = s.chain := by
  obtain ⟨runId, call⟩ := message
  cases call with
  | sendFund jobId => exact absurd rfl (other jobId)
  | _ => exact ⟨rfl, rfl⟩

/-- What the presenter does keeps a run's record, unless it clears it. -/
theorem outside_leaves {event : DemoOutside}
    (permitted : (demoHost d config balance).permits s event) (keeps : ¬ ClearsFund s runId event) :
    Leaves runId s (outside d config balance s event) := by
  have same (run : DemoRun) (found : s.repository.get runId = some run) :
      (outside d config balance s event).repository.fund runId = s.repository.fund runId := by
    apply (outside_preserves permitted).fund
    rintro (clears | absent)
    · exact keeps clears
    · rw [found] at absent
      cases absent
  refine ⟨fun run found => there_of_fund (same run found) run found,
    outside_oldFunds permitted runId, fun reference known => ?_⟩
  obtain ⟨run, found, -⟩ := Option.map_eq_some_iff.mp known
  exact (same run found).trans known

theorem OldFunds.unhashed (old : ∀ runId, OldFunds s s' runId) (unhashed : s.Unhashed) :
    s'.Unhashed := by
  intro tx' member
  obtain ⟨tx, there, -, -, -, becomes⟩ := old tx'.runId tx' member rfl
  exact (becomes (unhashed tx there)).1

/-- A step that does nothing to a run leaves it in its phase. -/
theorem Follows.still (follows : Follows history v runId) (unhashed : v.store.Unhashed)
    (activity : u.activity runId = v.activity runId)
    (between : Between runId history → Between runId (entry :: history))
    (leaves : Leaves runId v.store u.store) : Follows (entry :: history) u runId := by
  unfold Follows
  rw [activity]
  rcases follows with ⟨steady, tracked⟩ | ⟨broadcast, ⟨run, found⟩, sends⟩
  · exact .inl ⟨steady, leaves.old.tracked unhashed leaves.kept tracked⟩
  · exact .inr ⟨between broadcast, leaves.there run found,
      sends.later fun _ => leaves.old.bears unhashed⟩

/-- One activity moves, and the step does nothing to the other runs. -/
theorem Tracking.moved (tracking : Tracking history v) {key : RunId}
    {moved : State DemoStore Timestamp DemoRequest DemoReply DemoError}
    (keyed : moved.store.repository.Keyed) (unhashed : moved.store.Unhashed)
    (between : ∀ other, other ≠ key → Between other history → Between other (entry :: history))
    (others : ∀ other, other ≠ key → Leaves other v.store moved.store)
    (own : Follows (entry :: history) (v.put key moved) key) :
    Tracking (entry :: history) (v.put key moved) := by
  refine ⟨keyed, unhashed, fun other => ?_⟩
  by_cases here : other = key
  · rw [here]
    exact own
  · apply (tracking.follows other).still tracking.unhashed _ (between other here) (others other here)
    exact update_of_ne here _ _

/-- One activity moves, and nothing is written. -/
theorem Tracking.unwritten (tracking : Tracking history v) {key : RunId} {activity : DemoActivity}
    (between : ∀ other, other ≠ key → Between other history → Between other (entry :: history))
    (own : Follows (entry :: history) (v.put key ⟨v.store, activity⟩) key) :
    Tracking (entry :: history) (v.put key ⟨v.store, activity⟩) :=
  tracking.moved tracking.keyed tracking.unhashed between (fun other _ => .refl other _) own

theorem Between.advance {key other : RunId} {now : Timestamp} (different : other ≠ key)
    (broadcast : Between other history) : Between other ((v, .advance key now) :: history) := by
  rw [Between, if_neg different.symm]
  exact broadcast

theorem put_self (v : DemoState) (key : RunId) : v.put key ⟨v.store, v.activity key⟩ = v := by
  simp [PoolState.put]

/-- An activity that has nothing to record runs, and what has been sent is tracked. -/
theorem Follows.running {program : DemoProgram} (records : Records runId program)
    (tracked : s.Tracked runId) : Follows history (v.put runId ⟨s, .running program⟩) runId := by
  left
  simp only [PoolState.put, update_self]
  exact ⟨.running records, tracked⟩

section Events

variable (tracking : Tracking history v)
include tracking

theorem Tracking.start (key : RunId) :
    Tracking ((v, .start key) :: history) ((demo d config balance).next v (.start key)) := by
  change Tracking _ (v.put key ((demoHost d config balance).next (v.only key) (.start key)))
  simp only [Host.next, PoolState.only]
  split
  next idle =>
    apply tracking.unwritten (fun _ _ broadcast => by exact broadcast)
    rcases tracking.follows key with ⟨-, tracked⟩ | ⟨-, -, sends⟩
    · exact .running (processRun_records d key) tracked
    · rw [idle] at sends
      cases sends
  next =>
    apply tracking.unwritten (fun _ _ broadcast => by exact broadcast)
    rw [put_self]
    exact (tracking.follows key).still tracking.unhashed rfl id (.refl key _)

/-- A request for a fund transaction, whose row is there. -/
theorem Tracking.sends {key : RunId} {now : Timestamp} {jobId : Nat}
    {rest : Except DemoError DemoReply → DemoProgram}
    (next : Hex → Timestamp → DemoStore → DemoProgram)
    (there : ∃ run, v.store.repository.get key = some run)
    (running : v.activity key = .running (.request ⟨key, .sendFund jobId⟩ rest))
    (writes : ∀ hash, rest (.ok (.sent hash)) = .sync (fun _ => recorded key hash) (next hash))
    (sent : ∀ hash now s, Records key (next hash now s))
    (lost : ∀ answer, (∀ hash, answer ≠ .ok (.sent hash)) → Records key (rest answer)) :
    Tracking ((v, .advance key now) :: history)
      (v.put key ⟨v.store.issue ⟨key, .sendFund jobId⟩, .waiting ⟨key, .sendFund jobId⟩ rest⟩) := by
  apply tracking.moved tracking.keyed _ (fun other different => Between.advance different) _
  · right
    refine ⟨?_, there, ?_⟩
    · rw [Between, if_pos rfl]
      exact ⟨jobId, rest, running⟩
    · simp only [PoolState.put, update_self]
      exact .waiting next writes sent lost
  · intro tx member
    rcases List.mem_append.mp member with old | new
    · exact tracking.unhashed tx old
    · rw [List.mem_singleton.mp new]
      exact fun _ => rfl
  · intro other different
    exact .of_same rfl (.of_append rfl different.symm)

theorem Tracking.advance {key : RunId} {now : Timestamp} {program : DemoProgram}
    (activity : v.activity key = .running program)
    (there : ∀ jobId rest, program = .request ⟨key, .sendFund jobId⟩ rest →
      ∃ run, v.store.repository.get key = some run) :
    Tracking ((v, .advance key now) :: history)
      ((demo d config balance).next v (.advance key now)) := by
  have passes (other : RunId) (different : other ≠ key) :
      Between other history → Between other ((v, .advance key now) :: history) :=
    Between.advance different
  change Tracking _ (v.put key ((demoHost d config balance).next (v.only key) (.advance now)))
  simp only [Host.next, PoolState.only, activity]
  have phase := tracking.follows key
  unfold Follows at phase
  rw [activity] at phase
  rcases phase with ⟨steady, tracked⟩ | ⟨-, ⟨run, found⟩, sends⟩
  · cases steady with
    | running records =>
      cases records with
      | done =>
        apply tracking.unwritten passes
        left
        simp only [PoolState.put, update_self]
        exact ⟨.idle, tracked⟩
      | sync kept records =>
        have kept := kept now v.store
        apply tracking.moved (kept.keyed tracking.keyed) _ passes fun other _ => kept.leaves other
        · apply Follows.running (records now v.store)
          exact (kept.leaves key).old.tracked tracking.unhashed (kept.leaves key).kept tracked
        · exact OldFunds.unhashed (fun other => (kept.leaves other).old) tracking.unhashed
      | request other records =>
        -- what awaits an answer has sent nothing yet
        obtain ⟨repository, chain⟩ := issue_quiet (s := v.store) other
        have leaves (id : RunId) : Leaves id v.store (v.store.issue _) :=
          .of_same repository (.of_eq (congrArg DemoChain.funds chain))
        apply tracking.moved (repository ▸ tracking.keyed) _ passes fun id _ => leaves id
        · left
          simp only [PoolState.put, update_self]
          exact ⟨.waiting other records,
            (leaves key).old.tracked tracking.unhashed (leaves key).kept tracked⟩
        · exact OldFunds.unhashed (fun id => (leaves id).old) tracking.unhashed
      -- the one step that broadcasts, on its own
      | send next writes sent lost =>
        exact tracking.sends next (there _ _ rfl) activity writes sent lost
  · -- a run whose transaction is out records the hash next
    cases sends with
    | @running hash next bears records =>
      obtain ⟨keyed, chain, here, others⟩ : (recorded key hash v.store).repository.Keyed ∧ _ :=
        recorded_there tracking.keyed found
      have old (id : RunId) : OldFunds v.store (recorded key hash v.store) id :=
        .of_eq (congrArg DemoChain.funds chain)
      apply tracking.moved keyed (OldFunds.unhashed old tracking.unhashed) passes
      · intro other different
        have same := others other different
        exact ⟨there_of_fund same, old other, fun _ known => same.trans known⟩
      · apply Follows.running (records now v.store)
        -- the hash that the transactions of the run have is on record now
        intro tx member own
        rw [chain] at member
        exact (bears tx member own).imp_right fun known => ⟨hash, known, here⟩

theorem Tracking.reply {key : RunId} {answer : Except DemoError DemoReply}
    {message : DemoRequest} {rest : Except DemoError DemoReply → DemoProgram}
    (activity : v.activity key = .waiting message rest)
    (kept : NothingLost history v (.reply key answer)) :
    Tracking ((v, .reply key answer) :: history)
      ((demo d config balance).next v (.reply key answer)) := by
  change Tracking _ (v.put key ((demoHost d config balance).next (v.only key) (.reply answer)))
  simp only [Host.next, PoolState.only, activity]
  apply tracking.unwritten (fun _ _ broadcast => by exact broadcast)
  have phase := tracking.follows key
  unfold Follows at phase
  rw [activity] at phase
  rcases phase with ⟨steady, tracked⟩ | ⟨broadcast, there, sends⟩
  · cases steady with
    | waiting _ records => exact .running (records answer) tracked
  · cases sends with
    | waiting next writes records lost =>
      by_cases sent : ∃ hash, answer = .ok (.sent hash)
      · obtain ⟨hash, rfl⟩ := sent
        right
        simp only [PoolState.put, update_self, writes]
        refine ⟨broadcast, there, .running (fun tx member own => ?_) (records hash)⟩
        apply (kept _ _ activity tx member own).imp_right
        rintro ⟨hash', same, known⟩
        cases same
        exact known
      · have other : ∀ hash, answer ≠ .ok (.sent hash) := fun hash same => sent ⟨hash, same⟩
        apply Follows.running (lost answer other)
        intro tx member own
        apply (kept _ _ activity tx member own).imp_right
        rintro ⟨hash, same, -⟩
        exact absurd same (other hash)

theorem Tracking.crash (kept : NothingLost history v .crash) :
    Tracking ((v, .crash) :: history) ((demo d config balance).next v .crash) := by
  refine ⟨tracking.keyed, tracking.unhashed, fun runId => .inl ⟨.idle, ?_⟩⟩
  rcases tracking.follows runId with ⟨-, tracked⟩ | ⟨broadcast, -⟩
  · exact tracked
  · exact fun tx member own => .inl (kept runId broadcast tx member own)

theorem Tracking.outside {event : DemoOutside}
    (permitted : (demoHost d config balance).permits v.store event)
    (kept : NothingLost history v (.outside event)) :
    Tracking ((v, .outside event) :: history)
      ((demo d config balance).next v (.outside event)) := by
  have old := outside_oldFunds permitted
  refine ⟨(outside_preserves permitted).keyed tracking.keyed,
    OldFunds.unhashed old tracking.unhashed, fun runId => ?_⟩
  have follows := tracking.follows runId
  by_cases clears : ClearsFund v.store runId event
  · rcases follows with ⟨steady, tracked⟩ | ⟨broadcast, there, sends⟩
    · -- what is cleared from the record takes no effect any more
      have unfunded := (old runId).unfunded (tracked.unfunded (kept runId clears))
      exact .inl ⟨steady, fun tx member own => .inl (unfunded tx member own)⟩
    · refine .inr ⟨broadcast, ?_, sends.later fun _ => (old runId).bears tracking.unhashed⟩
      obtain ⟨run, found⟩ := there
      obtain ⟨row, written, -⟩ := (outside_changed permitted).keeps (P := fun _ => True)
        (fun _ _ _ _ => trivial) ⟨run, found, trivial⟩
      exact ⟨row, written⟩
  · exact follows.still tracking.unhashed rfl (fun broadcast => by exact broadcast)
      (outside_leaves permitted clears)

/-- Every step keeps track of the transactions if no hash is lost at it. -/
theorem Tracking.step {event : DemoEvent} (run : DemoServiceRun d config balance history v)
    (admitted : (demo d config balance).admits v event) (kept : NothingLost history v event) :
    Tracking ((v, event) :: history) ((demo d config balance).next v event) := by
  cases event with
  | start key => exact tracking.start key
  | advance key now =>
    obtain ⟨⟨program, activity⟩, -⟩ := id admitted
    apply tracking.advance activity
    rintro jobId rest rfl
    -- only a run that is there sends a fund transaction
    have more : ((demo d config balance).next v (.advance key now)).store.chain.funds =
        v.store.chain.funds ++ [{ runId := key, jobId }] := by
      change (v.put key ((demoHost d config balance).next (v.only key) (.advance now))).store.chain.funds = _
      simp only [Host.next, PoolState.only, activity]
      rfl
    rcases service_step run admitted with same | ⟨runId, -, -, moves⟩ | ⟨event, same, -⟩
    · rw [same] at more
      simp at more
    · rcases moves.funds with same | ⟨row, jobId', found, -, -, more'⟩
      · rw [same] at more
        simp at more
      · rw [more] at more'
        have sent := List.append_cancel_left more'
        simp only [List.cons.injEq, FundTransaction.mk.injEq, and_true] at sent
        exact ⟨row, sent.1 ▸ found⟩
    · cases same
  | reply key answer =>
    obtain ⟨-, message, rest, activity, -⟩ := admitted
    exact tracking.reply activity kept
  | crash => exact tracking.crash kept
  | outside event => exact tracking.outside admitted.1 kept

end Events

/-- As long as no hash is lost, the transactions of every run are tracked or about to be recorded. -/
theorem transactions_tracked (run : DemoServiceRun d config balance history v)
    (noneLost : NoneLost history) : Tracking history v := by
  refine run.historyInvariant (fun history v => NoneLost history → Tracking history v) ?_ ?_ noneLost
  · intro _
    constructor
    · exact ⟨List.nodup_nil, fun _ member => absurd member List.not_mem_nil⟩
    · exact fun _ member => absurd member List.not_mem_nil
    · exact fun runId => .inl ⟨.idle, fun _ member => absurd member List.not_mem_nil⟩
  · intro history v event run ih admitted ⟨here, before⟩
    exact (ih before).step run admitted here

end Steps

end VapiArc.Demo
