import VapiArc.Review.Chain

/-!
# The scan for a deliverable's commitment

The scan goes down from the head in ranges that tile the blocks it looks back on, and stops
in the range that holds the last submission of the job.
-/
namespace VapiArc.Review

/-- What `getLogs` answers, on a chain whose logs are listed in chain order. -/
def matchingLogs (history : List JobSubmitted) (query : LogQuery) : List JobSubmitted :=
  history.filter query.matching

/-- The client reads a chain with this head and these logs. -/
structure PublicClient.Serves (client : PublicClient) (history : List JobSubmitted) (latest : ℤ) :
    Prop where
  head : client.getBlockNumber = .ok latest
  logs : ∀ query, client.getLogs query = .ok (matchingLogs history query)

def ChainOrder (history : List JobSubmitted) : Prop :=
  history.Pairwise (·.blockNumber ≤ ·.blockNumber)

instance (history : List JobSubmitted) : Decidable (ChainOrder history) :=
  inferInstanceAs (Decidable (history.Pairwise (·.blockNumber ≤ ·.blockNumber)))

/-- The scan has queried these blocks and no others. -/
def Scan.Covers (scan : Scan) (first last : ℤ) : Prop :=
  ∀ block, (∃ query ∈ scan.queries, query.fromBlock ≤ block ∧ block ≤ query.toBlock) ↔
    first ≤ block ∧ block ≤ last

structure LogQuery.Within (query range : LogQuery) : Prop where
  jobId : query.jobId = range.jobId
  first : range.fromBlock ≤ query.fromBlock
  nonempty : query.fromBlock ≤ query.toBlock
  last : query.toBlock ≤ range.toBlock
  short : query.toBlock - query.fromBlock + 1 ≤ 2000

/-- A scan of a range of blocks: it finds the last log of the range, in the last of its
queries, and without any it has queried the whole range. -/
structure Scan.Finds (scan : Scan) (history : List JobSubmitted) (range : LogQuery) : Prop where
  hit : ∀ log, (matchingLogs history range).getLast? = some log →
    scan.outcome = .ok log.deliverable ∧
      ∃ query, scan.queries.getLast? = some query ∧ query.matching log = true ∧
        scan.Covers query.fromBlock range.toBlock
  miss : matchingLogs history range = [] →
    scan.outcome = .error (.validation deliverableCommitmentNotFound) ∧
      scan.Covers range.fromBlock range.toBlock
  disjoint : scan.queries.Pairwise fun query next => next.toBlock < query.fromBlock
  within : ∀ query ∈ scan.queries, query.Within range
  few : scan.queries.length ≤ (range.toBlock + 1 - range.fromBlock).toNat / 2000 + 1

section Ranges

variable {history : List JobSubmitted} {jobId : Nat} {first middle last : ℤ}

theorem LogQuery.matching_iff {query : LogQuery} {log : JobSubmitted} :
    query.matching log = true ↔ log.jobId = query.jobId ∧ query.fromBlock ≤ log.blockNumber ∧
      log.blockNumber ≤ query.toBlock := by
  simp [LogQuery.matching]

variable (jobId) in
/-- In chain order the logs below a block come before those from it on. -/
theorem matchingLogs_split (ordered : ChainOrder history) (above : first ≤ middle)
    (below : middle ≤ last + 1) :
    matchingLogs history ⟨jobId, first, last⟩ =
      matchingLogs history ⟨jobId, first, middle - 1⟩ ++ matchingLogs history ⟨jobId, middle, last⟩ := by
  induction history with
  | nil => rfl
  | cons log rest ih =>
    obtain ⟨least, ordered⟩ := List.pairwise_cons.mp ordered
    have tail := ih ordered
    unfold matchingLogs at tail ⊢
    by_cases early : log.blockNumber < middle
    · have later : LogQuery.matching ⟨jobId, middle, last⟩ log = false := by
        simp only [LogQuery.matching, decide_eq_false_iff_not]
        omega
      have same : LogQuery.matching ⟨jobId, first, last⟩ log =
          LogQuery.matching ⟨jobId, first, middle - 1⟩ log := by
        simp only [LogQuery.matching, decide_eq_decide]
        omega
      rw [List.filter_cons, List.filter_cons, List.filter_cons, later, same, tail]
      split <;> rfl
    · -- From here on the chain has no log below the middle.
      have none : ∀ other ∈ log :: rest, LogQuery.matching ⟨jobId, first, middle - 1⟩ other = false := by
        intro other member
        have late : log.blockNumber ≤ other.blockNumber := by
          rcases List.mem_cons.mp member with rfl | member
          · exact Int.le_refl _
          · exact least other member
        simp only [LogQuery.matching, decide_eq_false_iff_not]
        omega
      have same : ∀ other ∈ log :: rest, LogQuery.matching ⟨jobId, first, last⟩ other =
          LogQuery.matching ⟨jobId, middle, last⟩ other := by
        intro other member
        have absent := none other member
        simp only [LogQuery.matching, decide_eq_false_iff_not] at absent
        simp only [LogQuery.matching, decide_eq_decide]
        omega
      have empty : (log :: rest).filter (LogQuery.matching ⟨jobId, first, middle - 1⟩) = [] :=
        List.filter_eq_nil_iff.mpr fun other member => Bool.not_eq_true _ ▸ none other member
      rw [List.filter_congr same, empty, List.nil_append]

end Ranges

section Scan

variable {history : List JobSubmitted} {jobId : Nat} {earliest toBlock : ℤ} {scan : Scan}

/-- Below the first block of the range there is nothing to query. -/
theorem Scan.Finds.nothing (below : toBlock < earliest) :
    Scan.Finds ⟨[], .error (.validation deliverableCommitmentNotFound)⟩ history
      ⟨jobId, earliest, toBlock⟩ := by
  refine ⟨fun log last => ?_, fun _ => ⟨rfl, fun block => ?_⟩, .nil, ?_, Nat.zero_le _⟩
  · have here := (List.mem_filter.mp (List.mem_of_getLast? last)).2
    obtain ⟨-, above, under⟩ := LogQuery.matching_iff.mp here
    exact absurd (above.trans under) (by simpa using below)
  · simp only [List.not_mem_nil, false_and, exists_false, false_iff]
    omega
  · intro query member
    cases member

variable (jobId) in
theorem chunk_within (more : earliest ≤ toBlock) :
    LogQuery.Within ⟨jobId, chunkStart earliest toBlock, toBlock⟩ ⟨jobId, earliest, toBlock⟩ :=
  ⟨rfl, earliest_le_chunkStart, chunkStart_le more, Int.le_refl _, chunk_short⟩

/-- The one query of a scan covers its range. -/
theorem Scan.covers_single {query : LogQuery} {outcome : Except ChainFailure Hex} :
    Scan.Covers ⟨[query], outcome⟩ query.fromBlock query.toBlock := by
  intro block
  simp

/-- A range with a log of the job ends the scan. -/
theorem Scan.Finds.here {log : JobSubmitted} (ordered : ChainOrder history)
    (more : earliest ≤ toBlock)
    (last : (matchingLogs history ⟨jobId, chunkStart earliest toBlock, toBlock⟩).getLast? = some log) :
    Scan.Finds ⟨[⟨jobId, chunkStart earliest toBlock, toBlock⟩], .ok log.deliverable⟩ history
      ⟨jobId, earliest, toBlock⟩ := by
  have start := chunkStart_le more
  have split := matchingLogs_split jobId ordered earliest_le_chunkStart
    (by omega : chunkStart earliest toBlock ≤ toBlock + 1)
  refine ⟨fun found latest => ?_, fun none => ?_, List.pairwise_singleton _ _, ?_, by simp⟩
  · rw [split, List.getLast?_append, last, Option.some_or] at latest
    cases latest
    exact ⟨rfl, _, rfl, (List.mem_filter.mp (List.mem_of_getLast? last)).2, covers_single⟩
  · rw [split, List.append_eq_nil_iff] at none
    rw [none.2] at last
    cases last
  · intro query member
    cases List.mem_singleton.mp member
    exact chunk_within jobId more

/-- The lowest range without a log ends the scan. -/
theorem Scan.Finds.lowest (more : earliest ≤ toBlock) (start : chunkStart earliest toBlock = earliest)
    (none : matchingLogs history ⟨jobId, chunkStart earliest toBlock, toBlock⟩ = []) :
    Scan.Finds ⟨[⟨jobId, chunkStart earliest toBlock, toBlock⟩],
      .error (.validation deliverableCommitmentNotFound)⟩ history ⟨jobId, earliest, toBlock⟩ := by
  have within := chunk_within jobId more
  rw [start] at none within ⊢
  refine ⟨fun found latest => ?_, fun _ => ⟨rfl, covers_single⟩, List.pairwise_singleton _ _, ?_,
    by simp⟩
  · rw [none] at latest
    cases latest
  · intro query member
    cases List.mem_singleton.mp member
    exact within

/-- A range without a log leaves the scan to the blocks below it. -/
theorem Scan.Finds.after (ordered : ChainOrder history) (more : earliest ≤ toBlock)
    (start : chunkStart earliest toBlock ≠ earliest)
    (none : matchingLogs history ⟨jobId, chunkStart earliest toBlock, toBlock⟩ = [])
    (rest : scan.Finds history ⟨jobId, earliest, chunkStart earliest toBlock - 1⟩) :
    (scan.after ⟨jobId, chunkStart earliest toBlock, toBlock⟩).Finds history
      ⟨jobId, earliest, toBlock⟩ := by
  have from_le := chunkStart_le more
  have whole : chunkStart earliest toBlock = toBlock - 1999 := by
    unfold chunkStart logBlockRange at start ⊢
    split at start <;> omega
  have split := matchingLogs_split jobId ordered earliest_le_chunkStart
    (by omega : chunkStart earliest toBlock ≤ toBlock + 1)
  -- the latest chunk holds no log, so the whole range has those of the rest
  rw [none, List.append_nil] at split
  have covers : ∀ first, first ≤ chunkStart earliest toBlock →
      scan.Covers first (chunkStart earliest toBlock - 1) →
      (scan.after ⟨jobId, chunkStart earliest toBlock, toBlock⟩).Covers first toBlock := by
    intro first low covers block
    simp only [Scan.after, List.mem_cons, exists_eq_or_imp, covers block]
    omega
  refine ⟨fun log latest => ?_, fun missing => ?_, ?_, ?_, ?_⟩
  · rw [split] at latest
    obtain ⟨outcome, query, deepest, holds, covered⟩ := rest.hit log latest
    have within := rest.within query (List.mem_of_getLast? deepest)
    have lower : query.toBlock ≤ chunkStart earliest toBlock - 1 := within.last
    have low : query.fromBlock ≤ chunkStart earliest toBlock := by
      have nonempty := within.nonempty
      omega
    refine ⟨outcome, query, ?_, holds, covers _ low covered⟩
    show (_ :: scan.queries).getLast? = some query
    rw [List.getLast?_cons, deepest, Option.getD_some]
  · rw [split] at missing
    obtain ⟨outcome, covered⟩ := rest.miss missing
    exact ⟨outcome, covers _ earliest_le_chunkStart covered⟩
  · -- the new query lies above those of the rest
    refine List.pairwise_cons.mpr ⟨fun query member => ?_, rest.disjoint⟩
    have lower : query.toBlock ≤ chunkStart earliest toBlock - 1 := (rest.within query member).last
    show query.toBlock < chunkStart earliest toBlock
    omega
  · intro query member
    rcases List.mem_cons.mp member with rfl | member
    · exact chunk_within jobId more
    · have within := rest.within query member
      have lower : query.toBlock ≤ chunkStart earliest toBlock - 1 := within.last
      exact ⟨within.jobId, within.first, within.nonempty, (by omega : query.toBlock ≤ toBlock),
        within.short⟩
  · have few := rest.few
    have above : earliest ≤ chunkStart earliest toBlock := earliest_le_chunkStart
    simp only [Scan.after, List.length_cons] at few ⊢
    omega

variable {client : PublicClient} {latest : ℤ}

theorem scanFrom_finds (ordered : ChainOrder history)
    (logs : ∀ query, client.getLogs query = .ok (matchingLogs history query)) :
    (scanFrom client jobId earliest toBlock).Finds history ⟨jobId, earliest, toBlock⟩ := by
  induction toBlock using scanFrom.induct client jobId earliest with
  | case1 toBlock more fromBlock ih =>
    rw [scanFrom, dif_pos more]
    simp only [logs]
    cases last : (matchingLogs history ⟨jobId, chunkStart earliest toBlock, toBlock⟩).getLast? with
    | some log => exact .here ordered more last
    | none =>
      have none := List.getLast?_eq_none_iff.mp last
      by_cases start : chunkStart earliest toBlock = earliest
      · simp only [if_pos start]
        exact .lowest more start none
      · simp only [if_neg start]
        exact .after ordered more start none ih
  | case2 toBlock less =>
    rw [scanFrom, dif_neg less]
    exact .nothing (Int.not_le.mp less)

end Scan

/-- The block from which a scan looks for the deliverable. -/
theorem earliestBlock_eq (latest lookback : ℤ) :
    earliestBlock latest lookback = max 0 (latest - lookback) := by
  unfold earliestBlock
  split <;> omega

/-- The scan finds the deliverable of the job's last submission in the blocks that it looks
back on, and fails if there is none. Its queries tile these blocks down to the submission. -/
theorem scan_finds_latest {client : PublicClient} {history : List JobSubmitted}
    (ordered : ChainOrder history) {latest : ℤ} (serves : client.Serves history latest)
    (logLookbackBlocks : ℤ) (jobId : Nat) :
    (scanDeliverableHash client logLookbackBlocks jobId).Finds history
      ⟨jobId, max 0 (latest - logLookbackBlocks), latest⟩ := by
  rw [← earliestBlock_eq, scanDeliverableHash, serves.head]
  exact scanFrom_finds ordered serves.logs

section Resubmission

/-- Job 7 is submitted twice, and once more after the head. -/
def resubmissions : List JobSubmitted :=
  [⟨1500, 7, 3, 11⟩, ⟨5000, 7, 3, 22⟩, ⟨5000, 8, 3, 33⟩, ⟨9500, 7, 3, 44⟩]

def resubmissionClient : PublicClient where
  getBlockNumber := .ok 9000
  getLogs query := .ok (matchingLogs resubmissions query)
  getJob _ := .error (.error "not asked")
  resolutions _ := .error (.error "not asked")
  evidence _ := .error (.error "not asked")

theorem scan_finds_latest_resubmission :
    (scanDeliverableHash resubmissionClient 8000 7).outcome = .ok 22 ∧
      (scanDeliverableHash resubmissionClient 8000 7).Finds resubmissions ⟨7, 1000, 9000⟩ :=
  have ordered : ChainOrder resubmissions := by decide
  have found := @scan_finds_latest resubmissionClient resubmissions ordered 9000 ⟨rfl, fun _ => rfl⟩ 8000 7
  ⟨(found.hit ⟨5000, 7, 3, 22⟩ (by decide)).1, found⟩

end Resubmission

end VapiArc.Review
