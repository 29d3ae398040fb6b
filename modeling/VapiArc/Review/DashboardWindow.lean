import VapiArc.Lib.Latest
import VapiArc.Review.DashboardSnapshot

/-!
# The window of a refresh

What a sweep, the latest events and the reads of a refresh give, in whatever order the events
are listed.
-/
namespace VapiArc.Dashboard

open Checked
open Router (RouterEvent)
open Escrow (Address Bytes32 Uint256)

/-- The place of an event in the chain. -/
def position (event : ChainEvent) : ℕ ×ₗ ℕ := toLex (event.blockNumber, event.logIndex)

/-- The events of one job. -/
def ofJob (jobId : Uint256) (events : List ChainEvent) : List ChainEvent :=
  events.filter fun event => jobIdFrom event = jobId

theorem isLater_some {a b : ChainEvent} : isLater a (some b) = true ↔ position b < position a := by
  simp only [isLater, decide_eq_true_eq, position, Prod.Lex.toLex_lt_toLex]
  omega

/-- The latest event of a job is the one with the highest place. -/
theorem get_latestByJob (events : List ChainEvent) (jobId : Uint256) :
    (latestByJob events).get jobId = (ofJob jobId events).argmax position := by
  induction events using List.reverseRecOn with
  | nil => rfl
  | append_singleton events event ih =>
    have step : latestByJob (events ++ [event]) =
        if isLater event ((latestByJob events).get (jobIdFrom event)) then
          (latestByJob events).set (jobIdFrom event) event
        else latestByJob events := by
      unfold latestByJob
      rw [List.foldl_append]
      rfl
    rw [step, ofJob, List.filter_append]
    by_cases here : jobIdFrom event = jobId
    · subst here
      rw [List.filter_singleton, decide_eq_true rfl, cond_true, List.argmax_concat,
        ← ofJob, ← ih]
      cases before : (latestByJob events).get (jobIdFrom event) with
      | none => simp [isLater, OrderedMap.get_set]
      | some previous =>
        by_cases later : position previous < position event
        · simp [isLater_some.mpr later, later, OrderedMap.get_set]
        · have earlier : isLater event (some previous) = false :=
            Bool.eq_false_iff.mpr fun after => later (isLater_some.mp after)
          simp [earlier, later, before]
    · have other : [event].filter (fun event => jobIdFrom event = jobId) = [] := by simp [here]
      rw [other, List.append_nil, ← ofJob, ← ih]
      split
      · simp [OrderedMap.get_set, Ne.symm here]
      · rfl

theorem mem_keys_latestByJob {events : List ChainEvent} {jobId : Uint256} :
    jobId ∈ (latestByJob events).keys ↔ ∃ event ∈ events, jobIdFrom event = jobId := by
  rw [← not_iff_not, ← OrderedMap.get_eq_none, get_latestByJob, List.argmax_eq_none, ofJob,
    List.filter_eq_nil_iff]
  simp

/-- The latest event of a job, however the events are listed. -/
theorem get_latestByJob_of_perm {events log : List ChainEvent}
    (ordered : Latest.Ordered position log) (perm : events.Perm log) (jobId : Uint256) :
    (latestByJob events).get jobId = (ofJob jobId log).getLast? := by
  rw [get_latestByJob]
  exact Latest.argmax_of_perm (ordered.filter _) (perm.filter _)

section Sweep

variable {p : DashboardSnapshotProcessor} {router commerce : Address} {chain : List ChainEvent}
  {toBlock : Nat}

/-- The logs of the two contracts in a range of blocks. -/
def inRange (router commerce : Address) (fromBlock toBlock : Nat) (event : ChainEvent) : Bool :=
  decide (event.address ∈ [commerce, router] ∧ fromBlock ≤ event.blockNumber ∧
    event.blockNumber ≤ toBlock)

/-- The client lists the logs of every range, in some order, and what it lists besides is not
in a block. -/
def Lists (client : DashboardSnapshotClient) (router commerce : Address) (chain : List ChainEvent)
    (latestBlock : Nat) : Prop :=
  ∀ fromBlock toBlock, toBlock ≤ latestBlock → ∃ logs,
    client.getLogs [commerce, router] fromBlock toBlock = .ok logs ∧
      (logs.filterMap toChainEvent).Perm (chain.filter (inRange router commerce fromBlock toBlock))

/-- A range is one chunk and the rest. -/
theorem inRange_split {chunkStart chunkEnd : Nat} (start : chunkStart ≤ chunkEnd + 1)
    (below : chunkEnd ≤ toBlock) :
    (chain.filter (inRange router commerce chunkStart chunkEnd) ++
      chain.filter (inRange router commerce (chunkEnd + 1) toBlock)).Perm
        (chain.filter (inRange router commerce chunkStart toBlock)) := by
  have parts := List.filter_append_perm (fun event => decide (event.blockNumber ≤ chunkEnd))
    (chain.filter (inRange router commerce chunkStart toBlock))
  rw [List.filter_filter, List.filter_filter] at parts
  have first : (chain.filter (inRange router commerce chunkStart chunkEnd)) =
      chain.filter fun event => decide (event.blockNumber ≤ chunkEnd) &&
        inRange router commerce chunkStart toBlock event := by
    refine List.filter_congr fun event _ => ?_
    simp only [inRange, ← Bool.decide_and, decide_eq_decide]
    constructor
    · exact fun ⟨own, above, under⟩ => ⟨under, own, above, under.trans below⟩
    · exact fun ⟨under, own, above, _⟩ => ⟨own, above, under⟩
  have rest : (chain.filter (inRange router commerce (chunkEnd + 1) toBlock)) =
      chain.filter fun event => !decide (event.blockNumber ≤ chunkEnd) &&
        inRange router commerce chunkStart toBlock event := by
    refine List.filter_congr fun event _ => ?_
    simp only [inRange, ← decide_not, ← Bool.decide_and, decide_eq_decide, not_le]
    constructor
    · exact fun ⟨own, above, under⟩ => ⟨above, own, start.trans above, under⟩
    · exact fun ⟨above, own, _, under⟩ => ⟨own, above, under⟩
  rwa [first, rest]

theorem inRange_empty {chunkStart : Nat} (above : toBlock < chunkStart) :
    chain.filter (inRange router commerce chunkStart toBlock) = [] := by
  refine List.filter_eq_nil_iff.mpr fun event _ inside => ?_
  obtain ⟨-, low, high⟩ := of_decide_eq_true inside
  omega

/-- A sweep lists the logs of its window. -/
theorem sweepEvents_lists (lists : Lists p.client router commerce chain toBlock)
    (chunkStart : Nat) :
    ∃ events, p.sweepEvents router commerce toBlock chunkStart = .ok events ∧
      events.Perm (chain.filter (inRange router commerce chunkStart toBlock)) := by
  rw [DashboardSnapshotProcessor.sweepEvents]
  split
  next more =>
    obtain ⟨later, swept, rest⟩ := sweepEvents_lists lists (chunkStart + logChunkSize)
    generalize ended : (if chunkStart + logChunkSize - 1 > toBlock then toBlock
      else chunkStart + logChunkSize - 1) = chunkEnd
    have below : chunkEnd ≤ toBlock := by
      rw [← ended]
      split <;> omega
    have start : chunkStart ≤ chunkEnd := by
      rw [← ended, logChunkSize]
      split <;> omega
    obtain ⟨logs, answered, chunk⟩ := lists chunkStart chunkEnd below
    refine ⟨logs.filterMap toChainEvent ++ later, by simp [answered, swept], ?_⟩
    refine (List.Perm.append chunk ?_).trans (inRange_split (Nat.le_succ_of_le start) below)
    -- the next chunk begins after this one, or there is none
    by_cases last : chunkStart + logChunkSize - 1 > toBlock
    · rw [if_pos last] at ended
      rw [inRange_empty (by omega)] at rest ⊢
      exact rest
    · rw [if_neg last] at ended
      have next : chunkEnd + 1 = chunkStart + logChunkSize := by
        rw [← ended, logChunkSize]
        omega
      rw [next]
      exact rest
  next none => exact ⟨[], rfl, by rw [inRange_empty (by omega)]⟩
termination_by toBlock + 1 - chunkStart
decreasing_by
  unfold logChunkSize
  omega

end Sweep

section Reads

variable {α β : Type} {read : Uint256 → MulticallResult α} {accept : Uint256 → α → Option β}
  {jobIds : List Uint256} {jobId : Uint256}

theorem get_foldl_set (f : Uint256 → Option β) (jobIds : List Uint256) (jobId : Uint256)
    (values : OrderedMap Uint256 β) :
    (jobIds.foldl (fun values jobId =>
      match f jobId with
      | some value => values.set jobId value
      | none => values) values).get jobId =
      (if jobId ∈ jobIds then f jobId else none).or (values.get jobId) := by
  induction jobIds generalizing values with
  | nil => rfl
  | cons first rest ih =>
    rw [List.foldl_cons, ih]
    by_cases here : jobId = first
    · subst here
      cases f jobId <;> by_cases later : jobId ∈ rest <;> simp [later, OrderedMap.get_set]
    · have same : (match f first with
          | some value => values.set first value
          | none => values).get jobId = values.get jobId := by
        split <;> simp [OrderedMap.get_set, here]
      simp [same, here]

/-- What a multicall leaves for a job, when it does not throw. -/
theorem get_multicall {values : OrderedMap Uint256 β}
    (done : multicall read accept jobIds = .ok values) (jobId : Uint256) :
    values.get jobId =
      if jobId ∈ jobIds then (read jobId).result.bind (accept jobId) else none := by
  simp only [multicall, bind_ok, pure_ok] at done
  obtain ⟨_, _, rfl⟩ := done
  refine (get_foldl_set (fun jobId => (read jobId).result.bind (accept jobId)) _ jobId
    .empty).trans ?_
  simp [normalizeJobIds]

/-- Reads that succeed do not throw. -/
theorem multicall_succeeds (succeed : ∀ jobId, ∃ value, read jobId = .success value) :
    ∃ values, multicall read accept jobIds = .ok values := by
  have none_ : ((normalizeJobIds jobIds).map read).filterMap MulticallResult.error = [] := by
    refine List.filterMap_eq_nil_iff.mpr fun result member => ?_
    obtain ⟨jobId, -, rfl⟩ := List.mem_map.mp member
    obtain ⟨value, same⟩ := succeed jobId
    rw [same]
    rfl
  have quiet : throwOnTransientRpcFailures ((normalizeJobIds jobIds).map read) = .ok () := by
    simp [throwOnTransientRpcFailures, none_]
  exact ⟨_, by simp only [multicall, quiet]; rfl⟩

end Reads

end VapiArc.Dashboard
