import VapiArc.Review.DashboardStorage

/-!
# The dashboard agrees with the storage of the router

The feed and the review queue, as functions of the window and of storage alone.
-/
namespace VapiArc.Dashboard

open Checked Reentrancy Transition
open Router (RouterEvent EvaluationRouter)
open Escrow (Address Bytes32 Uint256)

/-- The latest of the selected logs of a contract for a job. -/
def lastOf (q : ContractEvent → Bool) (address : Address) (swept : List ChainEvent)
    (jobId : Uint256) : Option ChainEvent :=
  (ofJob jobId (logsOf q address swept)).getLast?

/-- The row that the window and the storage of the router tell of a job. -/
def rowOf (p : DashboardSnapshotProcessor) (router : Address) (swept : List ChainEvent)
    (storage : EvaluationRouter) (job : DashboardJobRecord) : DashboardFeedRow :=
  storedRow storage (feedRow job (ofJob job.id (swept.filter (·.address = p.commerce))).getLast?
    (lastOf (!·.isLaneSet) router swept job.id))

/-- `metadata` of `buildReviewQueue` -/
def metadataOf (p : DashboardSnapshotProcessor) :
    OrderedMap Uint256 DashboardPinnedReviewMetadata :=
  p.pinnedReviewMetadata.foldl (fun metadata entry => metadata.set entry.jobId entry) .empty

/-- The record of a job in the queue. -/
def recordOf (p : DashboardSnapshotProcessor) (router : Address) (swept : List ChainEvent)
    (storage : EvaluationRouter) (job : DashboardJobRecord) : DashboardReviewRecord :=
  let escalation := lastOf (·.isEscalated) router swept job.id
  let stored := (metadataOf p).get job.id
  let reasonHash := ((escalation.bind (·.event.reasonHash)).or
    (stored.bind (·.reasonHash))).getD (storage.evidence job.id)
  { toDashboardJobRecord := job
    deliverableHash := ((lastOf (·.isJobSubmitted) p.commerce swept job.id).bind
      (·.event.deliverable)).or (stored.bind (·.deliverableHash))
    reasonHash
    escalationTxHash := (escalation.map (·.transactionHash)).or
      (stored.bind (·.escalationTxHash))
    clientRequested := decide (reasonHash = p.humanLaneReasonHash) }

/-- Submitted, escalated and not expired. -/
def inReview (p : DashboardSnapshotProcessor) (storage : EvaluationRouter)
    (job : DashboardJobRecord) : Bool :=
  decide (storage.resolutions job.id = .escalated ∧ job.statusCode = 2 ∧
    p.nowSeconds < job.expiredAt.value)

/-- What a refresh makes of the jobs. -/
structure Refreshed (p : DashboardSnapshotProcessor) (router : Address) (swept : List ChainEvent)
    (storage : EvaluationRouter) (jobs : OrderedMap Uint256 DashboardJobRecord)
    (snapshot : DashboardChainSnapshot) : Prop where
  known : Jobs p router swept jobs
  feed : snapshot.feed.Perm ((jobs.entries.map Prod.snd).map (rowOf p router swept storage))
  queue : snapshot.reviewQueue.Perm (((jobs.entries.map Prod.snd).filter
    (inReview p storage)).map (recordOf p router swept storage))
  sorted : snapshot.reviewQueue.Pairwise fun a b => b.id ≤ a.id

section Refreshed

variable {p : DashboardSnapshotProcessor} {router : Address} {logs : List RouterEvent}
  {chain events : List ChainEvent} {latestBlock : Nat} {storage : EvaluationRouter}
  {jobs : OrderedMap Uint256 DashboardJobRecord} {jobId : Uint256}

theorem latest_swept (onChain : OnChain router logs chain latestBlock)
    (perm : events.Perm (window p router chain latestBlock)) (q : ContractEvent → Bool)
    (address : Address) (jobId : Uint256) :
    (latestByJob (logsOf q address events)).get jobId =
      lastOf q address (window p router chain latestBlock) jobId :=
  get_latestByJob_of_perm (((onChain.ordered.filter _).filter _).filter _)
    ((perm.filter _).filter _) jobId

/-- The feed has one row for each job. -/
theorem feed_perm (onChain : OnChain router logs chain latestBlock)
    (perm : events.Perm (window p router chain latestBlock))
    (known : Jobs p router (window p router chain latestBlock) jobs) :
    ((buildFeedRows jobs (events.filter (·.address = p.commerce))
      (logsOf (!·.isLaneSet) router events)).map (storedRow storage)).Perm
        ((jobs.entries.map Prod.snd).map
          (rowOf p router (window p router chain latestBlock) storage)) := by
  unfold buildFeedRows
  refine ((List.mergeSort_perm _ _).map _).trans (List.Perm.of_eq ?_)
  rw [List.map_map, List.map_map]
  refine List.map_congr_left fun entry member => ?_
  obtain ⟨jobId, job⟩ := entry
  obtain rfl := known.id (OrderedMap.get_eq_some.mpr member)
  have agentic : (latestByJob (events.filter (·.address = p.commerce))).get job.id =
      (ofJob job.id ((window p router chain latestBlock).filter
        (·.address = p.commerce))).getLast? :=
    get_latestByJob_of_perm ((onChain.ordered.filter _).filter _) (perm.filter _) job.id
  simp only [Function.comp_apply, rowOf, agentic, latest_swept onChain perm]

/-- The record of a candidate. -/
theorem reviewRecord_eq (onChain : OnChain router logs chain latestBlock)
    (perm : events.Perm (window p router chain latestBlock))
    {reasonBackfill : OrderedMap Uint256 Bytes32} {job : DashboardJobRecord}
    (found : jobs.get job.id = some job)
    (reason : (latestByJob (logsOf (·.isEscalated) router events)).get job.id = none →
      reasonBackfill.get job.id = some (storage.evidence job.id)) :
    p.reviewRecord jobs (latestByJob (logsOf (·.isEscalated) router events))
      (latestByJob (logsOf (·.isJobSubmitted) p.commerce events)) (metadataOf p) reasonBackfill
      job.id =
    if job.statusCode = 2 ∧ p.nowSeconds < job.expiredAt.value then
      some (recordOf p router (window p router chain latestBlock) storage job) else none := by
  have reasons : ((lastOf (·.isEscalated) router (window p router chain latestBlock) job.id).bind
      (·.event.reasonHash)).or ((((metadataOf p).get job.id).bind (·.reasonHash)).or
        (reasonBackfill.get job.id)) =
      some (recordOf p router (window p router chain latestBlock) storage job).reasonHash := by
    simp only [recordOf]
    rw [← latest_swept onChain perm]
    cases shown : (latestByJob (logsOf (·.isEscalated) router events)).get job.id with
    | none =>
      rw [reason shown]
      cases ((metadataOf p).get job.id).bind (·.reasonHash) <;> rfl
    | some event =>
      -- an escalation has its reason
      have listed := shown
      rw [get_latestByJob] at listed
      obtain ⟨-, -, escalated, -⟩ := mem_ofJob.mp (List.argmax_mem listed)
      rcases event with ⟨_ | _ | _ | _ | _ | _ | _, _, _, _, _⟩ <;> first | rfl | cases escalated
  simp only [DashboardSnapshotProcessor.reviewRecord, found, Option.bind_eq_bind, Option.bind_some,
    latest_swept onChain perm]
  by_cases open_ : job.statusCode = 2 ∧ p.nowSeconds < job.expiredAt.value
  · have waits : ¬ (job.statusCode ≠ 2 ∨ job.expiredAt.value ≤ p.nowSeconds) := by
      rintro (other | expired)
      · exact other open_.1
      · exact absurd open_.2 (not_lt.mpr expired)
    rw [if_pos open_, if_neg waits, reasons]
    rfl
  · have over_ : job.statusCode ≠ 2 ∨ job.expiredAt.value ≤ p.nowSeconds := by
      rcases not_and_or.mp open_ with other | expired
      · exact .inl other
      · exact .inr (not_lt.mp expired)
    rw [if_neg open_, if_pos over_]

theorem Jobs.ids (known : Jobs p router events jobs) :
    (jobs.entries.map Prod.snd).map (·.id) = jobs.keys := by
  rw [List.map_map, OrderedMap.keys]
  exact List.map_congr_left fun entry member => known.id (OrderedMap.get_eq_some.mpr member)

theorem Jobs.nodup (known : Jobs p router events jobs) :
    ((jobs.entries.map Prod.snd).map (·.id)).Nodup := by
  rw [known.ids]
  exact jobs.distinct

theorem Jobs.mem (known : Jobs p router events jobs) {job : DashboardJobRecord} :
    job ∈ jobs.entries.map Prod.snd ↔ jobs.get job.id = some job := by
  rw [List.mem_map]
  constructor
  · rintro ⟨⟨jobId, _⟩, member, rfl⟩
    have found := OrderedMap.get_eq_some.mpr member
    rwa [known.id found]
  · exact fun found => ⟨(job.id, job), OrderedMap.get_eq_some.mp found, rfl⟩

/-- The queue has one record for each job in review, the newest job first. -/
theorem buildReviewQueue_eq (observes : Observes p router chain latestBlock storage)
    (onChain : OnChain router logs chain latestBlock) (tells : Tells logs storage)
    (perm : events.Perm (window p router chain latestBlock))
    (known : Jobs p router (window p router chain latestBlock) jobs) {feed : List DashboardFeedRow}
    (rows : feed.Perm ((jobs.entries.map Prod.snd).map
      (rowOf p router (window p router chain latestBlock) storage))) :
    ∃ queue, p.buildReviewQueue jobs (events.filter (·.address = router))
        (latestByJob (logsOf (·.isJobSubmitted) p.commerce events)) feed = .ok queue ∧
      queue.Perm (((jobs.entries.map Prod.snd).filter (inReview p storage)).map
        (recordOf p router (window p router chain latestBlock) storage)) ∧
      queue.Pairwise fun a b => b.id ≤ a.id := by
  let escalations := latestByJob (logsOf (·.isEscalated) router events)
  let candidates := DashboardSnapshotProcessor.candidates (events.filter (·.address = router))
    escalations feed
  have succeeds : ∃ reasonBackfill, DashboardSnapshotProcessor.readRouterHexes p.client.evidence
      (candidates.filter fun jobId => (escalations.get jobId).isNone) = .ok reasonBackfill :=
    multicall_succeeds fun jobId => ⟨_, observes.evidence jobId⟩
  obtain ⟨reasonBackfill, done⟩ := succeeds
  let record := p.reviewRecord jobs escalations
    (latestByJob (logsOf (·.isJobSubmitted) p.commerce events)) (metadataOf p) reasonBackfill
  -- the one request that the queue needs has been answered, so the rest of the routine is pure
  have made : p.buildReviewQueue jobs (events.filter (·.address = router))
      (latestByJob (logsOf (·.isJobSubmitted) p.commerce events)) feed =
      .ok ((candidates.filterMap record).mergeSort fun a b => decide (b.id ≤ a.id)) := by
    change (DashboardSnapshotProcessor.readRouterHexes p.client.evidence
      (candidates.filter fun jobId => (escalations.get jobId).isNone) >>= fun _ => _) = _
    rw [done]
    rfl
  -- what a candidate's record is, when the job is known
  have recorded {job : DashboardJobRecord} (found : jobs.get job.id = some job)
      (candidate : job.id ∈ candidates) : record job.id =
        if job.statusCode = 2 ∧ p.nowSeconds < job.expiredAt.value then
          some (recordOf p router (window p router chain latestBlock) storage job) else none := by
    refine reviewRecord_eq onChain perm found fun missing => ?_
    have asked : job.id ∈ candidates.filter fun jobId => (escalations.get jobId).isNone :=
      List.mem_filter.mpr ⟨candidate, by
        rw [show escalations.get job.id = none from missing]
        rfl⟩
    rw [get_multicall done, if_pos asked, observes.evidence]
    rfl
  have candidate_iff {job : DashboardJobRecord} (found : jobs.get job.id = some job) :
      job.id ∈ candidates ↔ storage.resolutions job.id = .escalated := by
    refine mem_candidates onChain tells perm ⟨_, rows.mem_iff.mpr
      (List.mem_map_of_mem (known.mem.mpr found)), rfl⟩ fun row member => ?_
    obtain ⟨other, -, rfl⟩ := List.mem_map.mp (rows.mem_iff.mp member)
    rfl
  -- a record carries the id of the job that it was made from
  have owner {jobId : Uint256} {entry : DashboardReviewRecord} (some_ : record jobId = some entry) :
      ∃ job, jobs.get jobId = some job ∧ entry.id = job.id := by
    simp only [record, DashboardSnapshotProcessor.reviewRecord, Option.bind_eq_bind,
      Option.bind_eq_some_iff] at some_
    obtain ⟨job, found, rest⟩ := some_
    split at rest
    next => cases rest
    next =>
      obtain ⟨reasonHash, -, same⟩ := Option.bind_eq_some_iff.mp rest
      cases same
      exact ⟨job, found, rfl⟩
  refine ⟨_, made, (List.mergeSort_perm _ _).trans ?_, ?_⟩
  · refine (List.perm_ext_iff_of_nodup ?_ ?_).mpr fun entry => ?_
    · -- no candidate is listed twice, and two candidates have different records
      refine List.Nodup.filterMap (fun first second entry one two => ?_) (nodup_distinct _)
      obtain ⟨job, found, same⟩ := owner one
      obtain ⟨other, other_found, other_same⟩ := owner two
      rw [← known.id found, ← known.id other_found, ← same, ← other_same]
    · refine List.Nodup.of_map (·.id) ?_
      rw [List.map_map]
      exact known.nodup.sublist (List.filter_sublist.map _)
    · simp only [List.mem_filterMap, List.mem_map (l := List.filter ..), List.mem_filter, inReview,
        decide_eq_true_eq]
      constructor
      · rintro ⟨jobId, candidate, made⟩
        obtain ⟨job, found, -⟩ := owner made
        obtain rfl := known.id found
        rw [recorded found candidate] at made
        split at made
        next waits =>
          cases made
          exact ⟨job, ⟨known.mem.mpr found, (candidate_iff found).mp candidate, waits⟩, rfl⟩
        next => cases made
      · rintro ⟨job, ⟨member, escalated, waits⟩, rfl⟩
        have found := known.mem.mp member
        have candidate := (candidate_iff found).mpr escalated
        exact ⟨job.id, candidate, by rw [recorded found candidate, if_pos waits]⟩
  · -- newest first, by the id
    refine (List.pairwise_mergeSort (fun a b c ab bc => ?_) (fun a b => ?_) _).imp
      fun {a b} le => of_decide_eq_true le
    · exact decide_eq_true ((of_decide_eq_true bc).trans (of_decide_eq_true ab))
    · simpa using le_total b.id a.id

/-- A refresh succeeds, and makes this of the window and of storage. -/
theorem refreshUnsafe_refreshed (observes : Observes p router chain latestBlock storage)
    (onChain : OnChain router logs chain latestBlock) (tells : Tells logs storage) :
    ∃ snapshot jobs, p.refreshUnsafe = .ok snapshot ∧
      Refreshed p router (window p router chain latestBlock) storage jobs snapshot := by
  obtain ⟨events, swept, perm⟩ := sweepEvents_lists observes.logs (p.fromBlock latestBlock)
  obtain ⟨read, answered, known⟩ := getJobs_known observes perm
  obtain ⟨laned, lanes, feed⟩ :=
    feed_eq observes onChain tells perm known (events.filter (·.address = p.commerce))
  have rows : ((buildFeedRows _ _ _).map (storedRow storage)).Perm _ :=
    feed_perm onChain perm known
  obtain ⟨queue, built, listed, sorted⟩ :=
    buildReviewQueue_eq observes onChain tells perm known rows
  refine ⟨⟨true, .ready, some latestBlock, none, _, queue⟩, _, ?_, ⟨known, rows, listed, sorted⟩⟩
  simp only [DashboardSnapshotProcessor.refreshUnsafe, observes.configured, bind_ok, pure_ok]
  exact ⟨_, observes.head, events, swept, read, answered, laned, lanes, _, feed, queue, built, rfl⟩

end Refreshed

/-- The feed and the queue tell what the storage of the router does. -/
structure Agrees (p : DashboardSnapshotProcessor) (router : Address) (swept : List ChainEvent)
    (storage : EvaluationRouter) (snapshot : DashboardChainSnapshot) : Prop where
  provenance : ∀ row ∈ snapshot.feed, row.provenance = provenanceOf (storage.resolutions row.id)
  lane : ∀ row ∈ snapshot.feed, row.lane = some (laneOf (storage.lanes row.id))
  feed : ∀ jobId, jobId ∈ snapshot.feed.map (·.id) ↔ ∃ raw, Known p router swept jobId raw
  rows : (snapshot.feed.map (·.id)).Nodup
  queue : ∀ jobId, jobId ∈ snapshot.reviewQueue.map (·.id) ↔ ∃ raw,
    Known p router swept jobId raw ∧ storage.resolutions jobId = .escalated ∧ raw.status = 2 ∧
      p.nowSeconds < raw.expiredAt.val
  newest : (snapshot.reviewQueue.map (·.id)).Pairwise (· > ·)

/-- The same refresh with the events listed in another way. -/
def DashboardSnapshotProcessor.listing (p : DashboardSnapshotProcessor)
    (getLogs : List Address → Nat → Nat → Except RpcFailure (List Log)) :
    DashboardSnapshotProcessor :=
  { p with client := { p.client with getLogs } }

section Agreement

variable {p : DashboardSnapshotProcessor} {router : Address} {swept : List ChainEvent}
  {storage : EvaluationRouter} {jobs jobs' : OrderedMap Uint256 DashboardJobRecord}
  {snapshot other : DashboardChainSnapshot}

/-- The clock is early enough for the comparison to be exact. -/
theorem early_iff {raw : RawJob} :
    (p.nowSeconds : ℚ) < (normalizeJob p.nowSeconds raw).expiredAt.value ↔
      p.nowSeconds < raw.expiredAt.val := by
  have small : p.nowSeconds < 2 ^ 53 := by
    have clock := p.now.isLt
    unfold DashboardSnapshotProcessor.nowSeconds
    omega
  exact Json.Binary64.lt_nearest raw.expiredAt.isLt small

theorem Refreshed.agrees (refreshed : Refreshed p router swept storage jobs snapshot) :
    Agrees p router swept storage snapshot := by
  obtain ⟨known, feed, queue, sorted⟩ := refreshed
  have ids : (snapshot.feed.map (·.id)).Perm ((jobs.entries.map Prod.snd).map (·.id)) := by
    refine (feed.map (·.id)).trans (List.Perm.of_eq ?_)
    rw [List.map_map]
    rfl
  have waiting : (snapshot.reviewQueue.map (·.id)).Perm
      (((jobs.entries.map Prod.snd).filter (inReview p storage)).map (·.id)) := by
    refine (queue.map (·.id)).trans (List.Perm.of_eq ?_)
    rw [List.map_map]
    rfl
  have known_iff {jobId : Uint256} :
      (∃ raw, Known p router swept jobId raw) ↔ jobId ∈ jobs.keys := by
    rw [OrderedMap.mem_keys]
    constructor
    · exact fun ⟨raw, here⟩ => ⟨_, (known.known jobId _).mpr ⟨raw, here, rfl⟩⟩
    · exact fun ⟨job, found⟩ => ((known.known jobId job).mp found).imp fun _ here => here.1
  refine ⟨?_, ?_, fun jobId => ?_, ?_, fun jobId => ?_, ?_⟩
  · intro row member
    obtain ⟨job, -, rfl⟩ := List.mem_map.mp (feed.mem_iff.mp member)
    rfl
  · intro row member
    obtain ⟨job, -, rfl⟩ := List.mem_map.mp (feed.mem_iff.mp member)
    rfl
  · rw [ids.mem_iff, known.ids, known_iff]
  · exact ids.nodup_iff.mpr known.nodup
  · simp only [waiting.mem_iff, List.mem_map (l := List.filter ..), List.mem_filter, inReview,
      decide_eq_true_eq]
    constructor
    · rintro ⟨job, ⟨member, escalated, submitted, early⟩, rfl⟩
      obtain ⟨raw, here, made⟩ := (known.known job.id job).mp (known.mem.mp member)
      subst made
      exact ⟨raw, here, escalated, submitted, early_iff.mp early⟩
    · rintro ⟨raw, here, escalated, submitted, early⟩
      have found := (known.known jobId _).mpr ⟨raw, here, rfl⟩
      obtain rfl := known.id found
      exact ⟨_, ⟨known.mem.mpr found, escalated, submitted, early_iff.mpr early⟩, rfl⟩
  · have nodup : (snapshot.reviewQueue.map (·.id)).Nodup :=
      waiting.nodup_iff.mpr (known.nodup.sublist (List.filter_sublist.map _))
    rw [List.Nodup, List.pairwise_map] at nodup
    rw [List.pairwise_map]
    exact (sorted.and nodup).imp fun ⟨le, apart⟩ => lt_of_le_of_ne le (Ne.symm apart)

/-- Two refreshes with the same jobs make the same rows, and the same queue. -/
theorem Refreshed.unique {getLogs : List Address → Nat → Nat → Except RpcFailure (List Log)}
    (one : Refreshed p router swept storage jobs snapshot)
    (two : Refreshed (p.listing getLogs) router swept storage jobs' other) :
    snapshot.feed.Perm other.feed ∧ snapshot.reviewQueue = other.reviewQueue := by
  have same : ∀ jobId, jobs.get jobId = jobs'.get jobId := by
    intro jobId
    refine Option.ext fun job => ?_
    rw [one.known.known, two.known.known]
    constructor
    · rintro ⟨raw, here, made⟩
      exact ⟨raw, ⟨here.mentioned, here.read, here.id, here.evaluator⟩, made⟩
    · rintro ⟨raw, here, made⟩
      exact ⟨raw, ⟨here.mentioned, here.read, here.id, here.evaluator⟩, made⟩
  have entries : jobs.entries.Perm jobs'.entries := by
    refine (List.perm_ext_iff_of_nodup (.of_map _ jobs.distinct)
      (.of_map _ jobs'.distinct)).mpr fun entry => ?_
    rw [← OrderedMap.get_eq_some, ← OrderedMap.get_eq_some, same]
  have records : snapshot.reviewQueue.Perm other.reviewQueue :=
    one.queue.trans ((((entries.map _).filter _).map _).trans two.queue.symm)
  refine ⟨one.feed.trans (((entries.map _).map _).trans two.feed.symm), ?_⟩
  have newest := one.agrees.newest
  have newest' := two.agrees.newest
  rw [List.pairwise_map] at newest newest'
  exact records.eq_of_pairwise (fun a b _ _ later earlier => absurd later (lt_asymm earlier))
    newest newest'

end Agreement

/-- After every run of the router, and for every window, a refresh whose reads succeed tells of
each job what the router stores, and queues the jobs that wait for a human, in whatever order
the events are listed. -/
theorem dashboard_agrees {sender target oracle humanResolver : Address} {autoSettleCap : Uint256}
    {minConfidenceBP : Escrow.Uint16} {start : Router.World}
    {history : List (Stacked Router.Ledger Router.Suspended × Step Router.Call Router.Reply)}
    {v : Stacked Router.Ledger Router.Suspended} {p : DashboardSnapshotProcessor}
    {router : Address} {chain : List ChainEvent} {latestBlock : Nat}
    (deployed : Router.constructor sender target oracle humanResolver autoSettleCap
      minConfidenceBP = .ok start)
    (run : Run (Router.ledger router).system (.idle ⟨start, []⟩) history v) (idle : v.frames = [])
    (onChain : OnChain router v.current.logs chain latestBlock)
    (observes : Observes p router chain latestBlock v.current.world.router) :
    ∃ snapshot, p.refreshUnsafe = .ok snapshot ∧
      Agrees p router (window p router chain latestBlock) v.current.world.router snapshot ∧
      ∀ getLogs, Observes (p.listing getLogs) router chain latestBlock v.current.world.router →
        ∃ other, (p.listing getLogs).refreshUnsafe = .ok other ∧
          snapshot.feed.Perm other.feed ∧ snapshot.reviewQueue = other.reviewQueue := by
  have recorded := Router.ledger_recorded deployed run
  rw [idle] at recorded
  have tells : Tells v.current.logs v.current.world.router := by
    refine ⟨fun jobId => ?_, recorded.lanes⟩
    have told := recorded.verdicts jobId
    rwa [show Router.unsaid (Component.owed []) = [] from rfl, List.append_nil] at told
  obtain ⟨snapshot, jobs, done, refreshed⟩ := refreshUnsafe_refreshed observes onChain tells
  refine ⟨snapshot, done, refreshed.agrees, fun getLogs again => ?_⟩
  obtain ⟨other, jobs', redone, refreshed'⟩ := refreshUnsafe_refreshed again onChain tells
  exact ⟨other, redone, refreshed.unique refreshed'⟩

namespace Walkthrough

/-- A job waits for a human, one is settled by the oracle and one by a human. -/
def path : List (Step Router.Call Router.Reply) :=
  [Router.Walkthrough.call 8 (.setLane 5 .humanOnly), Router.Walkthrough.call 3 (.escalate 5 50),
    Router.Walkthrough.call 3 (.submitAIVerdict 7 true 9000 21), .answer (.returned true),
    Router.Walkthrough.call 3 (.escalate 6 30),
    Router.Walkthrough.call 4 (.humanResolve 6 5 false 1 31 32), .answer (.returned true)]

def settled : Stacked Router.Ledger Router.Suspended :=
  (Router.ledger 9).system.replay (.idle ⟨Router.Walkthrough.start, []⟩) path

theorem admitted :
    (Router.ledger 9).system.AdmitsAll (.idle ⟨Router.Walkthrough.start, []⟩) path :=
  ⟨trivial, trivial, trivial, ⟨_, _, _, rfl⟩, trivial, trivial, ⟨_, _, _, rfl⟩, trivial⟩

theorem run : Run (Router.ledger 9).system (.idle ⟨Router.Walkthrough.start, []⟩)
    ((Router.ledger 9).system.record (.idle ⟨Router.Walkthrough.start, []⟩) [] path) settled :=
  (Router.ledger 9).system.replay_run .refl path admitted

/-- The logs of the router, and the submission of a job on the escrow. -/
def chain : List ChainEvent :=
  [⟨.router (.laneSet 5 .humanOnly), 9, 10, 0, 60⟩, ⟨.router (.escalated 5 50), 9, 20, 1, 61⟩,
    ⟨.router (.aiVerdict 7 true 9000 21), 9, 30, 0, 62⟩, ⟨.router (.escalated 6 30), 9, 40, 0, 63⟩,
    ⟨.jobSubmitted 5 70, 2, 45, 0, 64⟩,
    ⟨.router (.humanVerdict 6 5 false 1 31 32), 9, 45, 2, 65⟩]

def minedLog (event : ChainEvent) : Log :=
  ⟨some event.event, some event.address, some event.blockNumber, some event.logIndex,
    some event.transactionHash⟩

def listed (order : List ChainEvent → List ChainEvent) (address : List Address)
    (fromBlock toBlock : Nat) : Except RpcFailure (List Log) :=
  .ok ((order (chain.filter fun event => decide (event.address ∈ address ∧
    fromBlock ≤ event.blockNumber ∧ event.blockNumber ≤ toBlock))).map minedLog)

def job (jobId : Uint256) : RawJob where
  id := jobId
  client := 8
  provider := 6
  evaluator := 9
  description := ""
  budget := 500
  expiredAt := 10000
  status := if jobId = 5 then 2 else 3
  hook := 0

theorem now_lt : 5000000 < 8640000000000001 := by decide

/-- The window begins after the escalations, and the newest events are listed first. -/
def processor : DashboardSnapshotProcessor where
  routerAddress := some 9
  commerceAddress := some 2
  defaultAgenticCommerceAddress := 1
  logLookbackBlocks := 8
  client :=
    { getBlockNumber := .ok 50
      getLogs := listed List.reverse
      getJob := fun jobId => .success (job jobId)
      lanes := fun jobId => .success (settled.current.world.router.lanes jobId).code
      resolutions := fun jobId => .success (settled.current.world.router.resolutions jobId).code
      evidence := fun jobId => .success (settled.current.world.router.evidence jobId) }
  pinnedIds := [7]
  pinnedReviewMetadata := []
  humanLaneReasonHash := 51
  now := ⟨5000000, now_lt⟩

theorem listed_lists {order : List ChainEvent → List ChainEvent}
    (perm : ∀ events, (order events).Perm events) {client : DashboardSnapshotClient}
    (lists : client.getLogs = listed order) : Lists client 9 2 chain 50 := by
  intro fromBlock toBlock _
  refine ⟨_, by rw [lists]; rfl, ?_⟩
  rw [List.filterMap_map, show toChainEvent ∘ minedLog = some from rfl, List.filterMap_some]
  exact perm _

theorem observes : Observes processor 9 chain 50 settled.current.world.router :=
  ⟨rfl, rfl, listed_lists List.reverse_perm rfl, fun _ => rfl, fun _ => rfl, fun _ => rfl,
    fun _ => ⟨_, rfl⟩⟩

theorem onChain : OnChain 9 settled.current.logs chain 50 :=
  ⟨by unfold Latest.Ordered; decide, by decide, by decide +kernel⟩

end Walkthrough

/-- Job 5 waits for a human, though the window begins after its escalation. -/
theorem dashboard_agrees_walkthrough :
    ∃ snapshot, Walkthrough.processor.refreshUnsafe = .ok snapshot ∧
      Agrees Walkthrough.processor 9 (window Walkthrough.processor 9 Walkthrough.chain 50)
        Walkthrough.settled.current.world.router snapshot ∧
      5 ∈ snapshot.reviewQueue.map (·.id) ∧ 6 ∉ snapshot.reviewQueue.map (·.id) ∧
      ∃ other, (Walkthrough.processor.listing (Walkthrough.listed id)).refreshUnsafe = .ok other ∧
        snapshot.feed.Perm other.feed ∧ snapshot.reviewQueue = other.reviewQueue := by
  obtain ⟨snapshot, done, agrees, unique⟩ := dashboard_agrees Router.Walkthrough.deployed
    Walkthrough.run rfl Walkthrough.onChain Walkthrough.observes
  refine ⟨snapshot, done, agrees, ?_, ?_, unique _ ?_⟩
  · refine (agrees.queue 5).mpr ⟨Walkthrough.job 5, ⟨.inl ?_, rfl, rfl, rfl⟩, ?_⟩
    · exact ⟨⟨.jobSubmitted 5 70, 2, 45, 0, 64⟩, by decide, rfl⟩
    · exact ⟨by decide +kernel, rfl, by decide⟩
  · intro queued
    obtain ⟨raw, -, escalated, -⟩ := (agrees.queue 6).mp queued
    exact absurd escalated (by decide +kernel)
  · exact ⟨rfl, rfl, Walkthrough.listed_lists (fun _ => .refl _) rfl, fun _ => rfl, fun _ => rfl,
      fun _ => rfl, fun _ => ⟨_, rfl⟩⟩

end VapiArc.Dashboard
