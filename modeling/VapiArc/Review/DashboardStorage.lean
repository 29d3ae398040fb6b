import VapiArc.Review.DashboardWindow

/-!
# The dashboard and the storage of the router

The latest verdict on a job that the window shows is its last verdict, and the storage of the
router tells the same; what the window does not show is read from there.
-/
namespace VapiArc.Dashboard

open Checked Reentrancy Transition
open Router (RouterEvent Resolution ReviewLane EvaluationRouter Told Recorded)
open Escrow (Address Bytes32 Uint256)

/-- The provenance that a resolution stands for. -/
def provenanceOf : Resolution → Option Provenance
  | .none => none
  | .autoCompleted | .autoRejected => some .aiAuto
  | .escalated => some .escalated
  | .humanCompleted | .humanRejected => some .human

def laneOf : ReviewLane → Lane
  | .aiAllowed => .ai
  | .humanOnly => .human

/-- A chain up to a block, with these logs of the router. -/
structure OnChain (router : Address) (logs : List RouterEvent) (chain : List ChainEvent)
    (latestBlock : Nat) : Prop where
  ordered : Latest.Ordered position chain
  mined : ∀ event ∈ chain, event.blockNumber ≤ latestBlock
  router : (chain.filter (·.address = router)).map (·.event) = logs.map .router

/-- All reads of a refresh succeed and observe the chain, and the storage of the router, at the
latest block. -/
structure Observes (p : DashboardSnapshotProcessor) (router : Address) (chain : List ChainEvent)
    (latestBlock : Nat) (storage : EvaluationRouter) : Prop where
  configured : p.routerAddress = some router
  head : p.client.getBlockNumber = .ok latestBlock
  logs : Lists p.client router p.commerce chain latestBlock
  lanes : ∀ jobId, p.client.lanes jobId = .success (storage.lanes jobId).code
  resolutions : ∀ jobId, p.client.resolutions jobId = .success (storage.resolutions jobId).code
  evidence : ∀ jobId, p.client.evidence jobId = .success (storage.evidence jobId)
  jobs : ∀ jobId, ∃ raw, p.client.getJob jobId = .success raw

section Verdicts

variable {jobId : Uint256} {resolution : Resolution} {events : List RouterEvent}

/-- The last verdict shows the provenance of the resolution. -/
theorem told_provenance (told : Told jobId resolution events) :
    events.getLast?.bind (fun event => (ContractEvent.router event).provenance) =
      provenanceOf resolution := by
  cases told with
  | unresolved same => rw [same]; rfl
  | escalated same => rw [same]; rfl
  | @auto approve _ _ same => rw [same]; cases approve <;> rfl
  | @human _ approve _ _ _ same => rw [same]; cases approve <;> rfl
  | @reviewed _ _ approve _ _ _ same => rw [same]; cases approve <;> rfl

/-- A job that was escalated still is, or a human has settled it since. -/
theorem told_escalated (told : Told jobId resolution events) {event : RouterEvent}
    (member : event ∈ events) (escalation : (ContractEvent.router event).isEscalated = true) :
    resolution = .escalated ∨
      ∃ last, events.getLast? = some last ∧ (ContractEvent.router last).isHumanVerdict = true := by
  cases told with
  | unresolved => cases member
  | escalated same => exact .inl same
  | auto => cases List.mem_singleton.mp member; cases escalation
  | human => cases List.mem_singleton.mp member; cases escalation
  | reviewed => exact .inr ⟨_, rfl, rfl⟩

theorem told_not_human (told : Told jobId .escalated events) {event : RouterEvent}
    (member : event ∈ events) : (ContractEvent.router event).isHumanVerdict = false := by
  obtain ⟨reasonHash, rfl⟩ := told.of_escalated
  cases List.mem_singleton.mp member
  rfl

end Verdicts

section Chain

variable {router commerce : Address} {logs : List RouterEvent} {chain events : List ChainEvent}
  {latestBlock fromBlock : Nat} {jobId : Uint256} (q : ContractEvent → Bool)

/-- The logs of a contract that a condition holds of. -/
def logsOf (address : Address) (events : List ChainEvent) : List ChainEvent :=
  (events.filter (·.address = address)).filter fun event => q event.event

/-- The selected logs of the router on the chain are its own logs. -/
theorem OnChain.own (onChain : OnChain router logs chain latestBlock) :
    (ofJob jobId (logsOf q router chain)).map (·.event) =
      (logs.filter fun event => q (.router event) && event.jobId = jobId).map .router := by
  have same := congrArg (List.filter fun event => q event && event.jobId = jobId) onChain.router
  rw [List.filter_map, List.filter_map] at same
  rw [ofJob, logsOf, List.filter_filter]
  refine Eq.trans ?_ same
  refine congrArg _ (List.filter_congr fun event _ => ?_)
  exact Bool.and_comm ..

/-- The latest selected log of a job in the window is its last one, when that is recent. -/
theorem OnChain.latest (onChain : OnChain router logs chain latestBlock)
    (perm : events.Perm (chain.filter (inRange router commerce fromBlock latestBlock))) :
    (latestByJob (logsOf q router events)).get jobId =
      (ofJob jobId (logsOf q router chain)).getLast?.filter
        fun event => fromBlock ≤ event.blockNumber := by
  have ordered := onChain.ordered
  have listed : (logsOf q router events).Perm (logsOf q router
      (chain.filter (inRange router commerce fromBlock latestBlock))) :=
    (perm.filter _).filter _
  rw [get_latestByJob_of_perm (((ordered.filter _).filter _).filter _) listed]
  have window : ofJob jobId (logsOf q router
      (chain.filter (inRange router commerce fromBlock latestBlock))) =
      (ofJob jobId (logsOf q router chain)).filter fun event => fromBlock ≤ event.blockNumber := by
    simp only [ofJob, logsOf, List.filter_filter]
    refine List.filter_congr fun event member => ?_
    have mined := onChain.mined event member
    by_cases own : event.address = router
    · simp [inRange, own, mined, Bool.and_assoc, Bool.and_comm, Bool.and_left_comm]
    · simp [own]
  have closed : (ofJob jobId (logsOf q router chain)).Pairwise fun a b =>
      decide (fromBlock ≤ a.blockNumber) = true → decide (fromBlock ≤ b.blockNumber) = true := by
    refine (((ordered.filter _).filter _).filter _).imp fun {a b} before inside => ?_
    have later : a.blockNumber ≤ b.blockNumber := by
      rcases (Prod.Lex.toLex_lt_toLex ..).mp before with less | ⟨same, -⟩
      · exact Nat.le_of_lt less
      · exact Nat.le_of_eq same
    simp only [decide_eq_true_eq] at inside ⊢
    exact inside.trans later
  exact (congrArg List.getLast? window).trans (Latest.getLast?_filter closed)

/-- The last selected log of a job on the chain is the router's own last one. -/
theorem OnChain.last (onChain : OnChain router logs chain latestBlock) {event : ChainEvent}
    (found : (ofJob jobId (logsOf q router chain)).getLast? = some event) :
    ∃ own, (logs.filter fun event => q (.router event) && event.jobId = jobId).getLast? =
      some own ∧ event.event = .router own := by
  have same : ((ofJob jobId (logsOf q router chain)).map (·.event)).getLast? = _ :=
    congrArg List.getLast? (onChain.own q)
  rw [List.getLast?_map, List.getLast?_map, found] at same
  obtain ⟨own, last, shown⟩ := Option.map_eq_some_iff.mp same.symm
  exact ⟨own, last, shown.symm⟩

end Chain

/-- The logs of the router tell its storage. -/
structure Tells (logs : List RouterEvent) (storage : EvaluationRouter) : Prop where
  verdicts : ∀ jobId, Told jobId (storage.resolutions jobId) (Router.verdictsOf jobId logs)
  lanes : ∀ jobId,
    storage.lanes jobId = (Router.lanesOf jobId logs).getLast?.getD .aiAllowed

theorem lanesOf_eq (jobId : Uint256) (logs : List RouterEvent) :
    Router.lanesOf jobId logs = (logs.filter fun event =>
      ContractEvent.isLaneSet (.router event) && event.jobId = jobId).filterMap
        (RouterEvent.laneFor jobId) := by
  rw [List.filterMap_filter]
  refine List.filterMap_congr fun event _ => ?_
  cases event with
  | laneSet other lane =>
    by_cases same : other = jobId <;>
      simp [RouterEvent.laneFor, ContractEvent.isLaneSet, RouterEvent.isLaneSet, RouterEvent.jobId,
        same]
  | aiVerdict => rfl
  | escalated => rfl
  | humanVerdict => rfl

section Window

variable {router commerce : Address} {logs : List RouterEvent} {chain events : List ChainEvent}
  {latestBlock fromBlock : Nat} {jobId : Uint256} {storage : EvaluationRouter} {event : ChainEvent}

/-- A verdict that the window shows as the latest has the provenance of the resolution. -/
theorem latest_provenance (onChain : OnChain router logs chain latestBlock)
    (tells : Tells logs storage)
    (perm : events.Perm (chain.filter (inRange router commerce fromBlock latestBlock)))
    (latest : (latestByJob (logsOf (!·.isLaneSet) router events)).get jobId = some event) :
    event.event.provenance = provenanceOf (storage.resolutions jobId) := by
  rw [onChain.latest _ perm] at latest
  obtain ⟨found, -⟩ := Option.filter_eq_some_iff.mp latest
  obtain ⟨own, last, shown⟩ := onChain.last _ found
  have provenance := told_provenance (tells.verdicts jobId)
  rw [show (Router.verdictsOf jobId logs).getLast? = some own from last] at provenance
  rw [shown]
  exact provenance

/-- A lane that the window shows as the latest is the lane in storage. -/
theorem latest_lane (onChain : OnChain router logs chain latestBlock)
    (tells : Tells logs storage)
    (perm : events.Perm (chain.filter (inRange router commerce fromBlock latestBlock)))
    (latest : (latestByJob (logsOf (·.isLaneSet) router events)).get jobId = some event) :
    event.event.lane = some (storage.lanes jobId).code := by
  rw [onChain.latest _ perm] at latest
  obtain ⟨found, -⟩ := Option.filter_eq_some_iff.mp latest
  obtain ⟨own, last, shown⟩ := onChain.last _ found
  have selected := List.mem_filter.mp (List.mem_of_getLast? last)
  have stored := tells.lanes jobId
  rw [lanesOf_eq] at stored
  obtain ⟨before, whole⟩ := List.getLast?_eq_some_iff.mp last
  rw [whole, List.filterMap_append] at stored
  cases own with
  | laneSet other lane =>
    obtain rfl : other = jobId := of_decide_eq_true (Bool.and_eq_true_iff.mp selected.2).2
    rw [shown, stored]
    simp [RouterEvent.laneFor, ContractEvent.lane]
  | aiVerdict => cases selected.2
  | escalated => cases selected.2
  | humanVerdict => cases selected.2

end Window

section Rows

variable {row : DashboardFeedRow} {storage : EvaluationRouter}

/-- The lane is the one in storage, shown by an event or read. -/
theorem setLane_eq {laneByJob : OrderedMap Uint256 ChainEvent} {lanes : OrderedMap Uint256 Nat}
    (shown : ∀ event, laneByJob.get row.id = some event →
      event.event.lane = some (storage.lanes row.id).code)
    (read : lanes.get row.id = some (storage.lanes row.id).code) :
    row.setLane laneByJob lanes = { row with lane := some (laneOf (storage.lanes row.id)) } := by
  unfold DashboardFeedRow.setLane
  cases found : laneByJob.get row.id with
  | none =>
    simp only [read]
    cases storage.lanes row.id <;> rfl
  | some event =>
    simp only [shown event found]
    cases storage.lanes row.id <;> rfl

/-- The provenance is the one of the stored resolution, shown by an event or read. -/
theorem backfill_eq {resolutions : OrderedMap Uint256 Nat}
    (shown : row.provenance ≠ none → row.provenance = provenanceOf (storage.resolutions row.id))
    (read : row.provenance = none →
      resolutions.get row.id = some (storage.resolutions row.id).code) :
    row.backfill resolutions =
      { row with provenance := provenanceOf (storage.resolutions row.id) } := by
  unfold DashboardFeedRow.backfill
  cases found : row.provenance with
  | some provenance =>
    have same := shown (by simp [found])
    rw [← same]
    rfl
  | none =>
    simp only [Option.isSome_none, Bool.false_eq_true, if_false, read found]
    cases storage.resolutions row.id <;> simp [Resolution.code, provenanceOf, ← found]

theorem mem_buildFeedRows {jobs : OrderedMap Uint256 DashboardJobRecord}
    {agentic verdicts : List ChainEvent} :
    row ∈ buildFeedRows jobs agentic verdicts ↔ ∃ jobId job, jobs.get jobId = some job ∧
      feedRow job ((latestByJob agentic).get jobId) ((latestByJob verdicts).get jobId) = row := by
  rw [buildFeedRows, List.mem_mergeSort, List.mem_map]
  simp only [Prod.exists, OrderedMap.get_eq_some]

end Rows

/-- What a refresh sweeps. -/
def window (p : DashboardSnapshotProcessor) (router : Address) (chain : List ChainEvent)
    (latestBlock : Nat) : List ChainEvent :=
  chain.filter (inRange router p.commerce (p.fromBlock latestBlock) latestBlock)

/-- A job of the router that the window mentions, or that is pinned. -/
structure Known (p : DashboardSnapshotProcessor) (router : Address) (swept : List ChainEvent)
    (jobId : Uint256) (raw : RawJob) : Prop where
  mentioned : (∃ event ∈ swept, jobIdFrom event = jobId) ∨ jobId ∈ p.pinnedIds
  read : p.client.getJob jobId = .success raw
  id : raw.id = jobId
  evaluator : raw.evaluator = router

/-- A row with what the storage of the router tells of its job. -/
def storedRow (storage : EvaluationRouter) (row : DashboardFeedRow) : DashboardFeedRow :=
  { row with
    lane := some (laneOf (storage.lanes row.id))
    provenance := provenanceOf (storage.resolutions row.id) }

section Refresh

variable {p : DashboardSnapshotProcessor} {router : Address} {logs : List RouterEvent}
  {chain events : List ChainEvent} {latestBlock : Nat} {storage : EvaluationRouter}
  {jobs : OrderedMap Uint256 DashboardJobRecord} {jobId : Uint256}

/-- The jobs that the feed is made of. -/
structure Jobs (p : DashboardSnapshotProcessor) (router : Address) (swept : List ChainEvent)
    (jobs : OrderedMap Uint256 DashboardJobRecord) : Prop where
  known : ∀ jobId job, jobs.get jobId = some job ↔
    ∃ raw, Known p router swept jobId raw ∧ normalizeJob p.nowSeconds raw = job

theorem Jobs.id (known : Jobs p router events jobs) {job : DashboardJobRecord}
    (found : jobs.get jobId = some job) : job.id = jobId := by
  obtain ⟨raw, known, rfl⟩ := (known.known jobId job).mp found
  exact known.id

/-- The ids of the feed, from the logs of both contracts and the pinned ones. -/
def feedIds (p : DashboardSnapshotProcessor) (router : Address) (events : List ChainEvent) :
    List Uint256 :=
  (events.filter (·.address = p.commerce)).map jobIdFrom ++
    (events.filter (·.address = router)).map jobIdFrom ++ p.pinnedIds

theorem mem_feedIds (perm : events.Perm (window p router chain latestBlock)) :
    jobId ∈ feedIds p router events ↔
      (∃ event ∈ window p router chain latestBlock, jobIdFrom event = jobId) ∨
        jobId ∈ p.pinnedIds := by
  simp only [feedIds, List.mem_append, List.mem_map, List.mem_filter, decide_eq_true_eq]
  constructor
  · rintro ((⟨event, ⟨swept, -⟩, same⟩ | ⟨event, ⟨swept, -⟩, same⟩) | pinned)
    · exact .inl ⟨event, perm.mem_iff.mp swept, same⟩
    · exact .inl ⟨event, perm.mem_iff.mp swept, same⟩
    · exact .inr pinned
  · rintro (⟨event, swept, same⟩ | pinned)
    · have own := (of_decide_eq_true (List.mem_filter.mp swept).2).1
      have listed := perm.mem_iff.mpr swept
      rcases List.mem_cons.mp own with commerce | router
      · exact .inl (.inl ⟨event, ⟨listed, commerce⟩, same⟩)
      · exact .inl (.inr ⟨event, ⟨listed, List.mem_singleton.mp router⟩, same⟩)
    · exact .inr pinned

/-- The reads of the jobs leave those of this router. -/
theorem getJobs_known (observes : Observes p router chain latestBlock storage)
    (perm : events.Perm (window p router chain latestBlock)) :
    ∃ read, p.getJobs (feedIds p router events) = .ok read ∧
      Jobs p router (window p router chain latestBlock)
        (read.keep fun _ job => decide (job.evaluator = router)) := by
  have succeeds : ∃ read, p.getJobs (feedIds p router events) = .ok read :=
    multicall_succeeds observes.jobs
  obtain ⟨read, done⟩ := succeeds
  refine ⟨read, done, ⟨fun jobId job => ?_⟩⟩
  obtain ⟨raw, answered⟩ := observes.jobs jobId
  have got := get_multicall done jobId
  simp only [answered, mem_feedIds perm] at got
  rw [OrderedMap.get_keep, Option.filter_eq_some_iff, got]
  constructor
  · rintro ⟨found, evaluator⟩
    split at found
    next mentioned =>
      simp only [MulticallResult.result, Option.bind_some] at found
      split at found
      next same =>
        cases found
        exact ⟨raw, ⟨mentioned, answered, same, of_decide_eq_true evaluator⟩, rfl⟩
      next => cases found
    next => cases found
  · rintro ⟨other, known, rfl⟩
    have same := answered.symm.trans known.read
    cases same
    rw [if_pos known.mentioned]
    refine ⟨?_, decide_eq_true known.evaluator⟩
    simp only [MulticallResult.result, Option.bind_some]
    exact if_pos known.id

/-- The lanes of the rows are those in storage. -/
theorem setLanes_eq (observes : Observes p router chain latestBlock storage)
    (onChain : OnChain router logs chain latestBlock) (tells : Tells logs storage)
    (perm : events.Perm (window p router chain latestBlock)) {feed : List DashboardFeedRow}
    (unset : ∀ row ∈ feed, row.lane = none) :
    p.setLanes (events.filter (·.address = router)) feed =
      .ok (feed.map fun row => { row with lane := some (laneOf (storage.lanes row.id)) }) := by
  have succeeds : ∃ lanes, DashboardSnapshotProcessor.readRouterNumbers p.client.lanes
      ((feed.filter (·.lane.isNone)).map (·.id)) = .ok lanes :=
    multicall_succeeds fun jobId => ⟨_, observes.lanes jobId⟩
  obtain ⟨lanes, done⟩ := succeeds
  rw [DashboardSnapshotProcessor.setLanes, done]
  refine congrArg Except.ok (List.map_congr_left fun row member => ?_)
  refine setLane_eq (fun event shown => latest_lane onChain tells perm shown) ?_
  have asked : row.id ∈ (feed.filter (·.lane.isNone)).map (·.id) :=
    List.mem_map_of_mem (List.mem_filter.mpr ⟨member, by simp [unset row member]⟩)
  rw [get_multicall done, if_pos asked, observes.lanes]
  rfl

/-- The provenance of the rows is that of the stored resolutions. -/
theorem backfillProvenance_eq (observes : Observes p router chain latestBlock storage)
    {rows : List DashboardFeedRow} (shown : ∀ row ∈ rows, row.provenance ≠ none →
      row.provenance = provenanceOf (storage.resolutions row.id)) :
    p.backfillProvenance rows = .ok (rows.map fun row =>
      { row with provenance := provenanceOf (storage.resolutions row.id) }) := by
  have succeeds : ∃ resolutions, DashboardSnapshotProcessor.readRouterNumbers p.client.resolutions
      ((rows.filter (·.provenance.isNone)).map (·.id)) = .ok resolutions :=
    multicall_succeeds fun jobId => ⟨_, observes.resolutions jobId⟩
  obtain ⟨resolutions, done⟩ := succeeds
  simp only [DashboardSnapshotProcessor.backfillProvenance, done]
  refine congrArg Except.ok (List.map_congr_left fun row member => ?_)
  refine backfill_eq (shown row member) fun missing => ?_
  have asked : row.id ∈ (rows.filter (·.provenance.isNone)).map (·.id) :=
    List.mem_map_of_mem (List.mem_filter.mpr ⟨member, by simp [missing]⟩)
  rw [get_multicall done, if_pos asked, observes.resolutions]
  rfl

/-- The feed is what the events make of the jobs, with what storage tells of them. -/
theorem feed_eq (observes : Observes p router chain latestBlock storage)
    (onChain : OnChain router logs chain latestBlock) (tells : Tells logs storage)
    (perm : events.Perm (window p router chain latestBlock))
    (known : Jobs p router (window p router chain latestBlock) jobs) (agentic : List ChainEvent) :
    ∃ laned, p.setLanes (events.filter (·.address = router))
        (buildFeedRows jobs agentic (logsOf (!·.isLaneSet) router events)) = .ok laned ∧
      p.backfillProvenance laned =
        .ok ((buildFeedRows jobs agentic (logsOf (!·.isLaneSet) router events)).map
          (storedRow storage)) := by
  have unset : ∀ row ∈ buildFeedRows jobs agentic (logsOf (!·.isLaneSet) router events),
      row.lane = none := by
    intro row member
    obtain ⟨jobId, job, -, rfl⟩ := mem_buildFeedRows.mp member
    rfl
  refine ⟨_, setLanes_eq observes onChain tells perm unset,
    (backfillProvenance_eq observes ?_).trans ?_⟩
  · intro row member told
    obtain ⟨built, built_member, rfl⟩ := List.mem_map.mp member
    obtain ⟨jobId, job, found, rfl⟩ := mem_buildFeedRows.mp built_member
    obtain rfl := known.id found
    cases latest : (latestByJob (logsOf (!·.isLaneSet) router events)).get job.id with
    | none => simp [feedRow, latest] at told
    | some event =>
      have provenance := latest_provenance onChain tells perm latest
      simpa [feedRow, latest] using provenance
  · rw [List.map_map]
    rfl

/-- An event that is swept is one of the router's own logs. -/
theorem own_of_swept (onChain : OnChain router logs chain latestBlock)
    (perm : events.Perm (window p router chain latestBlock)) (q : ContractEvent → Bool)
    {event : ChainEvent} (swept : event ∈ ofJob jobId (logsOf q router events)) :
    ∃ own ∈ logs.filter (fun event => q (.router event) && event.jobId = jobId),
      event.event = .router own := by
  have listed : event ∈ ofJob jobId (logsOf q router chain) := by
    have inside := (((perm.filter _).filter _).filter _).mem_iff.mp swept
    exact ((List.filter_sublist.filter _).filter _).filter _ |>.mem inside
  have shown := List.mem_map_of_mem (f := ChainEvent.event) listed
  rw [onChain.own q] at shown
  obtain ⟨own, member, same⟩ := List.mem_map.mp shown
  exact ⟨own, member, same.symm⟩

theorem isLaneSet_of_isEscalated {event : ContractEvent} (escalated : event.isEscalated = true) :
    event.isLaneSet = false := by
  rcases event with _ | _ | _ | own
  · rfl
  · rfl
  · rfl
  · cases own <;> first | rfl | cases escalated

theorem isLaneSet_of_isHumanVerdict {event : ContractEvent}
    (human : event.isHumanVerdict = true) : event.isLaneSet = false := by
  rcases event with _ | _ | _ | own
  · rfl
  · rfl
  · rfl
  · cases own <;> first | rfl | cases human

theorem mem_ofJob {event : ChainEvent} {address : Address} {q : ContractEvent → Bool} :
    event ∈ ofJob jobId (logsOf q address events) ↔ event ∈ events ∧ event.address = address ∧
      q event.event = true ∧ jobIdFrom event = jobId := by
  simp only [ofJob, logsOf, List.mem_filter, decide_eq_true_eq, and_assoc]

/-- An escalated job has no human verdict in the window. -/
theorem not_human_of_escalated (onChain : OnChain router logs chain latestBlock)
    (tells : Tells logs storage) (perm : events.Perm (window p router chain latestBlock))
    (escalated : storage.resolutions jobId = .escalated) {event : ChainEvent}
    (swept : event ∈ ofJob jobId (logsOf (·.isHumanVerdict) router events)) : False := by
  obtain ⟨listed, own, human, job⟩ := mem_ofJob.mp swept
  have verdict : event ∈ ofJob jobId (logsOf (!·.isLaneSet) router events) :=
    mem_ofJob.mpr ⟨listed, own, by simp [isLaneSet_of_isHumanVerdict human], job⟩
  obtain ⟨told, member, same⟩ := own_of_swept onChain perm _ verdict
  have verdicts := tells.verdicts jobId
  rw [escalated] at verdicts
  have other := told_not_human verdicts member
  rw [same, other] at human
  cases human

/-- A job whose escalation the window shows is escalated, or the window shows that a human has
settled it. -/
theorem escalated_of_swept (onChain : OnChain router logs chain latestBlock)
    (tells : Tells logs storage) (perm : events.Perm (window p router chain latestBlock))
    {event : ChainEvent} (swept : event ∈ ofJob jobId (logsOf (·.isEscalated) router events)) :
    storage.resolutions jobId = .escalated ∨
      ∃ last, last ∈ ofJob jobId (logsOf (·.isHumanVerdict) router events) := by
  obtain ⟨listed, own, escalation, job⟩ := mem_ofJob.mp swept
  have verdict : event ∈ ofJob jobId (logsOf (!·.isLaneSet) router events) :=
    mem_ofJob.mpr ⟨listed, own, by simp [isLaneSet_of_isEscalated escalation], job⟩
  obtain ⟨told, member, same⟩ := own_of_swept onChain perm _ verdict
  rw [same] at escalation
  rcases told_escalated (tells.verdicts jobId) member escalation with here | ⟨last, final, human⟩
  · exact .inl here
  · refine .inr ?_
    -- the last verdict is not before the escalation, so the window shows it too
    cases latest : (latestByJob (logsOf (!·.isLaneSet) router events)).get jobId with
    | none =>
      have absent := OrderedMap.get_eq_none.mp latest
      exact absurd (mem_keys_latestByJob.mpr ⟨event, (List.mem_filter.mp verdict).1, job⟩) absent
    | some newest =>
      have found := latest
      rw [get_latestByJob] at found
      obtain ⟨listed, own, -, job⟩ := mem_ofJob.mp (List.argmax_mem found)
      rw [onChain.latest _ perm] at latest
      obtain ⟨ends, -⟩ := Option.filter_eq_some_iff.mp latest
      obtain ⟨other, last_of_all, shown⟩ := onChain.last _ ends
      obtain rfl : last = other := Option.some.inj (final.symm.trans last_of_all)
      exact ⟨newest, mem_ofJob.mpr ⟨listed, own, by rw [shown]; exact human, job⟩⟩

/-- Of the jobs of the dashboard the candidates are those that storage says are escalated. -/
theorem mem_candidates (onChain : OnChain router logs chain latestBlock)
    (tells : Tells logs storage) (perm : events.Perm (window p router chain latestBlock))
    {feed : List DashboardFeedRow} (shows : ∃ row ∈ feed, row.id = jobId)
    (stored : ∀ row ∈ feed, row.provenance = provenanceOf (storage.resolutions row.id)) :
    jobId ∈ DashboardSnapshotProcessor.candidates (events.filter (·.address = router))
        (latestByJob (logsOf (·.isEscalated) router events)) feed ↔
      storage.resolutions jobId = .escalated := by
  have terminal : jobId ∈ ((events.filter (·.address = router)).filter
      (·.event.isHumanVerdict)).map jobIdFrom ↔
      ∃ event, event ∈ ofJob jobId (logsOf (·.isHumanVerdict) router events) := by
    simp only [ofJob, logsOf, List.mem_map, List.mem_filter, decide_eq_true_eq]
  have escalated_iff {resolution : Resolution} :
      provenanceOf resolution = some .escalated ↔ resolution = .escalated := by
    cases resolution <;> simp [provenanceOf]
  simp only [DashboardSnapshotProcessor.candidates, mem_distinct, List.mem_append, List.mem_filter,
    decide_eq_true_eq, terminal]
  constructor
  · rintro (⟨key, open_⟩ | shown)
    · obtain ⟨event, member, job⟩ := mem_keys_latestByJob.mp key
      have swept : event ∈ ofJob jobId (logsOf (·.isEscalated) router events) :=
        List.mem_filter.mpr ⟨member, decide_eq_true job⟩
      rcases escalated_of_swept onChain tells perm swept with here | settled
      · exact here
      · exact absurd settled open_
    · obtain ⟨row, selected, rfl⟩ := List.mem_map.mp shown
      obtain ⟨member, tests⟩ := List.mem_filter.mp selected
      have provenance := (of_decide_eq_true tests).1
      rw [stored row member, escalated_iff] at provenance
      exact provenance
  · intro escalated
    obtain ⟨row, member, rfl⟩ := shows
    refine .inr (List.mem_map_of_mem (List.mem_filter.mpr ⟨member, decide_eq_true ⟨?_, ?_⟩⟩))
    · rw [stored row member, escalated_iff]
      exact escalated
    · rw [terminal]
      rintro ⟨event, swept⟩
      exact not_human_of_escalated onChain tells perm escalated swept

end Refresh

end VapiArc.Dashboard
