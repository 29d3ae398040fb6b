import VapiArc.Lib.Number
import VapiArc.Lib.OrderedMap
import VapiArc.Router.Events

/-!
# The dashboard's snapshot of the chain

A refresh sweeps the events of a window of blocks and derives from them a feed of jobs and the
queue of those that wait for a human review; storage is read where the window tells nothing.
The time at which a job expires is the double next to a `uint256`; the other numbers are integers
of the chain, or below `2 ^ 53`. One reading of the clock stands for those that a refresh makes.
-/
namespace VapiArc.Dashboard

open Json (Binary64)
open Router (RouterEvent)
open Escrow (Address Bytes32 Uint8 Uint16 Uint256)

/-- The times that a `Date` holds, in milliseconds. -/
abbrev Time : Type := Fin 8640000000000001

/-- `Number(value)` -/
def numberOf (value : Uint256) : Binary64 := .nearest value.val value.isLt

def logChunkSize : Nat := 9000

def maxDashboardLookbackBlocks : Nat := 50000

inductive Provenance where
  | aiAuto
  | escalated
  | human
  deriving DecidableEq, Repr

/-- The events that a sweep asks for. Each of them names its job. -/
inductive ContractEvent where
  | jobSubmitted (jobId : Uint256) (deliverable : Bytes32)
  | jobCompleted (jobId : Uint256)
  | jobRejected (jobId : Uint256)
  | router (event : RouterEvent)
  deriving DecidableEq, Repr

namespace ContractEvent

def jobId : ContractEvent → Uint256
  | jobSubmitted jobId _ | jobCompleted jobId | jobRejected jobId => jobId
  | router event => event.jobId

def isJobSubmitted : ContractEvent → Bool
  | jobSubmitted .. => true
  | _ => false

def isEscalated : ContractEvent → Bool
  | router (.escalated ..) => true
  | _ => false

def isHumanVerdict : ContractEvent → Bool
  | router (.humanVerdict ..) => true
  | _ => false

def isLaneSet : ContractEvent → Bool
  | router event => event.isLaneSet
  | _ => false

def deliverable : ContractEvent → Option Bytes32
  | jobSubmitted _ deliverable => some deliverable
  | _ => none

def reasonHash : ContractEvent → Option Bytes32
  | router (.escalated _ reasonHash) => some reasonHash
  | _ => none

/-- `Number(event.args.lane)` -/
def lane : ContractEvent → Option Nat
  | router (.laneSet _ lane) => some lane.code
  | _ => none

/-- The provenance that a verdict shows. -/
def provenance : ContractEvent → Option Provenance
  | router (.humanVerdict ..) => some .human
  | router (.escalated ..) => some .escalated
  | router (.aiVerdict ..) => some .aiAuto
  | _ => none

def confidenceBP : ContractEvent → Option Uint16
  | router (.aiVerdict _ _ confidenceBP _) => some confidenceBP
  | _ => none

end ContractEvent

/-- What `getLogs` answers; a log that is not in a block yet lacks some of it. -/
structure Log where
  event : Option ContractEvent
  address : Option Address
  blockNumber : Option Nat
  logIndex : Option Nat
  transactionHash : Option Bytes32
  deriving DecidableEq, Repr

structure ChainEvent where
  event : ContractEvent
  address : Address
  blockNumber : Nat
  logIndex : Nat
  transactionHash : Bytes32
  deriving DecidableEq, Repr

def toChainEvent (log : Log) : Option ChainEvent := do
  return {
    event := ← log.event, address := ← log.address, blockNumber := ← log.blockNumber
    logIndex := ← log.logIndex, transactionHash := ← log.transactionHash }

def jobIdFrom (event : ChainEvent) : Uint256 := event.event.jobId

def isLater (a : ChainEvent) : Option ChainEvent → Bool
  | none => true
  | some b =>
    a.blockNumber > b.blockNumber ∨ a.blockNumber = b.blockNumber ∧ a.logIndex > b.logIndex

def latestByJob (events : List ChainEvent) : OrderedMap Uint256 ChainEvent :=
  events.foldl (fun latest event =>
    if isLater event (latest.get (jobIdFrom event)) then latest.set (jobIdFrom event) event
    else latest) .empty

def eventBlock (event : Option ChainEvent) : Nat := (event.map (·.blockNumber)).getD 0

/-- `transient` says whether the error, or one of its causes, has the message of a transient
failure. -/
structure RpcFailure where
  transient : Bool
  deriving DecidableEq, Repr

inductive MulticallResult (α : Type) where
  | success (result : α)
  | failure (error : RpcFailure)

namespace MulticallResult

variable {α : Type}

def error : MulticallResult α → Option RpcFailure
  | success _ => none
  | failure error => some error

def result : MulticallResult α → Option α
  | success result => some result
  | failure _ => none

end MulticallResult

structure RawJob where
  id : Uint256
  client : Address
  provider : Address
  evaluator : Address
  description : String
  budget : Uint256
  expiredAt : Uint256
  status : Uint8
  hook : Address
  deriving DecidableEq, Repr

/-- What the client answers during one refresh. -/
structure DashboardSnapshotClient where
  getBlockNumber : Except RpcFailure Nat
  getLogs : (address : List Address) → (fromBlock toBlock : Nat) → Except RpcFailure (List Log)
  getJob : Uint256 → MulticallResult RawJob
  lanes : Uint256 → MulticallResult Nat
  resolutions : Uint256 → MulticallResult Nat
  evidence : Uint256 → MulticallResult Bytes32

structure DashboardJobRecord where
  id : Uint256
  client : Address
  provider : Address
  evaluator : Address
  description : String
  budget : Uint256
  expiredAt : Binary64
  statusCode : Uint8
  status : String
  hook : Address
  deriving DecidableEq

inductive Lane where
  | ai
  | human
  deriving DecidableEq, Repr

structure DashboardFeedRow extends DashboardJobRecord where
  provenance : Option Provenance
  lane : Option Lane
  confidenceBP : Option Uint16
  statusTxHash : Option Bytes32
  verdictTxHash : Option Bytes32
  latestBlock : Nat
  deriving DecidableEq

structure DashboardReviewRecord extends DashboardJobRecord where
  deliverableHash : Option Bytes32
  reasonHash : Bytes32
  escalationTxHash : Option Bytes32
  clientRequested : Bool
  deriving DecidableEq

structure DashboardPinnedReviewMetadata where
  jobId : Uint256
  deliverableHash : Option Bytes32
  reasonHash : Option Bytes32
  escalationTxHash : Option Bytes32
  deriving DecidableEq, Repr

inductive DashboardSnapshotStatus where
  | syncing
  | ready
  | degraded
  deriving DecidableEq, Repr

structure DashboardChainSnapshot where
  configured : Bool
  status : DashboardSnapshotStatus
  latestBlock : Option Nat
  lastError : Option String
  feed : List DashboardFeedRow
  reviewQueue : List DashboardReviewRecord

structure DashboardSnapshotProcessor where
  routerAddress : Option Address
  commerceAddress : Option Address
  defaultAgenticCommerceAddress : Address
  logLookbackBlocks : Nat
  client : DashboardSnapshotClient
  /-- `database.listDashboardPinnedJobIds(this.pinnedJobIds)` -/
  pinnedIds : List Uint256
  /-- `database.listDashboardPinnedReviewMetadata()` -/
  pinnedReviewMetadata : List DashboardPinnedReviewMetadata
  /-- `keccak256` of "client requested human review" -/
  humanLaneReasonHash : Bytes32
  now : Time

/-- The ids are canonical already. -/
def normalizeJobIds (jobIds : List Uint256) : List Uint256 := jobIds.distinct

def throwOnTransientRpcFailures {α : Type} (results : List (MulticallResult α)) :
    Except RpcFailure Unit :=
  let errors := results.filterMap MulticallResult.error
  match errors.find? (·.transient) with
  | some error => .error error
  | none =>
    -- when every read failed, the first failure is thrown
    if errors.length = results.length then errors.head?.elim (.ok ()) .error else .ok ()

/-- Reads a value for each of the jobs; `accept` drops or converts what is read. -/
def multicall {α β : Type} (read : Uint256 → MulticallResult α) (accept : Uint256 → α → Option β)
    (jobIds : List Uint256) : Except RpcFailure (OrderedMap Uint256 β) := do
  let uniqueIds := normalizeJobIds jobIds
  throwOnTransientRpcFailures (uniqueIds.map read)
  return uniqueIds.foldl (fun values jobId =>
    match (read jobId).result.bind (accept jobId) with
    | some value => values.set jobId value
    | none => values) .empty

def statusName (statusCode : Uint8) (expiredAt : Binary64) (nowSeconds : Nat) : String :=
  if statusCode < 3 ∧ expiredAt.value > 0 ∧ expiredAt.value ≤ nowSeconds then "Expired"
  else ["Open", "Funded", "Submitted", "Completed", "Rejected", "Expired"].getD statusCode.val "Open"

def normalizeJob (nowSeconds : Nat) (raw : RawJob) : DashboardJobRecord where
  id := raw.id
  client := raw.client
  provider := raw.provider
  evaluator := raw.evaluator
  description := raw.description
  budget := raw.budget
  expiredAt := numberOf raw.expiredAt
  statusCode := raw.status
  status := statusName raw.status (numberOf raw.expiredAt) nowSeconds
  hook := raw.hook

/-- The row of a job, from its latest event on the escrow and its latest verdict. -/
def feedRow (job : DashboardJobRecord) (jobEvent verdictEvent : Option ChainEvent) :
    DashboardFeedRow where
  toDashboardJobRecord := job
  provenance := verdictEvent.bind (·.event.provenance)
  lane := none
  confidenceBP := verdictEvent.bind (·.event.confidenceBP)
  statusTxHash := jobEvent.map (·.transactionHash)
  verdictTxHash := verdictEvent.map (·.transactionHash)
  latestBlock :=
    if eventBlock jobEvent > eventBlock verdictEvent then eventBlock jobEvent
    else eventBlock verdictEvent

def buildFeedRows (jobs : OrderedMap Uint256 DashboardJobRecord)
    (agentic router : List ChainEvent) : List DashboardFeedRow :=
  let agenticLatest := latestByJob agentic
  let routerLatest := latestByJob router
  (jobs.entries.map fun (jobId, job) =>
    feedRow job (agenticLatest.get jobId) (routerLatest.get jobId)).mergeSort
      fun a b => decide (b.latestBlock ≤ a.latestBlock)

/-- The lane of a row, from an event or else from what was read. -/
def DashboardFeedRow.setLane (row : DashboardFeedRow) (laneByJob : OrderedMap Uint256 ChainEvent)
    (lanes : OrderedMap Uint256 Nat) : DashboardFeedRow :=
  let lane :=
    match laneByJob.get row.id with
    | some laneEvent => laneEvent.event.lane
    | none => lanes.get row.id
  match lane with
  | some 1 => { row with lane := some .human }
  | some 0 => { row with lane := some .ai }
  | _ => row

/-- The provenance of a row whose window tells nothing of it. -/
def DashboardFeedRow.backfill (row : DashboardFeedRow) (resolutions : OrderedMap Uint256 Nat) :
    DashboardFeedRow :=
  if row.provenance.isSome then row
  else match resolutions.get row.id with
    | some 1 | some 2 => { row with provenance := some .aiAuto }
    | some 3 => { row with provenance := some .escalated }
    | some 4 | some 5 => { row with provenance := some .human }
    | _ => row

namespace DashboardSnapshotProcessor

variable (p : DashboardSnapshotProcessor)

def nowSeconds : Nat := p.now.val / 1000

def commerce : Address := p.commerceAddress.getD p.defaultAgenticCommerceAddress

/-- The loop of `sweepEvents`, from `chunkStart` on. -/
def sweepEvents (router commerce : Address) (toBlock chunkStart : Nat) :
    Except RpcFailure (List ChainEvent) :=
  if _ : chunkStart ≤ toBlock then do
    let chunkEnd :=
      if chunkStart + logChunkSize - 1 > toBlock then toBlock else chunkStart + logChunkSize - 1
    let chunk ← p.client.getLogs [commerce, router] chunkStart chunkEnd
    let later ← sweepEvents router commerce toBlock (chunkStart + logChunkSize)
    return chunk.filterMap toChainEvent ++ later
  else return []
termination_by toBlock + 1 - chunkStart
decreasing_by
  unfold logChunkSize
  omega

def getJobs (jobIds : List Uint256) : Except RpcFailure (OrderedMap Uint256 DashboardJobRecord) :=
  multicall p.client.getJob (fun jobId raw =>
    let job := normalizeJob p.nowSeconds raw
    if job.id = jobId then some job else none) jobIds

def readRouterNumbers (read : Uint256 → MulticallResult Nat) (jobIds : List Uint256) :
    Except RpcFailure (OrderedMap Uint256 Nat) :=
  multicall read (fun _ value => some value) jobIds

def readRouterHexes (read : Uint256 → MulticallResult Bytes32) (jobIds : List Uint256) :
    Except RpcFailure (OrderedMap Uint256 Bytes32) :=
  multicall read (fun _ value => some value) jobIds

def backfillProvenance (rows : List DashboardFeedRow) :
    Except RpcFailure (List DashboardFeedRow) := do
  let missing := rows.filter (·.provenance.isNone)
  let resolutions ← readRouterNumbers p.client.resolutions (missing.map (·.id))
  return rows.map (·.backfill resolutions)

/-- The record of a candidate, unless its job is not in review. -/
def reviewRecord (jobs : OrderedMap Uint256 DashboardJobRecord)
    (escalations submitted : OrderedMap Uint256 ChainEvent)
    (metadata : OrderedMap Uint256 DashboardPinnedReviewMetadata)
    (reasonBackfill : OrderedMap Uint256 Bytes32) (jobId : Uint256) :
    Option DashboardReviewRecord := do
  let job ← jobs.get jobId
  if job.statusCode ≠ 2 ∨ job.expiredAt.value ≤ p.nowSeconds then none
  else
    let escalation := escalations.get jobId
    let stored := metadata.get jobId
    let reasonHash ← (escalation.bind (·.event.reasonHash)).or
      ((stored.bind (·.reasonHash)).or (reasonBackfill.get jobId))
    return {
      toDashboardJobRecord := job
      deliverableHash := ((submitted.get jobId).bind (·.event.deliverable)).or
        (stored.bind (·.deliverableHash))
      reasonHash
      escalationTxHash := (escalation.map (·.transactionHash)).or
        (stored.bind (·.escalationTxHash))
      clientRequested := decide (reasonHash = p.humanLaneReasonHash) }

/-- The jobs that may wait for a review, by their events or by the feed. -/
def candidates (routerLogs : List ChainEvent) (escalations : OrderedMap Uint256 ChainEvent)
    (feed : List DashboardFeedRow) : List Uint256 :=
  let terminalIds := (routerLogs.filter (·.event.isHumanVerdict)).map jobIdFrom
  (escalations.keys.filter (fun jobId => decide (jobId ∉ terminalIds)) ++
    (feed.filter fun row =>
      decide (row.provenance = some .escalated ∧ row.id ∉ terminalIds)).map (·.id)).distinct

def buildReviewQueue (jobs : OrderedMap Uint256 DashboardJobRecord) (routerLogs : List ChainEvent)
    (submitted : OrderedMap Uint256 ChainEvent) (feed : List DashboardFeedRow) :
    Except RpcFailure (List DashboardReviewRecord) := do
  let escalations := latestByJob (routerLogs.filter (·.event.isEscalated))
  let metadata := p.pinnedReviewMetadata.foldl
    (fun metadata entry => metadata.set entry.jobId entry) OrderedMap.empty
  let candidates := candidates routerLogs escalations feed
  let reasonBackfill ← readRouterHexes p.client.evidence
    (candidates.filter fun jobId => (escalations.get jobId).isNone)
  let queue := candidates.filterMap
    (p.reviewRecord jobs escalations submitted metadata reasonBackfill)
  return queue.mergeSort fun a b => decide (b.id ≤ a.id)

def initialSnapshot : DashboardChainSnapshot where
  configured := p.routerAddress.isSome
  status := if p.routerAddress.isSome then .syncing else .degraded
  latestBlock := none
  lastError := if p.routerAddress.isSome then none else some "ROUTER_ADDRESS is not configured"
  feed := []
  reviewQueue := []

def lookbackBlocks : Nat :=
  if p.logLookbackBlocks > maxDashboardLookbackBlocks then maxDashboardLookbackBlocks
  else p.logLookbackBlocks

/-- The first block of the window. -/
def fromBlock (latestBlock : Nat) : Nat :=
  if latestBlock > p.lookbackBlocks then latestBlock - p.lookbackBlocks else 0

/-- The feed with the lanes of its jobs. -/
def setLanes (routerLogs : List ChainEvent) (feed : List DashboardFeedRow) :
    Except RpcFailure (List DashboardFeedRow) := do
  let laneByJob := latestByJob (routerLogs.filter (·.event.isLaneSet))
  let lanes ← readRouterNumbers p.client.lanes ((feed.filter (·.lane.isNone)).map (·.id))
  return feed.map (·.setLane laneByJob lanes)

def refreshUnsafe : Except RpcFailure DashboardChainSnapshot :=
  match p.routerAddress with
  | none => return p.initialSnapshot
  | some router => do
    let latestBlock ← p.client.getBlockNumber
    let events ← p.sweepEvents router p.commerce latestBlock (p.fromBlock latestBlock)
    let agentic := events.filter (·.address = p.commerce)
    let routerLogs := events.filter (·.address = router)
    let submitted := latestByJob (agentic.filter (·.event.isJobSubmitted))
    let feedIds := agentic.map jobIdFrom ++ routerLogs.map jobIdFrom ++ p.pinnedIds
    let known ← p.getJobs feedIds
    let jobs := known.keep fun _ job => decide (job.evaluator = router)
    let verdicts := routerLogs.filter (!·.event.isLaneSet)
    let feed ← p.setLanes routerLogs (buildFeedRows jobs agentic verdicts)
    let feed ← p.backfillProvenance feed
    let reviewQueue ← p.buildReviewQueue jobs routerLogs submitted feed
    return {
      configured := true
      status := .ready
      latestBlock := some latestBlock
      lastError := none
      feed
      reviewQueue }

end DashboardSnapshotProcessor

end VapiArc.Dashboard
