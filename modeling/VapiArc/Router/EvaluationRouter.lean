import VapiArc.Escrow.World
import VapiArc.Lib.Reentrancy

/-!
# `EvaluationRouter`

The target contract is not trusted: what `getJob` answers is an argument of every
call, and `complete` and `reject` hand control to the target, which may call the
router before they return. `getJob` and `balanceOf` are static calls, so nothing can
change while they run.
-/
namespace VapiArc.Router

open Checked Function Reentrancy
open Escrow (Address Bytes32 Uint8 Uint16 Uint256 Msg)

def statusSubmitted : Uint8 := 2

inductive Resolution where
  | none
  | autoCompleted
  | autoRejected
  | escalated
  | humanCompleted
  | humanRejected
  deriving DecidableEq, Repr

inductive ReviewLane where
  | aiAllowed
  | humanOnly
  deriving DecidableEq, Repr

/-- The fields of `IAgenticCommerce.Job` that the router reads. -/
structure Job where
  client : Address
  evaluator : Address
  budget : Uint256
  expiredAt : Uint256
  status : Uint8
  deriving DecidableEq, Repr

inductive Error where
  | notOwner
  | notOracle
  | notHumanResolver
  | invalidReviewer
  | missingPayoutTransaction
  | notClient (jobId : Uint256)
  | laneLocked (jobId : Uint256)
  | humanReviewRequired (jobId : Uint256)
  | zeroAddress
  | alreadyResolved (jobId : Uint256)
  | notEscalatable (jobId : Uint256)
  | notEvaluator (jobId : Uint256)
  | wrongStatus (jobId : Uint256) (status : Uint8)
  | aboveAutoCap (jobId budget cap : Uint256)
  | belowConfidence (confidenceBP minimum : Uint16)
  | jobExpired (jobId : Uint256)
  | sweepFailed
  /-- A call to another contract reverted. -/
  | failedCall
  deriving DecidableEq, Repr

/-- The storage of the router; `target` is immutable. -/
structure EvaluationRouter where
  target : Address
  owner : Address
  oracle : Address
  humanResolver : Address
  autoSettleCap : Uint256
  minConfidenceBP : Uint16
  resolutions : Uint256 → Resolution := fun _ => .none
  evidence : Uint256 → Bytes32 := fun _ => 0
  lanes : Uint256 → ReviewLane := fun _ => .aiAllowed
  reviewers : Uint256 → Address := fun _ => 0
  reviewerRewards : Uint256 → Uint256 := fun _ => 0
  reviewerPayouts : Uint256 → Bytes32 := fun _ => 0

/-- A call of the router that settles a job on the target. -/
inductive TargetCall where
  | complete (jobId : Uint256) (reason : Bytes32)
  | reject (jobId : Uint256) (reason : Bytes32)
  deriving DecidableEq, Repr

def TargetCall.jobId : TargetCall → Uint256
  | .complete jobId _ => jobId
  | .reject jobId _ => jobId

def TargetCall.reason : TargetCall → Bytes32
  | .complete _ reason => reason
  | .reject _ reason => reason

/-- The router's storage and the settlements it has asked the target for, the newest
first. A settlement that reverts, or whose caller reverts, is undone with the storage. -/
structure World where
  router : EvaluationRouter
  settlements : List TargetCall := []

namespace World

variable (w : World) (jobId : Uint256)

/-- `resolutions[jobId] = resolution; evidence[jobId] = evidenceHash` -/
def resolve (resolution : Resolution) (evidenceHash : Bytes32) : World :=
  { w with router := { w.router with
    resolutions := update w.router.resolutions jobId resolution
    evidence := update w.router.evidence jobId evidenceHash } }

/-- The provenance of a human resolution. -/
def setReviewer (reviewer : Address) (reward : Uint256) (payoutTxHash : Bytes32) : World :=
  { w with router := { w.router with
    reviewers := update w.router.reviewers jobId reviewer
    reviewerRewards := update w.router.reviewerRewards jobId reward
    reviewerPayouts := update w.router.reviewerPayouts jobId payoutTxHash } }

def request (call : TargetCall) : World := { w with settlements := call :: w.settlements }

end World

/-- An external call in progress. -/
inductive Pending where
  | settlement (call : TargetCall)
  | transfer (token recipient : Address) (amount : Uint256)
  deriving DecidableEq, Repr

inductive Reply where
  | reverted
  | returned (value : Bool)
  deriving DecidableEq, Repr

/-- What the contracts that the router reads answer during one call; nothing when they
revert. -/
structure Answers where
  getJob : Option Job := none
  balanceOf : Option Uint256 := none

/-- The constructor, run by `sender`. -/
def constructor (sender target oracle humanResolver : Address) (autoSettleCap : Uint256)
    (minConfidenceBP : Uint16) : Except Error World := do
  revertIf (target = 0 ∨ oracle = 0 ∨ humanResolver = 0) .zeroAddress
  return { router :=
    { target, owner := sender, oracle, humanResolver, autoSettleCap, minConfidenceBP } }

section Functions

variable (here : Address) (msg : Msg) (answers : Answers) (w : World)

def onlyOwner : Except Error Unit := revertIf (msg.sender ≠ w.router.owner) .notOwner

def onlyOracle : Except Error Unit := revertIf (msg.sender ≠ w.router.oracle) .notOracle

def onlyHumanResolver : Except Error Unit :=
  revertIf (msg.sender ≠ w.router.humanResolver) .notHumanResolver

def setLane (jobId : Uint256) (lane : ReviewLane) : Except Error (Progress World Pending) := do
  revertIf (w.router.resolutions jobId ≠ .none) (.laneLocked jobId)
  let job ← demand .failedCall answers.getJob
  revertIf (job.evaluator ≠ here) (.notEvaluator jobId)
  revertIf (msg.sender ≠ job.client) (.notClient jobId)
  return .finished { w with router := { w.router with
    lanes := update w.router.lanes jobId lane } }

/-- `_checkedJob` -/
def checkedJob (jobId : Uint256) : Except Error Job := do
  let job ← demand .failedCall answers.getJob
  revertIf (job.evaluator ≠ here) (.notEvaluator jobId)
  revertIf (job.status ≠ statusSubmitted) (.wrongStatus jobId job.status)
  return job

/-- `_settle`: nothing but an event is left to do once the target has answered. -/
def settle (jobId : Uint256) (approve : Bool) (evidenceHash : Bytes32) : Progress World Pending :=
  let call : TargetCall :=
    if approve then .complete jobId evidenceHash else .reject jobId evidenceHash
  .calling (w.request call) (.settlement call)

def submitAIVerdict (jobId : Uint256) (approve : Bool) (confidenceBP : Uint16)
    (evidenceHash : Bytes32) : Except Error (Progress World Pending) := do
  onlyOracle msg w
  revertIf (w.router.resolutions jobId ≠ .none) (.alreadyResolved jobId)
  revertIf (w.router.lanes jobId = .humanOnly) (.humanReviewRequired jobId)
  revertIf (confidenceBP < w.router.minConfidenceBP)
    (.belowConfidence confidenceBP w.router.minConfidenceBP)
  let job ← checkedJob here answers jobId
  revertIf (job.budget > w.router.autoSettleCap)
    (.aboveAutoCap jobId job.budget w.router.autoSettleCap)
  revertIf (msg.timestamp ≥ job.expiredAt.val) (.jobExpired jobId)
  let resolution : Resolution := if approve then .autoCompleted else .autoRejected
  -- the verdict is recorded before the target is called
  return settle (w.resolve jobId resolution evidenceHash) jobId approve evidenceHash

def escalate (jobId : Uint256) (reasonHash : Bytes32) :
    Except Error (Progress World Pending) := do
  onlyOracle msg w
  revertIf (w.router.resolutions jobId ≠ .none) (.notEscalatable jobId)
  return .finished (w.resolve jobId .escalated reasonHash)

def humanResolve (jobId : Uint256) (reviewer : Address) (approve : Bool) (reward : Uint256)
    (evidenceHash payoutTxHash : Bytes32) : Except Error (Progress World Pending) := do
  onlyHumanResolver msg w
  let current := w.router.resolutions jobId
  revertIf (current ≠ .none ∧ current ≠ .escalated) (.alreadyResolved jobId)
  revertIf (reviewer = 0) .invalidReviewer
  revertIf (reward ≠ 0 ∧ payoutTxHash = 0) .missingPayoutTransaction
  let _ ← checkedJob here answers jobId
  let resolution : Resolution := if approve then .humanCompleted else .humanRejected
  let w := (w.resolve jobId resolution evidenceHash).setReviewer jobId reviewer reward payoutTxHash
  return settle w jobId approve evidenceHash

def setConfig (oracle humanResolver : Address) (autoSettleCap : Uint256)
    (minConfidenceBP : Uint16) : Except Error (Progress World Pending) := do
  onlyOwner msg w
  revertIf (oracle = 0 ∨ humanResolver = 0) .zeroAddress
  return .finished { w with router := { w.router with
    oracle, humanResolver, autoSettleCap, minConfidenceBP } }

def transferOwnership (newOwner : Address) : Except Error (Progress World Pending) := do
  onlyOwner msg w
  revertIf (newOwner = 0) .zeroAddress
  return .finished { w with router := { w.router with owner := newOwner } }

def sweep (token recipient : Address) : Except Error (Progress World Pending) := do
  onlyOwner msg w
  revertIf (recipient = 0) .zeroAddress
  let amount ← demand .failedCall answers.balanceOf
  return .calling w (.transfer token recipient amount)

end Functions

inductive Entry where
  | setLane (jobId : Uint256) (lane : ReviewLane)
  | submitAIVerdict (jobId : Uint256) (approve : Bool) (confidenceBP : Uint16)
      (evidenceHash : Bytes32)
  | escalate (jobId : Uint256) (reasonHash : Bytes32)
  | humanResolve (jobId : Uint256) (reviewer : Address) (approve : Bool) (reward : Uint256)
      (evidenceHash payoutTxHash : Bytes32)
  | setConfig (oracle humanResolver : Address) (autoSettleCap : Uint256)
      (minConfidenceBP : Uint16)
  | transferOwnership (newOwner : Address)
  | sweep (token recipient : Address)
  deriving DecidableEq, Repr

structure Call where
  msg : Msg
  answers : Answers
  entry : Entry

def invoke (here : Address) (w : World) (c : Call) : Except Error (Progress World Pending) :=
  match c.entry with
  | .setLane jobId lane => setLane here c.msg c.answers w jobId lane
  | .submitAIVerdict jobId approve confidenceBP evidenceHash =>
    submitAIVerdict here c.msg c.answers w jobId approve confidenceBP evidenceHash
  | .escalate jobId reasonHash => escalate c.msg w jobId reasonHash
  | .humanResolve jobId reviewer approve reward evidenceHash payoutTxHash =>
    humanResolve here c.msg c.answers w jobId reviewer approve reward evidenceHash payoutTxHash
  | .setConfig oracle humanResolver autoSettleCap minConfidenceBP =>
    setConfig c.msg w oracle humanResolver autoSettleCap minConfidenceBP
  | .transferOwnership newOwner => transferOwnership c.msg w newOwner
  | .sweep token recipient => sweep c.msg c.answers w token recipient

/-- The rest of a call after the external one has answered. -/
def resume (w : World) : Pending → Reply → Except Error World
  | _, .reverted => .error .failedCall
  | .settlement _, .returned _ => .ok w
  | .transfer _ _ _, .returned ok => do
    revertIf (ok = false) .sweepFailed
    return w

/-- The router at the address `here`. -/
def component (here : Address) : Component World Call Pending Reply Error :=
  ⟨invoke here, resume⟩

end VapiArc.Router
