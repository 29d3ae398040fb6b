import VapiArc.Demo.Runs

/-!
# The actions of the presenter

`retry`, `purchase` and `archive` of `DemoProcessor`, and the capabilities that tell which of
them are offered. All of them read the review order of the run, which may not be there and may
belong to somebody else.
-/
namespace VapiArc.Demo

open Checked Function Review

/-- The columns of a review order that the order's own model does without. -/
structure JobColumns where
  jobDescription : String
  jobBudget : Nat
  deriving DecidableEq, Repr

structure DemoConfig where
  gatewayNetwork : String
  circleMaxAttempts : Nat
  circleMaxAttempts_pos : 0 < circleMaxAttempts
  demoMaxRunsPerHour : Nat

/-- The configuration, the columns of the orders by their identifiers, and whether the rail of
the chain is configured. -/
structure DemoDependencies where
  config : DemoConfig
  library : Library
  jobColumns : Token → JobColumns
  chain : Bool

/-- The tables of the runs and of the review orders, which share one file. -/
structure DemoDatabase where
  repository : DemoRepository := {}
  reviews : ReviewDatabase := {}

namespace DemoDatabase

variable (db : DemoDatabase)

def getOrder (orderId : Token) : Option OrderRow :=
  db.reviews.orders.find? (·.purchase.id = orderId)

def getOrderByRequestId (requestId : String) : Option OrderRow :=
  db.reviews.orders.find? (·.requestId = requestId)

/-- `(run.orderId && getOrder(run.orderId)) || getOrderByRequestId(run.requestId)` -/
def attachedOrder (run : DemoRun) : Option OrderRow :=
  match run.orderId.bind db.getOrder with
  | some order => some order
  | none => db.getOrderByRequestId run.requestId

end DemoDatabase

namespace DemoProcessor

def demoPurchaseNotAvailable : DemoError where
  message := "Human review can be purchased only after on-chain escalation"
  code := some "demo_purchase_not_available"
  statusCode := some 409

def demoRetryNotAvailable (message : String) : DemoError where
  message
  code := some "demo_retry_not_available"
  statusCode := some 409

def demoArchiveNotAvailable (message : String) : DemoError where
  message
  code := some "demo_archive_not_available"
  statusCode := some 409

def demoOrderConflict : DemoError where
  message := "Existing paid review order does not match the immutable demo run"
  code := some "demo_order_conflict"
  statusCode := some 409

variable (d : DemoDependencies)

def reviewOrderMatchesRun (run : DemoRun) (order : OrderRow) : Bool :=
  order.requestId = run.requestId &&
    some order.purchase.jobId = run.jobId &&
    order.purchase.payer = run.input.clientAddress &&
    order.purchase.reviewPrice = run.input.reviewPrice &&
    order.purchase.network = d.config.gatewayNetwork &&
    order.purchase.gatewayTransaction ≠ none &&
    order.purchase.jobClient = run.input.clientAddress &&
    order.purchase.jobProvider = run.input.providerAddress &&
    (d.jobColumns order.purchase.id).jobDescription = run.input.description &&
    (d.jobColumns order.purchase.id).jobBudget = run.input.budget &&
    order.purchase.deliverableContent = run.input.deliverableContent &&
    order.purchase.deliverableHash = run.input.deliverableHash &&
    order.purchase.reward = run.input.reward

def assertReviewOrderMatchesRun (run : DemoRun) (order : OrderRow) : Except DemoError Unit :=
  revertIf (reviewOrderMatchesRun d run order = false) demoOrderConflict

def retryableCircleOperation (order : OrderRow) : Option CircleOperation :=
  match order.rows.order.state with
  | .payoutFailed => some .payout
  | .reviewerPaidSettlementFailed => some .resolution
  | .expired => some .refund
  | _ => none

def circleRetriesExhausted (order : OrderRow) (operation : CircleOperation) : Bool :=
  Database.exhausted (order.rows.listCircleAttempts operation) d.config.circleMaxAttempts
    (order.rows.circleIdempotencyKey operation)

/-- `RETRYABLE_TRANSACTION_BY_OPERATION` -/
def retryableTransactionByOperation : DemoOperation → Option DemoTransactionKey
  | .createJob => some .createJob
  | .setHumanLane => some .setLane
  | .setBudget => some .setBudget
  | .approveUsdc => some .approval
  | .fundEscrow => some .fund
  | .submitDeliverable => some .submit
  | .waitForRefundEligibility => some .escrowRefund
  | _ => none

variable (db : DemoDatabase) (runId : RunId)

def requireRun : Except DemoError DemoRun :=
  demand DemoRepository.notFound (db.repository.get runId)

/-- A change of the runs only. -/
def writes (result : Except DemoError (DemoRun × DemoRepository)) :
    Except DemoError (DemoRun × DemoDatabase) :=
  result.map fun (run, repository) => (run, { db with repository })

/-- The run is a replay where nothing is written. -/
def purchase : Except DemoError (DemoRun × DemoDatabase) := do
  let run ← requireRun db runId
  if run.state = .purchasingReview ∨ run.state = .reviewActive then return (run, db)
  else do
    revertIf (run.state ≠ .awaitingPurchase) demoPurchaseNotAvailable
    writes db (db.repository.transition run.id .purchasingReview (some .purchaseReview))

/-- The transaction that `retry` clears first, when it was reverted. -/
def retryKey (run : DemoRun) : Option DemoTransactionKey := do
  let operation ← run.currentOperation
  let key ← retryableTransactionByOperation operation
  if (run.transactions key).isSome && isRetryableTransactionFailure run.lastError then some key
  else none

/-- The first of the two transactions of a `retry` of a failed run. -/
def cleared (run : DemoRun) : Except DemoError (DemoRun × DemoRepository) :=
  match retryKey run with
  | some key => db.repository.clearTransaction run.id key
  | none => return (run, db.repository)

/-- The state that a failed run is moved to. -/
def recovery (attached : Bool) (run : DemoRun) : DemoRunState :=
  let recovery := run.recoveryState.getD (if attached then .reviewActive else .preparingEscrow)
  if attached && (recovery = .purchasingReview || recovery = .reviewActive) then .reviewActive
  else recovery

def recoveredOperation (run : DemoRun) : DemoRunState → Option DemoOperation
  | .preparingEscrow => some (run.currentOperation.getD .createJob)
  | .awaitingEscalation => some .waitForEscalation
  | .purchasingReview => some .purchaseReview
  | .reviewActive => some .waitForReview
  | .archivedRefundPending => some .waitForRefundEligibility
  | _ => none

/-- The error of a resumed operation, as it is: a `CircleOperationResumeError` has a code and a
status as a `DemoActionError` has. -/
def resumeError (error : Database.CircleOperationResumeError) : DemoError where
  name := error.name
  message := error.message
  code := error.code
  statusCode := error.statusCode

/-- The part of `retry` that concerns an order: its operation is resumed under a new key. -/
def resumeOrder (run : DemoRun) (order : OrderRow) (operation : CircleOperation)
    (nextKey : IdempotencyKey) : Except DemoError (DemoRun × DemoDatabase) := do
  revertIf (circleRetriesExhausted d order operation = false)
    (demoRetryNotAvailable
      ("Circle " ++ operation.name ++ " has not exhausted its automatic retry budget"))
  let (_, rows) ← (order.rows.resumeCircleOperation operation d.config.circleMaxAttempts
    nextKey).mapError resumeError
  return (run, { db with reviews := db.reviews.proceed order.purchase.id rows })

/-- The part of `retry` that concerns the run: it is moved back if it has failed. -/
def recoverRun (run : DemoRun) (attached : Bool) : Except DemoError (DemoRun × DemoDatabase) := do
  revertIf (run.state ≠ .failed)
    (demoRetryNotAvailable
      "Only a failed demo operation or exhausted Circle operation can be retried")
  let (run, repository) ← cleared db run
  let recovery := recovery attached run
  writes db (repository.transition run.id recovery (recoveredOperation run recovery))

def retry (nextKey : IdempotencyKey) : Except DemoError (DemoRun × DemoDatabase) := do
  let run ← requireRun db runId
  match db.attachedOrder run with
  | none => recoverRun db run false
  | some order => do
    assertReviewOrderMatchesRun d run order
    match retryableCircleOperation order with
    | some operation => resumeOrder d db run order operation nextKey
    | none => recoverRun db run true

/-- The run is a replay where nothing is written. -/
def archive : Except DemoError (DemoRun × DemoDatabase) := do
  let run ← requireRun db runId
  if run.state = .finalized ∨ run.state = .archivedRefunded ∨
      run.state = .archivedRefundPending then return (run, db)
  else do
    revertIf (run.state ≠ .failed ∧ run.state ≠ .awaitingPurchase)
      (demoArchiveNotAvailable
        "A demo can be archived only after escalation or from a failed pre-payment operation")
    match db.attachedOrder run with
    | some order => do
      assertReviewOrderMatchesRun d run order
      throw (demoArchiveNotAvailable "A paid human review cannot be archived manually")
    | none =>
      if run.jobId = none ∧ run.transactions .createJob = none then
        writes db (db.repository.transition run.id .archivedRefunded none)
      else
        writes db (db.repository.transition run.id .archivedRefundPending
          (some .waitForRefundEligibility))

structure Capabilities where
  canPurchase : Bool
  canRetry : Bool
  canArchive : Bool
  isTerminal : Bool
  deriving DecidableEq, Repr

/-- The `capabilities` of `publicRun`, which reads the run anew. -/
def capabilities (runInput : DemoRun) : Capabilities :=
  let latest := (db.repository.get runInput.id).getD runInput
  let order := (db.attachedOrder latest).filter (reviewOrderMatchesRun d latest)
  let orderState := order.map (·.rows.order.state)
  { canPurchase := latest.state = .awaitingPurchase
    canRetry := latest.state = .failed || orderState = some .payoutFailed ||
      orderState = some .reviewerPaidSettlementFailed ||
      (orderState = some .expired && order.any (circleRetriesExhausted d · .refund))
    canArchive := order.isNone && !latest.state.terminal &&
      (latest.state = .failed || latest.state = .awaitingPurchase)
    isTerminal := latest.state.terminal }

end DemoProcessor

end VapiArc.Demo
