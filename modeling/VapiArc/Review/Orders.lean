import VapiArc.Lib.Checked
import VapiArc.Lib.Number

/-!
# Review orders and their database tables

The rows that belong to one order, and the transactions of `ReviewDatabase` on them.
Identifiers, addresses and hashes are natural numbers and timestamps are
milliseconds; a string that JavaScript would treat as false is the empty one.
-/
namespace VapiArc.Review

open Checked Function

abbrev Address := Nat
abbrev Hex := Nat
abbrev IdempotencyKey := Nat
abbrev TransactionId := Nat
abbrev ReviewerId := Nat
abbrev Timestamp := Nat

inductive ReviewOrderState where
  | paid
  | dispatched
  | claimed
  | verdictSubmitted
  | reviewerPaid
  | settled
  | expired
  | refunded
  | payoutFailed
  | reviewerPaidSettlementFailed
  deriving DecidableEq, Repr

def ReviewOrderState.name : ReviewOrderState → String
  | .paid => "paid"
  | .dispatched => "dispatched"
  | .claimed => "claimed"
  | .verdictSubmitted => "verdict_submitted"
  | .reviewerPaid => "reviewer_paid"
  | .settled => "settled"
  | .expired => "expired"
  | .refunded => "refunded"
  | .payoutFailed => "payout_failed"
  | .reviewerPaidSettlementFailed => "reviewer_paid_settlement_failed"

inductive ReviewDecision where
  | approve
  | reject
  deriving DecidableEq, Repr

inductive CircleOperation where
  | payout
  | resolution
  | refund
  deriving DecidableEq, Repr

def CircleOperation.name : CircleOperation → String
  | .payout => "payout"
  | .resolution => "resolution"
  | .refund => "refund"

/-- The states of a Circle transaction; the first four are final. -/
inductive TransactionState where
  | complete
  | failed
  | denied
  | cancelled
  | initiated
  | other (name : String)
  deriving DecidableEq, Repr

def TransactionState.name : TransactionState → String
  | .complete => "COMPLETE"
  | .failed => "FAILED"
  | .denied => "DENIED"
  | .cancelled => "CANCELLED"
  | .initiated => "INITIATED"
  | .other name => name

/-- `CIRCLE_TERMINAL_FAILURES.has(state)` -/
def TransactionState.terminalFailure : TransactionState → Bool
  | .failed | .denied | .cancelled => true
  | _ => false

/-- The codes of permanent `ReviewValidationError`s. -/
inductive AbortCode where
  | wrongEvaluator
  | wrongJobStatus
  | jobExpiryTooClose
  | jobNotEscalated
  | deliverableHashMismatch
  | aiEvidenceMismatch
  | aiEvidenceReasonIneligible
  deriving DecidableEq, Repr

/-- Whatever a routine throws. -/
inductive Failure where
  | error (message : String)
  | permanent (code : AbortCode) (message : String)
  deriving DecidableEq, Repr

def Failure.message : Failure → String
  | .error message => message
  | .permanent _ message => message

def truthy : Option String → Bool
  | some text => text ≠ ""
  | none => false

/-- The columns that `createOrder` writes and nothing changes. -/
structure Purchase where
  id : Nat
  jobId : Nat
  payer : Address
  reviewPrice : Nat
  network : String
  gatewayTransaction : Option String
  jobClient : Address
  jobProvider : Address
  jobExpiredAt : Nat
  deliverableHash : Hex
  deliverableContent : String
  escalationReasonHash : Hex
  escalationCause : Option String
  reward : Nat
  createdAt : Timestamp
  deriving DecidableEq, Repr

/-- `circleOperationColumns`: the columns of one operation. -/
structure CircleColumns where
  id : Option TransactionId := none
  hash : Option Hex := none
  key : IdempotencyKey
  deriving DecidableEq, Repr

structure ReviewOrder where
  purchase : Purchase
  state : ReviewOrderState := .paid
  reviewerId : Option ReviewerId := none
  reviewerAlias : Option String := none
  reviewerPayoutAddress : Option Address := none
  reviewerTelegramIdentityHash : Option Hex := none
  decision : Option ReviewDecision := none
  reasoning : Option String := none
  evidenceHash : Option Hex := none
  evidenceJson : Option String := none
  circle : CircleOperation → CircleColumns
  claimExpiresAt : Option Timestamp := none
  dispatchCount : Nat := 0
  claimedAt : Option Timestamp := none
  verdictAt : Option Timestamp := none
  paidAt : Option Timestamp := none
  settledAt : Option Timestamp := none
  settlementAbortCode : Option AbortCode := none
  settlementAbortedAt : Option Timestamp := none
  lastError : Option String := none

structure CircleAttempt where
  operation : CircleOperation
  idempotencyKey : IdempotencyKey
  circleTransactionId : TransactionId
  state : TransactionState
  txHash : Option Hex
  deriving DecidableEq, Repr

structure JournalEntry where
  operation : CircleOperation
  idempotencyKey : IdempotencyKey
  deriving DecidableEq, Repr

inductive AssignmentStatus where
  | offered
  | claimed
  | declined
  | expired
  deriving DecidableEq, Repr

structure ReviewVote where
  reviewerId : ReviewerId
  decision : ReviewDecision
  reasoning : String
  deriving DecidableEq, Repr

/-- A row of `reviewers`. -/
structure Reviewer where
  id : ReviewerId
  telegramUserId : Nat
  telegramChatId : Nat
  reviewerAlias : String
  payoutAddress : Address
  active : Bool
  deriving DecidableEq, Repr

structure ReviewerSnapshot where
  reviewerId : ReviewerId
  reviewerAlias : String
  payoutAddress : Address
  telegramIdentityHash : Hex
  deriving DecidableEq, Repr

structure CircleTransactionResult where
  id : TransactionId
  state : TransactionState
  txHash : Option Hex
  deriving DecidableEq, Repr

/-- The rows of one order; attempts are in the order of their numbers. -/
structure Database where
  order : ReviewOrder
  attempts : List CircleAttempt := []
  journal : List JournalEntry := []
  assignments : ReviewerId → Option AssignmentStatus := fun _ => none
  votes : List ReviewVote := []

/-- The rows that `createOrder` leaves, with three fresh keys. -/
def Database.created (purchase : Purchase) (keys : CircleOperation → IdempotencyKey) : Database :=
  { order := { purchase, circle := fun operation => { key := keys operation } } }

/-- The value of the first argument that is not `NULL`. -/
def coalesce {α : Type} : Option α → Option α → Option α
  | some a, _ => some a
  | none, b => b

namespace Database

variable (db : Database) (operation : CircleOperation)

/-- `circleIdempotencyKey` -/
def circleIdempotencyKey : IdempotencyKey := (db.order.circle operation).key

def setColumns (columns : CircleColumns) : Database :=
  { db with order := { db.order with circle := update db.order.circle operation columns } }

def listCircleAttempts : List CircleAttempt := db.attempts.filter (·.operation = operation)

/-- The attempts after the current key's one has been inserted or updated. -/
def recordedAttempts (transaction : CircleTransactionResult) :
    Except Failure (List CircleAttempt) :=
  let key := db.circleIdempotencyKey operation
  match db.attempts.find? (·.idempotencyKey = key) with
  | some existing => do
    revertIf (existing.circleTransactionId ≠ transaction.id)
      (.error "Circle returned a different transaction for the same idempotency key")
    return db.attempts.map fun attempt =>
      if attempt.idempotencyKey = key then
        { attempt with
          state := transaction.state
          txHash := coalesce transaction.txHash attempt.txHash }
      else attempt
  | none => do
    -- the column is unique
    revertIf (∃ attempt ∈ db.attempts, attempt.circleTransactionId = transaction.id)
      (.error "UNIQUE constraint failed: circle_attempts.circle_transaction_id")
    return db.attempts ++ [{
      operation, idempotencyKey := key, circleTransactionId := transaction.id,
      state := transaction.state, txHash := transaction.txHash }]

def recordCircleTransactionUnsafe (transaction : CircleTransactionResult) :
    Except Failure Database := do
  let attempts ← db.recordedAttempts operation transaction
  let columns := db.order.circle operation
  return { db with attempts }.setColumns operation
    { columns with
      id := some transaction.id
      hash := coalesce transaction.txHash columns.hash }

def recordCircleTransaction (transaction : CircleTransactionResult) :
    Except Failure (Unit × Database) := do
  let db ← db.recordCircleTransactionUnsafe operation transaction
  return ((), db)

def markCircleRequestStarted : Except Failure (Bool × Database) := do
  let key := db.circleIdempotencyKey operation
  match db.journal.find? (·.idempotencyKey = key) with
  | none => return (true, { db with journal := ⟨operation, key⟩ :: db.journal })
  | some existing => do
    revertIf (existing.operation ≠ operation)
      (.error "Circle idempotency key is journaled for another operation")
    return (false, db)

def hasCurrentCircleRequestStarted : Bool :=
  db.journal.contains ⟨operation, db.circleIdempotencyKey operation⟩

/-- The result of `rotateCircleAttempt`. -/
structure Rotation where
  rotated : Bool
  attempts : Nat
  deriving DecidableEq, Repr

def rotateCircleAttempt (terminalTransaction : CircleTransactionResult) (maxAttempts : Nat)
    (nextKey : IdempotencyKey) : Except Failure (Rotation × Database) := do
  let db ← db.recordCircleTransactionUnsafe operation terminalTransaction
  let attempts := (db.listCircleAttempts operation).length
  if attempts ≥ maxAttempts then return (⟨false, attempts⟩, db)
  else do
    revertIf ((db.order.circle operation).id ≠ some terminalTransaction.id)
      (.error ("Circle " ++ operation.name ++ " attempt is no longer current for this order"))
    return (⟨true, attempts⟩, db.setColumns operation { key := nextKey })

/-- `circleOperationRecoveryStates` -/
def recoveryState : CircleOperation → ReviewOrderState
  | .payout => .payoutFailed
  | .resolution => .reviewerPaidSettlementFailed
  | .refund => .expired

/-- The last of the attempts was the last permitted one, belongs to the current key, and
has failed for good. -/
def exhausted (attempts : List CircleAttempt) (maxAttempts : Nat)
    (currentIdempotencyKey : IdempotencyKey) : Bool :=
  match attempts.getLast? with
  | some latest =>
    attempts.length ≥ maxAttempts && latest.state.terminalFailure &&
      latest.idempotencyKey = currentIdempotencyKey
  | none => false

/-- What `resumeCircleOperation` throws: an error of this class, or a plain one for an argument that
is out of range. -/
structure CircleOperationResumeError where
  name : String := "CircleOperationResumeError"
  code : Option String := none
  message : String
  statusCode : Option Nat := none
  deriving DecidableEq, Repr

def resumeCircleOperation (maxAttempts : Nat) (nextKey : IdempotencyKey) :
    Except CircleOperationResumeError (Unit × Database) := do
  revertIf (maxAttempts < 1)
    { name := "Error", message := "Circle maximum attempts must be a positive integer" }
  revertIf (db.order.state ≠ recoveryState operation)
    { code := some "invalid_circle_resume_state"
      message := "Circle " ++ operation.name ++ " can only be resumed from " ++
        (recoveryState operation).name
      statusCode := some 409 }
  revertIf (exhausted (db.listCircleAttempts operation) maxAttempts
      (db.circleIdempotencyKey operation) = false)
    { code := some "circle_operation_not_exhausted"
      message := "Circle " ++ operation.name ++ " has not exhausted its current retry budget"
      statusCode := some 409 }
  let db := db.setColumns operation { key := nextKey }
  return ((), { db with order := { db.order with lastError := none } })

/-- `expireOfferedAssignments` -/
def expireAssignments : Database :=
  { db with assignments := fun reviewer =>
    if db.assignments reviewer = some .offered then some .expired else db.assignments reviewer }

def recordDispatch (reviewerId : ReviewerId) (claimExpiresAt : Timestamp) :
    Except Failure (Unit × Database) := do
  revertIf (db.order.state ≠ .paid ∧ db.order.state ≠ .dispatched)
    (.error "review order is no longer dispatchable")
  let dispatchCount :=
    if db.order.state = .paid then db.order.dispatchCount + 1 else db.order.dispatchCount
  return ((), { db with
    order := { db.order with
      state := .dispatched, claimExpiresAt := some claimExpiresAt, dispatchCount,
      lastError := none }
    assignments := update db.assignments reviewerId (some .offered) })

/-- `Date.parse` reads no later date. -/
def latestDate : Timestamp := 8640000000000000

/-- The end of the review, as a sum of doubles. -/
def reviewEnd (order : ReviewOrder) (reviewSlaSeconds : Nat) : ℚ :=
  Json.nearest (order.purchase.createdAt + Json.nearest (reviewSlaSeconds * 1000))

def reviewSlaElapsed (order : ReviewOrder) (reviewSlaSeconds : Nat) (now : Timestamp) :
    Except Failure Bool := do
  revertIf (reviewSlaSeconds > 9007199254740991 / 1000)
    (.error "review SLA must be a safe non-negative number of seconds")
  revertIf (order.purchase.createdAt > latestDate)
    (.error "review order has an invalid creation timestamp")
  return reviewEnd order reviewSlaSeconds ≤ now

/-- `reviewer` is the reviewer's row, and `identityHash` the hash of its Telegram id. -/
def claimOrder (reviewerId : ReviewerId) (reviewer : Option Reviewer)
    (identityHash : Nat → Hex) (reviewSlaSeconds : Nat) (additionalConflicts : List Address)
    (now : Timestamp) : Except Failure (ReviewOrder × Database) :=
  if db.order.state = .claimed ∧ db.order.reviewerId = some reviewerId then
    return (db.order, db)
  else do
    revertIf (db.order.state ≠ .dispatched) (.error "review order is no longer available")
    let elapsed ← reviewSlaElapsed db.order reviewSlaSeconds now
    revertIf (elapsed = true) (.error "review SLA has elapsed")
    revertIf (∃ expires ∈ db.order.claimExpiresAt, expires ≤ now)
      (.error "review offer has expired")
    revertIf (db.assignments reviewerId ≠ some .offered)
      (.error "reviewer was not offered this order")
    let reviewer ← demand (.error "reviewer is no longer active") reviewer
    revertIf (reviewer.active = false) (.error "reviewer is no longer active")
    revertIf (reviewer.payoutAddress = db.order.purchase.jobClient ∨
        reviewer.payoutAddress = db.order.purchase.jobProvider ∨
        reviewer.payoutAddress ∈ additionalConflicts)
      (.error "client/provider/resolver conflicts cannot claim this review")
    let order := { db.order with
      state := .claimed
      reviewerId := some reviewerId
      reviewerAlias := some reviewer.reviewerAlias
      reviewerPayoutAddress := some reviewer.payoutAddress
      reviewerTelegramIdentityHash := some (identityHash reviewer.telegramUserId)
      claimedAt := some now
      claimExpiresAt := none }
    return (order, { db with
      order
      assignments := fun other =>
        if db.assignments other = some .offered then
          some (if other = reviewerId then .claimed else .expired)
        else db.assignments other })

/-- `getReviewerSnapshot` -/
def reviewerSnapshot (order : ReviewOrder) : Option ReviewerSnapshot :=
  match order.reviewerId, order.reviewerAlias, order.reviewerPayoutAddress,
    order.reviewerTelegramIdentityHash with
  | some reviewerId, some reviewerAlias, some payoutAddress, some telegramIdentityHash =>
    if reviewerAlias = "" then none
    else some { reviewerId, reviewerAlias, payoutAddress, telegramIdentityHash }
  | _, _, _, _ => none

def submitVerdict (reviewerId : ReviewerId) (decision : ReviewDecision) (reasoning : String)
    (reviewSlaSeconds : Nat) (now : Timestamp) : Except Failure (ReviewOrder × Database) :=
  if db.order.state = .verdictSubmitted ∧ db.order.reviewerId = some reviewerId then
    return (db.order, db)
  else do
    revertIf (db.order.state ≠ .claimed ∨ db.order.reviewerId ≠ some reviewerId)
      (.error "only the assigned reviewer can submit this verdict")
    let elapsed ← reviewSlaElapsed db.order reviewSlaSeconds now
    revertIf (elapsed = true) (.error "review SLA has elapsed")
    revertIf (∃ vote ∈ db.votes, vote.reviewerId = reviewerId)
      (.error "UNIQUE constraint failed: review_votes.order_id, review_votes.reviewer_id")
    let order := { db.order with
      state := .verdictSubmitted
      decision := some decision
      reasoning := some reasoning
      verdictAt := some now
      lastError := none }
    return (order, { db with order, votes := ⟨reviewerId, decision, reasoning⟩ :: db.votes })

inductive TimeoutAction where
  | none
  | redispatched
  | expired
  deriving DecidableEq, Repr

/-- Only a review without a verdict runs out of time. -/
def slaElapsed (reviewSlaSeconds : Nat) (now : Timestamp) : Except Failure Bool :=
  if db.order.state = .paid ∨ db.order.state = .dispatched ∨ db.order.state = .claimed then
    reviewSlaElapsed db.order reviewSlaSeconds now
  else return false

theorem slaElapsed_state {reviewSlaSeconds : Nat} {now : Timestamp}
    (elapsed : db.slaElapsed reviewSlaSeconds now = .ok true) :
    db.order.state = .paid ∨ db.order.state = .dispatched ∨ db.order.state = .claimed := by
  unfold slaElapsed at elapsed
  split at elapsed
  next awaits => exact awaits
  next => cases elapsed

def applyReviewTimeouts (reviewSlaSeconds maxDispatches : Nat) (now : Timestamp) :
    Except Failure ((TimeoutAction × ReviewOrder) × Database) := do
  revertIf (maxDispatches < 1) (.error "max dispatches must be a positive safe integer")
  let expired := { db.order with state := .expired, claimExpiresAt := none, lastError := none }
  let redispatched := { db.order with state := .paid, claimExpiresAt := none, lastError := none }
  let elapsed ← db.slaElapsed reviewSlaSeconds now
  if elapsed = true then
    return ((.expired, expired), { db.expireAssignments with order := expired })
  else if db.order.state = .dispatched ∧ ∃ expires ∈ db.order.claimExpiresAt, expires ≤ now then
    if db.order.dispatchCount < maxDispatches then
      return ((.redispatched, redispatched), { db.expireAssignments with order := redispatched })
    else return ((.expired, expired), { db.expireAssignments with order := expired })
  else return ((.none, db.order), db)

/-- The fields of `updateOrder`. The nullable ones replace their column when they are
given; the others keep it when they are absent. -/
structure OrderUpdate where
  evidenceHash : Option Hex := none
  evidenceJson : Option String := none
  circleId : CircleOperation → Option TransactionId := fun _ => none
  transactionHash : CircleOperation → Option Hex := fun _ => none
  paidAt : Option Timestamp := none
  settledAt : Option Timestamp := none
  settlementAbortCode : Option (Option AbortCode) := none
  settlementAbortedAt : Option (Option Timestamp) := none
  claimExpiresAt : Option (Option Timestamp) := none
  lastError : Option (Option String) := none

def updatedOrder (state : ReviewOrderState) (fields : OrderUpdate) : ReviewOrder :=
  { db.order with
    state
    evidenceHash := coalesce fields.evidenceHash db.order.evidenceHash
    evidenceJson := coalesce fields.evidenceJson db.order.evidenceJson
    circle := fun operation =>
      { db.order.circle operation with
        id := coalesce (fields.circleId operation) (db.order.circle operation).id
        hash := coalesce (fields.transactionHash operation) (db.order.circle operation).hash }
    paidAt := coalesce fields.paidAt db.order.paidAt
    settledAt := coalesce fields.settledAt db.order.settledAt
    settlementAbortCode := fields.settlementAbortCode.getD db.order.settlementAbortCode
    settlementAbortedAt := fields.settlementAbortedAt.getD db.order.settlementAbortedAt
    claimExpiresAt := fields.claimExpiresAt.getD db.order.claimExpiresAt
    lastError := fields.lastError.getD db.order.lastError }

/-- The state is written whatever the row's state is. -/
def updateOrder (state : ReviewOrderState) (fields : OrderUpdate) :
    Except Failure (ReviewOrder × Database) :=
  return (db.updatedOrder state fields, { db with order := db.updatedOrder state fields })

end Database

end VapiArc.Review
