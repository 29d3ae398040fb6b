import VapiArc.Lib.Async
import VapiArc.Review.Evidence

/-!
# The review processor and its rails

`ReviewProcessor` as asynchronous routines: a call of the database is one synchronous
step, and a call of the chain, of Telegram or of Circle is a request whose reply is
awaited.
-/
namespace VapiArc.Review

open Checked Function Async
open Json (nearest)

/-- What a Circle transaction does. -/
inductive Payload where
  | transfer (destination : Address) (amount : Nat)
  | humanResolve (jobId : Nat) (reviewer : Address) (approve : Bool) (reward : Nat)
      (evidenceHash payoutTransactionHash : Hex)
  deriving DecidableEq, Repr

/-- A request to create a transaction; its reference names the operation. -/
structure CircleRequest where
  operation : CircleOperation
  idempotencyKey : IdempotencyKey
  payload : Payload
  deriving DecidableEq, Repr

structure CircleTransaction where
  request : CircleRequest
  state : TransactionState
  deriving DecidableEq, Repr

/-- The rows of an order, Circle's transactions by their keys, and a record of what was
requested from Circle and how often an operator resumed an operation. -/
structure Store where
  db : Database
  circle : IdempotencyKey → Option CircleTransaction := fun _ => none
  requested : List CircleRequest := []
  resumes : CircleOperation → Nat := fun _ => 0

/-- What a synchronous step reads besides the store: the time, a random key, the rows of
`reviewers` and whether Telegram is configured. -/
structure Inputs where
  now : Timestamp
  randomUUID : IdempotencyKey
  reviewers : List Reviewer
  telegram : Bool

inductive Request where
  | validateEscalatedReview (minJobExpiryBufferSeconds : Nat)
  | preflightHumanResolve (evidenceHash payoutTransactionHash : Hex)
  | sendDocument (chatId : Nat)
  | sendMessage (chatId : Nat)
  | createTransaction (request : CircleRequest)
  | waitForComplete (id : TransactionId)
  | getTransaction (id : TransactionId)
  deriving DecidableEq, Repr

inductive Reply where
  | accepted
  | created (id : TransactionId)
  | transaction (state : TransactionState) (txHash : Option Hex)
  deriving DecidableEq, Repr

structure Config where
  reviewSlaSeconds : Nat
  maxDispatches : Nat
  claimTtlSeconds : Nat
  circleMaxAttempts : Nat
  transactionPollTimeoutMs : Nat
  circleWalletAddress : Option Address
  circleMaxAttempts_pos : 0 < circleMaxAttempts
  maxDispatches_pos : 0 < maxDispatches

/-- `chain` and `circle` tell whether these rails are configured. -/
structure Dependencies where
  config : Config
  library : Library
  chain : Bool
  circle : Bool

abbrev Processor (α : Type) : Type := Routine Store Inputs Request Reply Failure α

namespace Processor

/-- A transaction of the database. -/
def database {α : Type} (t : Inputs → Database → Except Failure (α × Database)) : Processor α :=
  .transaction fun inputs s => (t inputs s.db).map fun (a, db) => (a, { s with db })

/-- A read of the database, the clock or the configuration. -/
def read {α : Type} (f : Inputs → Database → α) : Processor α :=
  database fun inputs db => .ok (f inputs db, db)

def updateOrder (state : ReviewOrderState) (fields : Inputs → Database.OrderUpdate) :
    Processor ReviewOrder :=
  database fun inputs db => db.updateOrder state (fields inputs)

def recordCircleTransaction (operation : CircleOperation)
    (transaction : CircleTransactionResult) : Processor Unit :=
  database fun _ db => db.recordCircleTransaction operation transaction

def throwIf (condition : Bool) (error : Failure) : Processor Unit :=
  if condition then throw error else pure ()

def skipIf (condition : Bool) (x : Processor Unit) : Processor Unit :=
  if condition then pure () else x

/-- A request whose reply carries nothing. -/
def perform (request : Request) : Processor Unit := do
  let _ ← (.await request : Processor Reply)

section Rails

/-- `createTransaction` and `createContractExecutionTransaction` -/
def createTransaction (request : CircleRequest) : Processor TransactionId := do
  match ← (.await (.createTransaction request) : Processor Reply) with
  | .created id => pure id
  | _ => throw (.error "Circle did not return a transaction id")

def getTransaction (id : TransactionId) : Processor CircleTransactionResult := do
  match ← (.await (.getTransaction id) : Processor Reply) with
  | .transaction state txHash => pure { id, state, txHash }
  | _ => throw (.error "Circle transaction was not found")

/-- The polling of `waitForComplete`, which may also time out. -/
def waitForComplete (id : TransactionId) : Processor CircleTransactionResult := do
  match ← (.await (.waitForComplete id) : Processor Reply) with
  | .transaction state (some txHash) => pure { id, state, txHash := some txHash }
  | _ => throw (.error "Circle transaction completed without a tx hash")

/-- Create a transaction, hand it to `onCreated` and wait for its end. -/
def execute (request : CircleRequest) (onCreated : CircleTransactionResult → Processor Unit) :
    Processor CircleTransactionResult := do
  let id ← createTransaction request
  onCreated { id, state := .initiated, txHash := none }
  waitForComplete id

def transfer (operation : CircleOperation) (destination : Address) (amount : Nat)
    (idempotencyKey : IdempotencyKey) (onCreated : CircleTransactionResult → Processor Unit) :
    Processor CircleTransactionResult :=
  execute { operation, idempotencyKey, payload := .transfer destination amount } onCreated

def resolve (order : ReviewOrder) (reviewer : ReviewerSnapshot)
    (evidenceHash payoutTransactionHash : Hex)
    (onCreated : CircleTransactionResult → Processor Unit) : Processor CircleTransactionResult :=
  match order.decision with
  | none => throw (.error "verdict is missing")
  | some decision =>
    execute {
      operation := .resolution
      idempotencyKey := (order.circle .resolution).key
      payload := .humanResolve order.purchase.jobId reviewer.payoutAddress
        (decision = .approve) order.purchase.reward evidenceHash payoutTransactionHash } onCreated

/-- The loop of `TelegramBotGateway.dispatch`; returns the number of offers sent. -/
def offerTo (order : ReviewOrder) (expiresAt : Timestamp) : List Reviewer → Nat → Processor Nat
  | [], sent => pure sent
  | reviewer :: rest, sent => do
    let sent ← tryCatch
      (do
        skipIf (order.purchase.deliverableContent.utf8ByteSize ≤ 2000)
          (perform (.sendDocument reviewer.telegramChatId))
        perform (.sendMessage reviewer.telegramChatId)
        database fun _ db => db.recordDispatch reviewer.id expiresAt
        pure (sent + 1))
      fun _ => pure sent
    offerTo order expiresAt rest sent

end Rails

variable (d : Dependencies)

def telegramDispatch (order : ReviewOrder) (reviewers : List Reviewer) : Processor Nat := do
  throwIf (!truthy order.purchase.escalationCause)
    (.error "review order is missing verified escalation provenance")
  let now ← read fun inputs _ => inputs.now
  offerTo order (now + d.config.claimTtlSeconds * 1000) reviewers 0

/-- `Math.ceil(ms / 1000)` -/
def seconds (ms : ℚ) : ℤ := ⌈nearest (ms / 1000)⌉

def payoutExpiryBufferSeconds : Nat :=
  (seconds (nearest (2 * d.config.transactionPollTimeoutMs)) + 60).toNat

def dispatchExpiryBufferSeconds (order : ReviewOrder) (now : Timestamp) : Nat :=
  let remainingReviewMs := nearest (Database.reviewEnd order d.config.reviewSlaSeconds - now)
  let remainingReviewSeconds := max 0 (seconds remainingReviewMs)
  ⌈nearest (remainingReviewSeconds + payoutExpiryBufferSeconds d)⌉.toNat

def resolutionExpiryBufferSeconds : Nat :=
  (seconds d.config.transactionPollTimeoutMs + 60).toNat

def circleRetriesExhausted (order : ReviewOrder) (db : Database) : Bool :=
  let operation : Option CircleOperation :=
    match order.state with
    | .payoutFailed => some .payout
    | .reviewerPaidSettlementFailed => some .resolution
    | .expired => some .refund
    | _ => none
  match operation with
  | some operation =>
    Database.exhausted (db.listCircleAttempts operation) d.config.circleMaxAttempts
      (order.circle operation).key
  | none => false

/-- Returns the hash of a completed transaction. -/
def requireCompletedCircleTransaction (operation : CircleOperation)
    (transaction : CircleTransactionResult) : Processor Hex :=
  match transaction.state, transaction.txHash with
  | .complete, some txHash => pure txHash
  | state, _ => do
    let subject := "Circle " ++ operation.name ++ " " ++ toString transaction.id
    if state.terminalFailure then
      let retry ← database fun inputs db =>
        db.rotateCircleAttempt operation transaction d.config.circleMaxAttempts inputs.randomUUID
      throw (.error (if retry.rotated then
        subject ++ " ended " ++ state.name ++ "; retry " ++ toString (retry.attempts + 1) ++ "/" ++
          toString d.config.circleMaxAttempts ++ " scheduled"
        else subject ++ " ended " ++ state.name ++ "; maximum " ++ toString retry.attempts ++
          " attempts reached"))
    else throw (.error (subject ++ " is " ++ state.name ++ "; awaiting confirmation"))

/-- Ask Circle for the transaction that is recorded, or send a request for it. -/
def recordedOrSent (operation : CircleOperation) (columns : CircleColumns)
    (send : Processor CircleTransactionResult) : Processor CircleTransactionResult :=
  match columns.id with
  | some id => getTransaction id
  | none => do
    let _ ← database fun _ db => db.markCircleRequestStarted operation
    send

/-- What the three operations share, up to the completion of the transaction. -/
def circleOperation (operation : CircleOperation) (columns : CircleColumns)
    (send : Processor CircleTransactionResult) : Processor (CircleTransactionResult × Hex) := do
  let transaction ← recordedOrSent operation columns send
  recordCircleTransaction operation transaction
  let txHash ← requireCompletedCircleTransaction d operation transaction
  pure (transaction, txHash)

/-- The field of a completed operation. -/
def completed {α : Type} (operation : CircleOperation) (value : α) : CircleOperation → Option α :=
  fun other => if other = operation then some value else none

def refund : Processor Unit := do
  let order ← read fun _ db => db.order
  if order.state = .refunded then pure ()
  else if d.circle = false then
    let _ ← updateOrder .expired fun _ =>
      { lastError := some (some "Circle Wallets is not configured for refund") }
  else
    tryCatch
      (do
        let (refund, txHash) ← circleOperation d .refund (order.circle .refund)
          (transfer .refund order.purchase.payer order.purchase.reviewPrice
            (order.circle .refund).key (recordCircleTransaction .refund))
        let _ ← updateOrder .refunded fun _ =>
          { circleId := completed .refund refund.id
            transactionHash := completed .refund txHash
            lastError := some none })
      fun error => do
        let _ ← updateOrder .expired fun _ => { lastError := some (some error.message) }

def markSettlementAborted (order : ReviewOrder) (code : AbortCode) : Processor ReviewOrder :=
  if order.settlementAbortCode.isSome then pure order
  else updateOrder order.state fun inputs =>
    { settlementAbortCode := some (some code)
      settlementAbortedAt := some (some inputs.now)
      lastError := some none }

/-- Validate the job, and abort the settlement when it can never become valid again. -/
def validatedOrAborted (order : ReviewOrder) (minJobExpiryBufferSeconds : Nat) :
    Processor ReviewOrder :=
  tryCatch
    (do
      perform (.validateEscalatedReview minJobExpiryBufferSeconds)
      pure order)
    fun
      | .permanent code _ => markSettlementAborted order code
      | error => throw error

/-- The last validation before the first request for a resolution. -/
def validatedBeforeRequest (order : ReviewOrder) (requested : Bool) : Processor ReviewOrder :=
  if order.settlementAbortCode.isNone && !requested then
    if d.chain = false then
      throw (.error "Arc validation is not configured for final settlement")
    else validatedOrAborted order (resolutionExpiryBufferSeconds d)
  else pure order

/-- The end of `settle`: the router is asked to resolve the job. -/
def settleOnChain (currentOrder : ReviewOrder) (reviewer : ReviewerSnapshot) (evidenceHash : Hex)
    (evidenceJson : String) (payoutTransactionHash : Hex) : Processor Unit := do
  let (resolution, txHash) ← circleOperation d .resolution (currentOrder.circle .resolution)
    (resolve currentOrder reviewer evidenceHash payoutTransactionHash
      (recordCircleTransaction .resolution))
  let _ ← updateOrder .settled fun inputs =>
    { evidenceHash := some evidenceHash
      evidenceJson := some evidenceJson
      circleId := completed .resolution resolution.id
      transactionHash := completed .resolution txHash
      settledAt := some inputs.now
      settlementAbortCode := some none
      settlementAbortedAt := some none
      lastError := some none }

def settle (order : ReviewOrder) : Processor Unit :=
  match d.circle, Database.reviewerSnapshot order, (order.circle .payout).hash with
  | true, some reviewer, some payoutTransactionHash => tryCatch
    (do
      let evidence ← database fun inputs db =>
        (createHumanEvidence order reviewer payoutTransactionHash order.paidAt inputs.now).map
          fun evidence => (evidence, db)
      let evidenceHash := humanEvidenceHash d.library evidence
      let evidenceJson := serializeHumanEvidence d.library evidence
      let _ ← updateOrder .reviewerPaid fun _ =>
        { evidenceHash := some evidenceHash, evidenceJson := some evidenceJson
          lastError := some none }
      let (currentOrder, unresolvedRequestStarted) ← read fun _ db =>
        (db.order, (db.order.circle .resolution).id.isNone &&
          db.hasCurrentCircleRequestStarted .resolution)
      let requested := (currentOrder.circle .resolution).id.isSome || unresolvedRequestStarted
      let currentOrder ← validatedBeforeRequest d currentOrder requested
      if currentOrder.settlementAbortCode.isSome && !unresolvedRequestStarted then refund d
      else do
        skipIf requested (perform (.preflightHumanResolve evidenceHash payoutTransactionHash))
        settleOnChain d currentOrder reviewer evidenceHash evidenceJson payoutTransactionHash)
    fun error => do
      let _ ← updateOrder .reviewerPaidSettlementFailed fun _ =>
        { lastError := some (some error.message) }
  | _, _, _ => do
    let _ ← updateOrder .reviewerPaidSettlementFailed fun _ =>
      { lastError := some (some "Circle settlement or payout provenance is not configured") }

/-- The checks before a payout is requested; an aborted settlement needs none. -/
def readyForPayout (order : ReviewOrder) : Processor ReviewOrder :=
  if order.settlementAbortCode.isSome then pure order
  else do
    let settlementBufferSeconds := payoutExpiryBufferSeconds d
    let currentOrder ← validatedOrAborted order settlementBufferSeconds
    if currentOrder.settlementAbortCode.isSome then pure currentOrder
    else do
      let late ← read fun inputs _ =>
        (currentOrder.purchase.jobExpiredAt < inputs.now / 1000 + settlementBufferSeconds : Bool)
      throwIf late (.error ("Escrow expiry is inside the " ++ toString settlementBufferSeconds ++
        "s Circle payout and settlement safety window"))
      perform (.preflightHumanResolve (d.library.keccak256 "vapi-review-preflight-evidence")
        (d.library.keccak256 "vapi-review-preflight-payout"))
      pure currentOrder

def readyUnlessRequested (order : ReviewOrder) : Processor ReviewOrder :=
  if (order.circle .payout).id.isNone then readyForPayout d order else pure order

def payReviewer (order : ReviewOrder) : Processor Unit :=
  match Database.reviewerSnapshot order, order.decision.isSome && truthy order.reasoning with
  | some reviewer, true =>
    if d.chain = false ∨ d.circle = false then do
      let _ ← updateOrder .payoutFailed fun _ =>
        { lastError := some (some "Circle Wallets or Arc validation is not configured") }
    else tryCatch
      (do
        let currentOrder ← readyUnlessRequested d order
        let (payout, txHash) ← circleOperation d .payout (currentOrder.circle .payout)
          (transfer .payout reviewer.payoutAddress currentOrder.purchase.reward
            (currentOrder.circle .payout).key (recordCircleTransaction .payout))
        let _ ← updateOrder .reviewerPaid fun inputs =>
          { circleId := completed .payout payout.id
            transactionHash := completed .payout txHash
            paidAt := some inputs.now
            lastError := some none }
        let paidOrder ← read fun _ db => db.order
        settle d paidOrder)
      fun error => do
        let _ ← updateOrder .payoutFailed fun _ => { lastError := some (some error.message) }
  | _, _ => do
    let _ ← updateOrder .payoutFailed fun _ =>
      { lastError := some (some "Review verdict or assigned reviewer is missing") }

def reviewableBeforeDispatch (order : ReviewOrder) : Processor Bool :=
  if d.chain = false then do
    let _ ← updateOrder .paid fun _ =>
      { lastError := some (some "Arc validation is not configured before dispatch") }
    pure false
  else tryCatch
    (do
      throwIf (Database.latestDate < order.purchase.createdAt)
        (.error "review order has an invalid creation timestamp")
      let now ← read fun inputs _ => inputs.now
      perform (.validateEscalatedReview (dispatchExpiryBufferSeconds d order now))
      pure true)
    fun
      | .permanent code _ => do
        database fun _ db => .ok ((), db.expireAssignments)
        let _ ← updateOrder .expired fun inputs =>
          { settlementAbortCode := some (some code)
            settlementAbortedAt := some (some inputs.now)
            claimExpiresAt := some none
            lastError := some none }
        refund d
        pure false
      | error => do
        let _ ← updateOrder .paid fun _ => { lastError := some (some error.message) }
        pure false

/-- `listEligibleReviewers` -/
def eligible (order : ReviewOrder) (reviewers : List Reviewer) : List Reviewer :=
  reviewers.filter fun reviewer =>
    reviewer.active && reviewer.payoutAddress ≠ order.purchase.jobClient &&
      reviewer.payoutAddress ≠ order.purchase.jobProvider &&
      some reviewer.payoutAddress ≠ d.config.circleWalletAddress

def dispatch (order : ReviewOrder) : Processor Unit := do
  if ← reviewableBeforeDispatch d order then
    let (telegram, reviewers) ← read fun inputs _ =>
      (inputs.telegram, eligible d order inputs.reviewers)
    if telegram = false then
      let _ ← updateOrder .paid fun _ =>
        { lastError := some (some "Telegram is not configured") }
    else if reviewers = [] then
      let _ ← updateOrder .paid fun _ =>
        { lastError := some (some "No eligible reviewers are active") }
    else
      tryCatch
        (do
          let sent ← telegramDispatch d order reviewers
          throwIf (sent = 0) (.error "No Telegram review offers were sent"))
        fun error => do
          let _ ← updateOrder .paid fun _ => { lastError := some (some error.message) }

def processOrder : Processor Unit := do
  let (action, order) ← database fun inputs db =>
    db.applyReviewTimeouts d.config.reviewSlaSeconds d.config.maxDispatches inputs.now
  match action with
  | .expired => refund d
  | .redispatched => pure ()
  | .none =>
    let exhausted ← read fun _ db => circleRetriesExhausted d order db
    if exhausted then pure ()
    else
      match order.state with
      | .paid => dispatch d order
      | .verdictSubmitted | .payoutFailed => payReviewer d order
      | .reviewerPaid | .reviewerPaidSettlementFailed => settle d order
      | .expired => refund d
      | .dispatched | .claimed | .settled | .refunded => pure ()

end Processor

end VapiArc.Review
