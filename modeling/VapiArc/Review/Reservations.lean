import VapiArc.Review.Orders
import VapiArc.Lib.Json

/-!
# Reservations of review purchases

`review_reservations` and `review_orders` as purchases see them. A purchase reserves its
request and its job before it is paid; the reservation is promoted to an order when its
settlement is on record. Rows are listed in the order of their insertion, and a random
identifier is given out once.
-/
namespace VapiArc.Review

open Checked Function

/-- A random UUID: the token of a reservation or the id of an order. -/
abbrev Token := Nat

/-- A payment payload; its numbers are rational. -/
abbrev PaymentJson := Json.Value ℚ

structure Quote where
  reviewPrice : Nat
  reward : Nat
  network : String
  deriving DecidableEq, Repr

structure ValidatedReviewJob where
  jobId : Nat
  client : Address
  provider : Address
  expiredAt : Nat
  deliverableHash : Hex
  escalationReasonHash : Hex
  escalationReasonCode : Option String
  escalationCause : Option String
  deriving DecidableEq, Repr

/-- The fields of a stored intent; those that are missing or of another type are `none`. -/
structure ReviewIntent where
  requestId : Option String
  jobId : Option Nat
  content : Option String
  validatedJob : Option ValidatedReviewJob
  deriving DecidableEq, Repr

/-- `GatewayPaymentReservationInput`: all payment columns, or none, are `NULL`. -/
structure GatewayPayment where
  signatureHash : Hex
  authorizationKey : Hex
  paymentPayload : PaymentJson
  paymentRequirements : PaymentJson
  payer : Address
  nonce : String

structure ReviewPayment where
  payer : Address
  amount : Nat
  network : String
  transaction : Option String
  deriving DecidableEq, Repr

/-- The settlement columns of a settled reservation. -/
structure Settlement where
  payer : Address
  amount : Nat
  network : String
  transaction : String
  deriving DecidableEq, Repr

inductive ReservationPhase where
  | paymentPending
  | settled (settlement : Settlement)
  deriving DecidableEq, Repr

structure Reservation where
  token : Token
  requestId : String
  jobId : Nat
  intent : Option ReviewIntent
  payment : Option GatewayPayment
  settlementRecoveryAt : Option Timestamp := none
  quote : Quote
  phase : ReservationPhase := .paymentPending
  reconcileError : Option String := none
  expiresAt : Timestamp
  createdAt : Timestamp

/-- An order among others, with its payment columns. -/
structure OrderRow where
  requestId : String
  paymentSignatureHash : Option Hex
  paymentAuthorizationKey : Option Hex
  rows : Database

structure ReviewDatabase where
  reservations : List Reservation := []
  orders : List OrderRow := []

namespace Reservation

variable (r : Reservation)

def pending : Bool := r.phase = .paymentPending

def signatureHash : Option Hex := r.payment.map (·.signatureHash)

def authorizationKey : Option Hex := r.payment.map (·.authorizationKey)

def payer : Option Address := r.payment.map (·.payer)

/-- `settlement_transaction` -/
def transaction : Option String :=
  match r.phase with
  | .paymentPending => none
  | .settled settlement => some settlement.transaction

/-- An abandoned purchase, for which no settlement has begun. -/
def abandoned (now : Timestamp) : Bool :=
  r.pending && r.settlementRecoveryAt.isNone && r.expiresAt ≤ now

/-- What the treasury may owe for the review. -/
def liability : Nat := r.quote.reviewPrice + r.quote.reward

/-- The treasury has to count the reservation. -/
def counted (now : Timestamp) : Bool := !r.pending || r.payment.isSome || now < r.expiresAt

/-- The order of admission: by the times of creation, and by the tokens at one time. -/
def precedes (priority : Reservation) : Bool :=
  r.createdAt < priority.createdAt ||
    (r.createdAt = priority.createdAt && r.token ≤ priority.token)

end Reservation

namespace OrderRow

variable (o : OrderRow)

def purchase : Purchase := o.rows.order.purchase

end OrderRow

/-- Two columns of a unique index are the same when neither is `NULL`. -/
def sameKey {α : Type} [DecidableEq α] : Option α → Option α → Bool
  | some a, some b => a = b
  | _, _ => false

/-- The rows share a value of a unique column. -/
def Reservation.clashes (r other : Reservation) : Bool :=
  r.token = other.token || r.requestId = other.requestId || r.jobId = other.jobId ||
    sameKey r.signatureHash other.signatureHash ||
    sameKey r.authorizationKey other.authorizationKey || sameKey r.transaction other.transaction

def OrderRow.clashes (o other : OrderRow) : Bool :=
  o.purchase.id = other.purchase.id || o.requestId = other.requestId ||
    o.purchase.jobId = other.purchase.jobId ||
    sameKey o.purchase.gatewayTransaction other.purchase.gatewayTransaction ||
    sameKey o.paymentSignatureHash other.paymentSignatureHash ||
    sameKey o.paymentAuthorizationKey other.paymentAuthorizationKey ||
    [CircleOperation.payout, .resolution, .refund].any fun operation =>
      (o.rows.order.circle operation).key = (other.rows.order.circle operation).key

/-- `String.prototype.trim` leaves nothing. -/
def blank (text : String) : Bool :=
  text.toList.all fun c => c.isWhitespace || c.toNat ∈ [0x0B, 0x0C, 0xA0, 0x1680, 0x2028, 0x2029,
    0x202F, 0x205F, 0x3000, 0xFEFF] || (0x2000 ≤ c.toNat && c.toNat ≤ 0x200A)

/-- `String.prototype.trim` -/
def trim (text : String) : String :=
  let space (c : Char) : Bool := blank (String.singleton c)
  String.ofList ((text.toList.dropWhile space).reverse.dropWhile space).reverse

def leaseMs : Nat := 15 * 60000

/-- `GATEWAY_SETTLEMENT_RECOVERY_DELAY_MS` -/
def recoveryDelayMs : Nat := 60000

/-- `9999-12-31T23:59:59.999Z` -/
def neverExpires : Timestamp := 253402300799999

section Calls

/-- A call of `acquireReviewReservation`; the clock is read four times, in this order. -/
structure Purchasing where
  requestId : String
  jobId : Nat
  intent : Option ReviewIntent
  gatewayPayment : Option GatewayPayment
  quote : Quote
  sweptAt : Timestamp
  timestamp : Timestamp
  checkedAt : Timestamp
  leasedAt : Timestamp
  randomUUID : Token

inductive Acquired where
  | acquired (token : Token)
  | existing (order : OrderRow)
  | busy

namespace Purchasing

variable (p : Purchasing)

/-- The reservation cannot be taken over. -/
def refusedBy (existing : Reservation) : Bool :=
  !(existing.requestId = p.requestId && existing.jobId = p.jobId) || !existing.pending ||
    p.checkedAt < existing.expiresAt || existing.settlementRecoveryAt.isSome ||
    existing.quote ≠ p.quote

def renewal (existing : Reservation) : Reservation :=
  { existing with
    token := p.randomUUID
    intent := coalesce p.intent existing.intent
    payment := p.gatewayPayment
    settlementRecoveryAt := none
    reconcileError := none
    phase := .paymentPending
    expiresAt := p.leasedAt + leaseMs }

def reservation : Reservation :=
  { token := p.randomUUID
    requestId := p.requestId
    jobId := p.jobId
    intent := p.intent
    payment := p.gatewayPayment
    quote := p.quote
    expiresAt := p.leasedAt + leaseMs
    createdAt := p.timestamp }

end Purchasing

structure CreateReviewOrderInput where
  requestId : String
  deliverableContent : String
  job : ValidatedReviewJob
  payment : ReviewPayment
  reviewPrice : Nat
  reward : Nat
  reservationToken : Option Token

/-- What `createOrder` generates. -/
structure OrderKeys where
  id : Token
  keys : CircleOperation → IdempotencyKey
  timestamp : Timestamp

def CreateReviewOrderInput.order (input : CreateReviewOrderInput)
    (reservation : Option Reservation) (generated : OrderKeys) : OrderRow :=
  { requestId := input.requestId
    paymentSignatureHash := reservation.bind (·.signatureHash)
    paymentAuthorizationKey := reservation.bind (·.authorizationKey)
    rows := .created
      { id := generated.id
        jobId := input.job.jobId
        payer := input.payment.payer
        reviewPrice := input.reviewPrice
        network := input.payment.network
        gatewayTransaction := input.payment.transaction
        jobClient := input.job.client
        jobProvider := input.job.provider
        jobExpiredAt := input.job.expiredAt
        deliverableHash := input.job.deliverableHash
        deliverableContent := input.deliverableContent
        escalationReasonHash := input.job.escalationReasonHash
        escalationCause := input.job.escalationCause
        reward := input.reward
        createdAt := generated.timestamp }
      generated.keys }

/-- What `promoteReviewReservation` reads in the stored intent. -/
def Reservation.orderInput (r : Reservation) (settlement : Settlement) :
    Except Failure CreateReviewOrderInput := do
  let missing := .error "settled review reservation is missing provenance"
  let intent ← demand missing r.intent
  revertIf (settlement.network = "" ∨ settlement.transaction = "" ∨ r.quote.network = "") missing
  let invalid := .error "settled review reservation contains an invalid intent"
  revertIf (intent.requestId ≠ some r.requestId ∨ intent.jobId ≠ some r.jobId) invalid
  let content ← demand invalid intent.content
  let job ← demand invalid intent.validatedJob
  revertIf (job.jobId ≠ r.jobId) invalid
  return {
    requestId := r.requestId
    deliverableContent := content
    job
    payment :=
      { payer := settlement.payer, amount := settlement.amount, network := settlement.network
        transaction := some settlement.transaction }
    reviewPrice := r.quote.reviewPrice
    reward := r.quote.reward
    reservationToken := some r.token }

end Calls

namespace ReviewDatabase

variable (db : ReviewDatabase)

def findOrderByRequestOrJob (requestId : String) (jobId : Nat) : Option OrderRow :=
  (db.orders.filter fun o => o.requestId = requestId || o.purchase.jobId = jobId).argmin
    fun o => o.purchase.createdAt

def findReservation (token : Token) : Option Reservation :=
  db.reservations.find? (·.token = token)

def deleteWhere (condition : Reservation → Bool) : ReviewDatabase :=
  { db with reservations := db.reservations.filter fun r => !condition r }

def updateWhere (condition : Reservation → Bool) (change : Reservation → Reservation) :
    ReviewDatabase :=
  { db with reservations := db.reservations.map fun r => if condition r then change r else r }

/-- Purchases that were abandoned before a settlement began. -/
def discardAbandoned (now : Timestamp) : ReviewDatabase := db.deleteWhere (·.abandoned now)

section Acquire

variable (p : Purchasing)

/-- The first row with the payment's header or authorization: the token of a reservation or
the id of an order. -/
def paymentOwner (payment : GatewayPayment) : Option Token :=
  ((db.reservations.filter fun r => sameKey r.signatureHash (some payment.signatureHash) ||
      sameKey r.authorizationKey (some payment.authorizationKey)).map (·.token) ++
    (db.orders.filter fun o => sameKey o.paymentSignatureHash (some payment.signatureHash) ||
      sameKey o.paymentAuthorizationKey (some payment.authorizationKey)).map
        (·.purchase.id)).head?

def intendedReservation : Option Token :=
  (db.reservations.find? fun r => r.requestId = p.requestId && r.jobId = p.jobId).map (·.token)

/-- The payment is that of another purchase. -/
def paysForAnother : Bool :=
  match p.gatewayPayment with
  | none => false
  | some payment =>
    match db.paymentOwner payment with
    | none => false
    | some owner => db.intendedReservation p ≠ some owner

def existingReservation : Option Reservation :=
  (db.reservations.filter fun r => r.requestId = p.requestId || r.jobId = p.jobId).argmin
    (·.createdAt)

/-- The statement fails when a unique column of the new row is that of another one. -/
def renew (existing : Reservation) : Except Failure (Acquired × ReviewDatabase) := do
  let renewal := p.renewal existing
  revertIf (∃ r ∈ db.reservations, r.token ≠ existing.token ∧ r.clashes renewal = true)
    (.error "UNIQUE constraint failed: review_reservations")
  return (.acquired p.randomUUID, db.updateWhere (fun r => r.token = existing.token && r.pending)
    fun _ => renewal)

/-- `INSERT OR IGNORE` -/
def insert : Acquired × ReviewDatabase :=
  if db.reservations.any (·.clashes p.reservation) then (.busy, db)
  else (.acquired p.randomUUID, { db with reservations := db.reservations ++ [p.reservation] })

def acquireReviewReservation : Except Failure (Acquired × ReviewDatabase) := do
  revertIf (blank p.quote.network = true) (.error "review reservation quote is invalid")
  let db := db.discardAbandoned p.sweptAt
  match db.findOrderByRequestOrJob p.requestId p.jobId with
  | some order => return (.existing order, db)
  | none =>
    if db.paysForAnother p then return (.busy, db)
    else
      match db.existingReservation p with
      | some existing =>
        if p.refusedBy existing then return (.busy, db) else db.renew p existing
      | none => return db.insert p

end Acquire

def releaseReviewReservation (token : Token) : ReviewDatabase :=
  db.deleteWhere fun r => r.token = token && r.pending && r.settlementRecoveryAt.isNone

def markGatewaySettlementAttempt (token : Token) (paymentPayload paymentRequirements : PaymentJson)
    (now : Timestamp) : Except Failure (Unit × ReviewDatabase) := do
  let marks (r : Reservation) : Bool := r.token = token && r.pending && r.payment.isSome
  revertIf (¬ ∃ r ∈ db.reservations, marks r = true)
    (.error "review reservation was lost before Gateway settlement")
  return ((), db.updateWhere marks fun r => { r with
    payment := r.payment.map ({ · with paymentPayload, paymentRequirements })
    settlementRecoveryAt := some (now + recoveryDelayMs)
    reconcileError := none })

def discardExpiredUnattemptedReviewReservations (now : Timestamp) : List Token × ReviewDatabase :=
  ((db.reservations.filter (·.abandoned now)).map (·.token), db.discardAbandoned now)

def deferGatewayReservationRecovery (token : Token) (error : String) (delayMs : Nat)
    (now : Timestamp) : ReviewDatabase :=
  db.updateWhere (fun r => r.token = token && r.pending) fun r => { r with
    reconcileError := some error
    settlementRecoveryAt := some (now + delayMs) }

section Settlement

/-- Another row has this Gateway transaction. -/
def reusedPayment (token : Token) (transaction : String) : Bool :=
  db.reservations.any (fun r => r.token ≠ token && sameKey r.transaction (some transaction)) ||
    db.orders.any fun o => sameKey o.purchase.gatewayTransaction (some transaction)

def recordReviewReservationSettlement (token : Token) (payment : ReviewPayment) :
    Except Failure (Unit × ReviewDatabase) := do
  let missing := .error "settled review payment requires a transaction reference"
  let transaction ← demand missing payment.transaction
  revertIf (blank transaction = true) missing
  let reservation ← demand (.error "review payment reservation was lost")
    (db.findReservation token)
  revertIf (payment.amount ≠ reservation.quote.reviewPrice ∨
      payment.network ≠ reservation.quote.network)
    (.error "review settlement does not match its immutable payment quote")
  revertIf (∃ payer, reservation.payer = some payer ∧ payer ≠ payment.payer)
    (.error "review settlement payer does not match its signed payment authorization")
  let settlement : Settlement :=
    { payer := payment.payer, amount := payment.amount, network := payment.network, transaction }
  match reservation.phase with
  | .settled recorded => do
    revertIf (recorded ≠ settlement)
      (.error "review reservation was settled with different payment provenance")
    return ((), db)
  | .paymentPending => do
    revertIf (db.reusedPayment token transaction = true)
      (.error "Gateway payment is already associated with another review")
    return ((), db.updateWhere (fun r => r.token = token && r.pending) fun r => { r with
      phase := .settled settlement
      reconcileError := none
      settlementRecoveryAt := none
      expiresAt := neverExpires })

end Settlement

section Orders

/-- The reservation that an order is created from, if it is created from one. -/
def settledReservation (input : CreateReviewOrderInput) :
    Except Failure (Option Reservation) := do
  match input.reservationToken with
  | none => return none
  | some token =>
    let reservation ← demand (.error "review order reservation was lost")
      (db.reservations.find? fun r =>
        r.token = token && r.requestId = input.requestId && r.jobId = input.job.jobId)
    match reservation.phase with
    | .paymentPending =>
      throw (.error "review order reservation must be durably settled before promotion")
    | .settled settlement =>
      revertIf (reservation.quote ≠ ⟨input.reviewPrice, input.reward, input.payment.network⟩ ∨
          (∃ payer, reservation.payer = some payer ∧ payer ≠ input.payment.payer) ∨
          input.payment ≠ ⟨settlement.payer, settlement.amount, settlement.network,
            some settlement.transaction⟩ ∨ input.payment.amount ≠ reservation.quote.reviewPrice)
        (.error "review order payment does not match its immutable reservation")
      return some reservation

/-- The order, and whether it was created by this call. -/
def createOrder (input : CreateReviewOrderInput) (generated : OrderKeys) :
    Except Failure ((OrderRow × Bool) × ReviewDatabase) := do
  match db.findOrderByRequestOrJob input.requestId input.job.jobId with
  | some duplicate => return ((duplicate, false), db)
  | none =>
    let reservation ← db.settledReservation input
    revertIf ((truthy input.job.escalationReasonCode && truthy input.job.escalationCause) = false)
      (.error "review order requires verified escalation provenance")
    let order := input.order reservation generated
    revertIf (db.orders.any (·.clashes order) = true)
      (.error "UNIQUE constraint failed: review_orders")
    return ((order, true), { reservations := db.reservations.filter fun r =>
      input.reservationToken ≠ some r.token, orders := db.orders ++ [order] })

def promoteReviewReservation (token : Token) (generated : OrderKeys) :
    Except Failure (Option (OrderRow × Bool) × ReviewDatabase) := do
  match db.findReservation token with
  | none => return (none, db)
  | some reservation =>
    match reservation.phase with
    | .paymentPending => return (none, db)
    | .settled settlement =>
      let input ← reservation.orderInput settlement
      let (result, db) ← db.createOrder input generated
      return (some result, db)

def quarantine (token : Token) (message : String) : ReviewDatabase :=
  db.updateWhere (fun r => r.token = token && !r.pending) fun r => { r with
    reconcileError := some message }

/-- One row of `reconcileSettledReviewReservations`. -/
def reconcileSettled (token : Token) (generated : OrderKeys) : ReviewDatabase :=
  match db.promoteReviewReservation token generated with
  | .ok (some _, db) => db
  | .ok (none, _) => db.quarantine token "settled review reservation disappeared"
  | .error error => db.quarantine token error.message

end Orders

/-- The sum of the prices and rewards of the reservations, up to that of a token if one is
given. -/
def reviewReservationLiabilityThrough (token : Option Token) (now : Timestamp) :
    Except Failure Nat := do
  let through : Reservation → Bool ← match token with
    | none => pure fun _ => true
    | some token => do
      let priority ← demand (.error "review reservation was lost before treasury admission")
        (db.findReservation token)
      pure (·.precedes priority)
  return ((db.reservations.filter fun r => r.counted now && through r).map (·.liability)).sum

end ReviewDatabase

end VapiArc.Review
