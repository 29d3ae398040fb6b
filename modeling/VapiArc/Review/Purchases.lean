import VapiArc.Review.Liability
import VapiArc.Review.Reservations

/-!
# Purchases around the reservations

Requests, hooks of the Gateway middleware and sweeps call `ReviewDatabase` in any order and
at any times, and orders are processed meanwhile. What the calls generate has not been
generated before. A record is kept of the identifiers that were given out, of the tokens
that the treasury has admitted and of the last time that was read.
-/
namespace VapiArc.Review

open Checked Function Async Transition

/-- What processing does to the rows of an order. -/
structure Database.Moves (rows rows' : Database) : Prop where
  purchase : rows'.order.purchase = rows.order.purchase
  state : rows'.order.state = rows.order.state ∨ rows.order.state.Next rows'.order.state

theorem service_moves {circle : Circle} {d : Dependencies} {opening : Opening}
    {history : List (ServiceState × ServiceEvent)} {v : ServiceState} {event : ServiceEvent}
    (run : ServiceRun circle d opening history v) (admitted : (host circle d).admits v event) :
    v.store.db.Moves ((host circle d).next v event).store.db :=
  ⟨(service_proceeds run admitted).purchase, (service_proceeds run admitted).state⟩

structure PurchaseState where
  db : ReviewDatabase := {}
  issued : List Token := []
  admitted : List Token := []
  clock : Timestamp := 0

inductive PurchaseEvent where
  | acquire (p : Purchasing)
  | release (token : Token)
  | mark (token : Token) (paymentPayload paymentRequirements : PaymentJson) (now : Timestamp)
  | discard (now : Timestamp)
  | defer (token : Token) (error : String) (delayMs : Nat) (now : Timestamp)
  | record (token : Token) (payment : ReviewPayment)
  | promote (token : Token) (generated : OrderKeys)
  | reconcile (token : Token) (generated : OrderKeys)
  | create (input : CreateReviewOrderInput) (generated : OrderKeys)
  | check (token : Token) (now : Timestamp)
  | proceed (id : Token) (rows : Database)

structure TreasuryConfig where
  reviewPrice : Nat
  reviewerReward : Nat
  minimumTreasuryBalance : Nat

namespace ReviewDatabase

variable (db : ReviewDatabase) (config : TreasuryConfig)

def activeLiability : Nat := (db.orders.map (·.rows.order.liability)).sum

def requiredTreasuryBalance (token : Option Token) (now : Timestamp) : Except Failure Nat := do
  let reservationLiability ← db.reviewReservationLiabilityThrough token now
  let nextReviewLiability := config.reviewPrice + config.reviewerReward
  let obligations := db.activeLiability + reservationLiability +
    if token.isSome then 0 else nextReviewLiability
  return max obligations config.minimumTreasuryBalance

/-- `requireTreasuryReady` lets the purchase pass. -/
def treasuryReady (balance : Nat) (token : Token) (now : Timestamp) : Bool :=
  match db.requiredTreasuryBalance config (some token) now with
  | .ok required => required ≤ balance
  | .error _ => false

def proceed (id : Token) (rows : Database) : ReviewDatabase :=
  { db with orders := db.orders.map fun o => if o.purchase.id = id then { o with rows } else o }

end ReviewDatabase

namespace PurchaseState

variable (s : PurchaseState)

/-- A transaction that may be rolled back. -/
def committed {α : Type} (result : Except Failure (α × ReviewDatabase)) : PurchaseState :=
  match result with
  | .ok (_, db) => { s with db }
  | .error _ => s

def issue (id : Token) : PurchaseState := { s with issued := id :: s.issued }

def at_ (now : Timestamp) : PurchaseState := { s with clock := now }

end PurchaseState

variable (config : TreasuryConfig) (balance : Nat)

def purchaseStep (s : PurchaseState) : PurchaseEvent → PurchaseState
  | .acquire p => ((s.committed (s.db.acquireReviewReservation p)).issue p.randomUUID).at_ p.leasedAt
  | .release token => { s with db := s.db.releaseReviewReservation token }
  | .mark token paymentPayload paymentRequirements now =>
    (s.committed (s.db.markGatewaySettlementAttempt token paymentPayload paymentRequirements
      now)).at_ now
  | .discard now =>
    { s with db := (s.db.discardExpiredUnattemptedReviewReservations now).2, clock := now }
  | .defer token error delayMs now =>
    { s with db := s.db.deferGatewayReservationRecovery token error delayMs now, clock := now }
  | .record token payment => s.committed (s.db.recordReviewReservationSettlement token payment)
  | .promote token generated =>
    ((s.committed (s.db.promoteReviewReservation token generated)).issue generated.id).at_
      generated.timestamp
  | .reconcile token generated =>
    (({ s with db := s.db.reconcileSettled token generated } : PurchaseState).issue
      generated.id).at_ generated.timestamp
  | .create input generated =>
    ((s.committed (s.db.createOrder input generated)).issue generated.id).at_ generated.timestamp
  | .check token now =>
    { s with
      admitted := if s.db.treasuryReady config balance token now then token :: s.admitted
        else s.admitted
      clock := now }
  | .proceed id rows => { s with db := s.db.proceed id rows }

/-- The identifier and the keys of a new order are fresh. -/
def PurchaseState.Fresh (s : PurchaseState) (generated : OrderKeys) : Prop :=
  generated.id ∉ s.issued ∧ ∀ o ∈ s.db.orders, ∀ operation other,
    (o.rows.order.circle operation).key ≠ generated.keys other

instance : Fintype CircleOperation where
  elems := {.payout, .resolution, .refund}
  complete operation := by cases operation <;> decide

instance (s : PurchaseState) (generated : OrderKeys) : Decidable (s.Fresh generated) :=
  inferInstanceAs (Decidable (_ ∧ _))

def purchases : System PurchaseState PurchaseEvent where
  admits s
    | .acquire p => p.randomUUID ∉ s.issued
    | .promote _ generated | .reconcile _ generated | .create _ generated => s.Fresh generated
    | .proceed id rows => ∃ o ∈ s.db.orders, o.purchase.id = id ∧ o.rows.Moves rows
    | _ => True
  next := purchaseStep config balance

end VapiArc.Review
