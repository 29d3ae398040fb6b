import VapiArc.Review.Purchases

/-!
# What a call does to the tables

Every call deletes abandoned rows first or none at all, and then changes the tables in one
of a few ways.
-/
namespace VapiArc.Review

open Checked Function Transition

namespace Reservation

/-- A settlement of the reservation may have begun. -/
def mayBePaid (r : Reservation) : Bool := !r.pending || r.settlementRecoveryAt.isSome

/-- The columns that no attempt and no settlement changes. -/
structure SamePurchase (r r' : Reservation) : Prop where
  token : r'.token = r.token
  requestId : r'.requestId = r.requestId
  jobId : r'.jobId = r.jobId
  intent : r'.intent = r.intent
  signatureHash : r'.signatureHash = r.signatureHash
  authorizationKey : r'.authorizationKey = r.authorizationKey
  payer : r'.payer = r.payer
  nonce : r'.payment.map (·.nonce) = r.payment.map (·.nonce)
  quote : r'.quote = r.quote
  createdAt : r'.createdAt = r.createdAt

/-- The reservation is for the same payment, and still settled by it if it was. -/
structure SamePayment (r r' : Reservation) : Prop extends SamePurchase r r' where
  settled : ∀ settlement, r.phase = .settled settlement → r'.phase = .settled settlement

/-- An attempt is journaled or put off, or an error is noted. -/
structure Touched (r r' : Reservation) : Prop extends SamePurchase r r' where
  phase : r'.phase = r.phase
  expiresAt : r'.expiresAt = r.expiresAt
  mayBePaid : r.mayBePaid = true → r'.mayBePaid = true

theorem SamePurchase.refl (r : Reservation) : r.SamePurchase r :=
  ⟨rfl, rfl, rfl, rfl, rfl, rfl, rfl, rfl, rfl, rfl⟩

variable {r r' r'' : Reservation}

theorem SamePurchase.trans (first : r.SamePurchase r') (second : r'.SamePurchase r'') :
    r.SamePurchase r'' :=
  ⟨second.token.trans first.token, second.requestId.trans first.requestId,
    second.jobId.trans first.jobId, second.intent.trans first.intent,
    second.signatureHash.trans first.signatureHash,
    second.authorizationKey.trans first.authorizationKey, second.payer.trans first.payer,
    second.nonce.trans first.nonce, second.quote.trans first.quote,
    second.createdAt.trans first.createdAt⟩

theorem SamePayment.refl (r : Reservation) : r.SamePayment r := ⟨.refl r, fun _ settled => settled⟩

theorem SamePayment.trans (first : r.SamePayment r') (second : r'.SamePayment r'') :
    r.SamePayment r'' :=
  ⟨first.toSamePurchase.trans second.toSamePurchase,
    fun settlement settled => second.settled settlement (first.settled settlement settled)⟩

theorem Touched.samePayment (touched : r.Touched r') : r.SamePayment r' :=
  ⟨touched.toSamePurchase, fun _ settled => touched.phase.trans settled⟩

/-- The row once a settlement has been recorded. -/
def settle (r : Reservation) (settlement : Settlement) : Reservation :=
  { r with
    phase := .settled settlement
    reconcileError := none
    settlementRecoveryAt := none
    expiresAt := neverExpires }

/-- The settlement is one that the reservation asks for. -/
structure Suits (r : Reservation) (settlement : Settlement) : Prop where
  amount : settlement.amount = r.quote.reviewPrice
  network : settlement.network = r.quote.network
  payer : ∀ payer, r.payer = some payer → payer = settlement.payer
  transaction : blank settlement.transaction = false

end Reservation

/-- A new order carries the payment of the reservation. -/
structure OrderRow.Carries (o : OrderRow) (r : Reservation) : Prop where
  requestId : o.requestId = r.requestId
  jobId : o.purchase.jobId = r.jobId
  signatureHash : o.paymentSignatureHash = r.signatureHash
  authorizationKey : o.paymentAuthorizationKey = r.authorizationKey
  payer : ∀ payer, r.payer = some payer → o.purchase.payer = payer
  reviewPrice : o.purchase.reviewPrice = r.quote.reviewPrice
  reward : o.purchase.reward = r.quote.reward
  network : o.purchase.network = r.quote.network
  settled : ∃ settlement, r.phase = .settled settlement ∧ o.purchase.payer = settlement.payer ∧
    o.purchase.gatewayTransaction = some settlement.transaction

/-- The token that a call for one reservation is about. -/
def PurchaseEvent.Concerns (token : Token) : PurchaseEvent → Prop
  | .mark of _ _ _ | .defer of _ _ _ | .record of _ | .promote of _ | .reconcile of _ => of = token
  | _ => False

/-- The identifier that a call generates. -/
def PurchaseEvent.Issues (id : Token) : PurchaseEvent → Prop
  | .acquire p => id = p.randomUUID
  | .promote _ generated | .reconcile _ generated | .create _ generated => id = generated.id
  | _ => False

/-- An acquisition first deletes the abandoned rows. -/
def PurchaseEvent.Begins (e : PurchaseEvent) (db swept : ReviewDatabase) : Prop :=
  swept = db ∨ ∃ p, e = .acquire p ∧ swept = db.discardAbandoned p.sweptAt

/-- The ways in which a call changes the tables. -/
inductive Change (issued : List Token) (e : PurchaseEvent) (db : ReviewDatabase) :
    ReviewDatabase → Prop
  | same : Change issued e db db
  | deletes {condition : Reservation → Bool}
      (unpaid : ∀ r, condition r = true → r.mayBePaid = false) :
      Change issued e db (db.deleteWhere condition)
  | touches {token : Token} {condition : Reservation → Bool} {change : Reservation → Reservation}
      (concerns : e.Concerns token) (keyed : ∀ r, condition r = true → r.token = token)
      (touched : ∀ r, condition r = true → r.Touched (change r))
      (begun : ∀ r, condition r = true → r.mayBePaid = true ∨
        (r.payment.isSome = true ∧ ∃ paymentPayload paymentRequirements now,
          e = .mark token paymentPayload paymentRequirements now) ∨
        ∃ error delayMs now, e = .defer token error delayMs now) :
      Change issued e db (db.updateWhere condition change)
  | settles {r : Reservation} {payment : ReviewPayment} {settlement : Settlement}
      (recorded : e = .record r.token payment) (found : db.findReservation r.token = some r)
      (pending : r.pending = true) (suits : r.Suits settlement)
      (unused : db.reusedPayment r.token settlement.transaction = false) :
      Change issued e db
        (db.updateWhere (fun other => other.token = r.token && other.pending) (·.settle settlement))
  | renews {p : Purchasing} {existing : Reservation} (acquires : e = .acquire p)
      (swept : ∀ r ∈ db.reservations, r.abandoned p.sweptAt = false)
      (network : blank p.quote.network = false) (fresh : p.randomUUID ∉ issued)
      (unordered : db.findOrderByRequestOrJob p.requestId p.jobId = none)
      (own : db.paysForAnother p = false) (found : db.existingReservation p = some existing)
      (accepted : p.refusedBy existing = false)
      (unique : ∀ r ∈ db.reservations, r.token ≠ existing.token →
        r.clashes (p.renewal existing) = false) :
      Change issued e db
        (db.updateWhere (fun r => r.token = existing.token && r.pending) fun _ => p.renewal existing)
  | inserts {p : Purchasing} (acquires : e = .acquire p) (network : blank p.quote.network = false)
      (fresh : p.randomUUID ∉ issued)
      (unordered : db.findOrderByRequestOrJob p.requestId p.jobId = none)
      (own : db.paysForAnother p = false) (none_ : db.existingReservation p = none)
      (unique : ∀ r ∈ db.reservations, r.clashes p.reservation = false) :
      Change issued e db { db with reservations := db.reservations ++ [p.reservation] }
  | sells {r : Reservation} {o : OrderRow} (member : r ∈ db.reservations)
      (unordered : db.findOrderByRequestOrJob r.requestId r.jobId = none) (carries : o.Carries r)
      (paid : o.rows.order.state = .paid) (fresh : o.purchase.id ∉ issued)
      (issues : e.Issues o.purchase.id)
      (concerns : e.Concerns r.token ∨ ∃ input generated, e = .create input generated) :
      Change issued e db
        { reservations := db.reservations.filter (·.token ≠ r.token), orders := db.orders ++ [o] }
  | creates {input : CreateReviewOrderInput} {generated : OrderKeys} {o : OrderRow}
      (created : e = .create input generated) (fresh : o.purchase.id ∉ issued)
      (issues : e.Issues o.purchase.id) :
      Change issued e db { db with orders := db.orders ++ [o] }
  | proceeds {o : OrderRow} {rows : Database} (member : o ∈ db.orders) (moves : o.rows.Moves rows)
      (proceeded : e = .proceed o.purchase.id rows) :
      Change issued e db (db.proceed o.purchase.id rows)

section Calls

variable {issued : List Token} {e : PurchaseEvent} {db db' : ReviewDatabase}

theorem abandoned_unpaid (now : Timestamp) (r : Reservation) (abandoned : r.abandoned now = true) :
    r.mayBePaid = false := by
  simp only [Reservation.abandoned, Bool.and_eq_true, Option.isNone_iff_eq_none] at abandoned
  simp [Reservation.mayBePaid, abandoned.1.1, abandoned.1.2]

theorem discard_change (now : Timestamp) : Change issued e db (db.discardAbandoned now) :=
  .deletes (abandoned_unpaid now)

theorem discard_swept (now : Timestamp) :
    ∀ r ∈ (db.discardAbandoned now).reservations, r.abandoned now = false := by
  intro r member
  have kept := (List.mem_filter.mp member).2
  simpa using kept

theorem acquire_change {p : Purchasing} {acquired : Acquired} (fresh : p.randomUUID ∉ issued)
    (done : db.acquireReviewReservation p = .ok (acquired, db')) :
    Change issued (.acquire p) (db.discardAbandoned p.sweptAt) db' ∧
      (db' = db.discardAbandoned p.sweptAt ∨ ∃ token, acquired = .acquired token) := by
  simp only [ReviewDatabase.acquireReviewReservation, bind_ok, revertIf_ok, exists_const,
    Bool.not_eq_true] at done
  obtain ⟨network, done⟩ := done
  split at done
  next =>
    cases done
    exact ⟨.same, .inl rfl⟩
  next unordered =>
    split at done
    next =>
      cases done
      exact ⟨.same, .inl rfl⟩
    next own =>
      rw [Bool.not_eq_true] at own
      split at done
      next existing found =>
        split at done
        next =>
          cases done
          exact ⟨.same, .inl rfl⟩
        next accepted =>
          simp only [ReviewDatabase.renew, bind_ok, revertIf_ok, exists_const, pure_ok,
            Prod.mk.injEq] at done
          obtain ⟨unique, rfl, rfl⟩ := done
          refine ⟨.renews rfl (discard_swept p.sweptAt) network fresh unordered own found
            (by simpa using accepted) fun r member other => ?_, .inr ⟨_, rfl⟩⟩
          rw [Bool.eq_false_iff]
          exact fun clashes => unique ⟨r, member, other, clashes⟩
      next none_ =>
        simp only [ReviewDatabase.insert, pure_ok] at done
        split at done
        next =>
          cases done
          exact ⟨.same, .inl rfl⟩
        next unique =>
          cases done
          refine ⟨.inserts rfl network fresh unordered own none_ fun r member => ?_, .inr ⟨_, rfl⟩⟩
          simp only [List.any_eq_true, not_exists, not_and, Bool.not_eq_true] at unique
          exact unique r member

theorem release_change (token : Token) : Change issued e db (db.releaseReviewReservation token) := by
  refine .deletes fun r condition => ?_
  simp only [Bool.and_eq_true, Option.isNone_iff_eq_none] at condition
  simp [Reservation.mayBePaid, condition.1.2, condition.2]

theorem mark_change (issued : List Token) {token : Token} {paymentPayload paymentRequirements : PaymentJson}
    {now : Timestamp} {u : Unit}
    (done : db.markGatewaySettlementAttempt token paymentPayload paymentRequirements now =
      .ok (u, db')) :
    Change issued (.mark token paymentPayload paymentRequirements now) db db' ∧
      (∃ r ∈ db.reservations, r.token = token ∧ r.pending = true ∧ r.payment.isSome = true) ∧
      ∃ r ∈ db'.reservations, r.token = token ∧ r.mayBePaid = true := by
  simp only [ReviewDatabase.markGatewaySettlementAttempt, bind_ok, revertIf_ok, not_not,
    exists_const, pure_ok, Prod.mk.injEq, Bool.and_eq_true, decide_eq_true_eq] at done
  obtain ⟨⟨r, member, ⟨keyed, pending⟩, signed⟩, -, rfl⟩ := done
  refine ⟨.touches rfl (fun r marks => ?_) (fun r _ => ?_) fun r marks => ?_,
    ⟨r, member, keyed, pending, signed⟩, ?_⟩
  · simp only [Bool.and_eq_true, decide_eq_true_eq] at marks
    exact marks.1.1
  · refine ⟨⟨rfl, rfl, rfl, rfl, ?_, ?_, ?_, ?_, rfl, rfl⟩, rfl, rfl, ?_⟩
    · simp [Reservation.signatureHash, Function.comp_def]
    · simp [Reservation.authorizationKey, Function.comp_def]
    · simp [Reservation.payer, Function.comp_def]
    · simp [Function.comp_def]
    · simp [Reservation.mayBePaid]
  · simp only [Bool.and_eq_true, decide_eq_true_eq] at marks
    exact .inr (.inl ⟨marks.2, _, _, _, rfl⟩)
  · refine ⟨_, List.mem_map_of_mem member, ?_⟩
    rw [if_pos (by simp [keyed, pending, signed])]
    exact ⟨keyed, by simp [Reservation.mayBePaid]⟩

theorem defer_change (token : Token) (error : String) (delayMs : Nat) (now : Timestamp) :
    Change issued (.defer token error delayMs now) db
      (db.deferGatewayReservationRecovery token error delayMs now) := by
  refine .touches rfl (fun r condition => ?_) (fun r _ => ?_)
    fun r _ => .inr (.inr ⟨error, delayMs, now, rfl⟩)
  · simp only [Bool.and_eq_true, decide_eq_true_eq] at condition
    exact condition.1
  · exact ⟨⟨rfl, rfl, rfl, rfl, rfl, rfl, rfl, rfl, rfl, rfl⟩, rfl, rfl,
      by simp [Reservation.mayBePaid]⟩

theorem record_change (issued : List Token) {token : Token} {payment : ReviewPayment} {u : Unit}
    (done : db.recordReviewReservationSettlement token payment = .ok (u, db')) :
    Change issued (.record token payment) db db' ∧ (∃ r ∈ db.reservations, r.token = token) ∧
      ∃ r ∈ db'.reservations, r.token = token ∧ r.mayBePaid = true := by
  simp only [ReviewDatabase.recordReviewReservationSettlement, bind_ok, demand_ok, revertIf_ok,
    exists_const] at done
  obtain ⟨transaction, referenced, unblank, r, found, quoted, payer, done⟩ := done
  have keyed : r.token = token := by simpa using List.find?_some found
  have member := List.mem_of_find?_eq_some found
  subst keyed
  split at done
  next settlement settled =>
    simp only [bind_ok, revertIf_ok, exists_const, pure_ok, Prod.mk.injEq] at done
    obtain ⟨-, -, rfl⟩ := done
    exact ⟨.same, ⟨r, member, rfl⟩, r, member, rfl,
      by simp [Reservation.mayBePaid, Reservation.pending, settled]⟩
  next pending =>
    simp only [bind_ok, revertIf_ok, exists_const, pure_ok, Prod.mk.injEq] at done
    obtain ⟨unused, -, rfl⟩ := done
    simp only [not_or, not_not] at quoted
    have pending : r.pending = true := by simp [Reservation.pending, pending]
    refine ⟨.settles rfl found pending ?_ (by simpa using unused), ⟨r, member, rfl⟩, ?_⟩
    · refine ⟨quoted.1, quoted.2, fun other given => ?_, by simpa using unblank⟩
      by_contra different
      exact payer ⟨other, given, different⟩
    · refine ⟨_, List.mem_map_of_mem member, ?_⟩
      rw [if_pos (by simp [pending])]
      exact ⟨rfl, rfl⟩

/-- The reservation that an order is created from, and its settlement. -/
theorem settledReservation_ok {input : CreateReviewOrderInput} {result : Option Reservation}
    (done : db.settledReservation input = .ok result) :
    input.reservationToken = none ∧ result = none ∨
      ∃ r settlement, input.reservationToken = some r.token ∧ result = some r ∧
        r ∈ db.reservations ∧ r.requestId = input.requestId ∧ r.jobId = input.job.jobId ∧
        r.phase = .settled settlement ∧
        r.quote = ⟨input.reviewPrice, input.reward, input.payment.network⟩ ∧
        (∀ payer, r.payer = some payer → payer = input.payment.payer) ∧
        input.payment = ⟨settlement.payer, settlement.amount, settlement.network,
          some settlement.transaction⟩ := by
  unfold ReviewDatabase.settledReservation at done
  split at done
  next none_ =>
    cases done
    exact .inl ⟨none_, rfl⟩
  next token given =>
    simp only [bind_ok, demand_ok] at done
    obtain ⟨r, found, done⟩ := done
    have keyed := List.find?_some found
    simp only [Bool.and_eq_true, decide_eq_true_eq] at keyed
    obtain ⟨⟨rfl, request⟩, job⟩ := keyed
    split at done
    next => cases done
    next settlement settled =>
      simp only [bind_ok, revertIf_ok, exists_const, pure_ok, not_or, not_not] at done
      obtain ⟨⟨quoted, payer, paid, -⟩, rfl⟩ := done
      refine .inr ⟨r, settlement, given, rfl, List.mem_of_find?_eq_some found, request, job,
        settled, quoted, fun other given => ?_, paid⟩
      by_contra different
      exact payer ⟨other, given, different⟩

theorem order_carries {input : CreateReviewOrderInput} {r : Reservation} {settlement : Settlement}
    {generated : OrderKeys} (request : r.requestId = input.requestId)
    (job : r.jobId = input.job.jobId) (settled : r.phase = .settled settlement)
    (quoted : r.quote = ⟨input.reviewPrice, input.reward, input.payment.network⟩)
    (payer : ∀ payer, r.payer = some payer → payer = input.payment.payer)
    (paid : input.payment = ⟨settlement.payer, settlement.amount, settlement.network,
      some settlement.transaction⟩) : (input.order (some r) generated).Carries r where
  requestId := request.symm
  jobId := job.symm
  signatureHash := rfl
  authorizationKey := rfl
  payer other given := (payer other given).symm
  reviewPrice := by rw [quoted]; rfl
  reward := by rw [quoted]; rfl
  network := by rw [quoted]; rfl
  settled := ⟨settlement, settled, by
    rw [OrderRow.purchase, CreateReviewOrderInput.order, paid]
    exact ⟨rfl, rfl⟩⟩

theorem create_change {input : CreateReviewOrderInput} {generated : OrderKeys}
    {result : OrderRow × Bool} (fresh : generated.id ∉ issued) (issues : e.Issues generated.id)
    (concerns : (∃ token, input.reservationToken = some token ∧ e.Concerns token) ∨
      e = .create input generated)
    (done : db.createOrder input generated = .ok (result, db')) :
    Change issued e db db' ∧ (result.2 = true ∨ result.2 = false ∧ db' = db ∧
      db.findOrderByRequestOrJob input.requestId input.job.jobId = some result.1) := by
  unfold ReviewDatabase.createOrder at done
  split at done
  next duplicate found =>
    cases done
    exact ⟨.same, .inr ⟨rfl, rfl, found⟩⟩
  next unordered =>
    simp only [bind_ok, revertIf_ok, exists_const, pure_ok, Prod.mk.injEq] at done
    obtain ⟨reservation, settled, -, unique, rfl, rfl⟩ := done
    refine ⟨?_, .inl rfl⟩
    rcases settledReservation_ok settled with ⟨without, rfl⟩ |
      ⟨r, settlement, token, rfl, member, request, job, phase, quoted, payer, paid⟩
    · rw [without]
      simp only [ne_eq, reduceCtorEq, not_false_eq_true, decide_true, List.filter_true]
      rcases concerns with ⟨token, given, -⟩ | created
      · rw [without] at given
        cases given
      · exact .creates created fresh issues
    · rw [token]
      simp only [ne_eq, Option.some.injEq, eq_comm (a := r.token)]
      refine .sells member (by rw [request, job]; exact unordered)
        (order_carries request job phase quoted payer paid) rfl fresh issues ?_
      rcases concerns with ⟨token', given, concerns⟩ | created
      · rw [token] at given
        cases given
        exact .inl concerns
      · exact .inr ⟨input, generated, created⟩

theorem promote_change {token : Token} {generated : OrderKeys} {result : Option (OrderRow × Bool)}
    (fresh : generated.id ∉ issued) (issues : e.Issues generated.id) (concerns : e.Concerns token)
    (done : db.promoteReviewReservation token generated = .ok (result, db')) :
    Change issued e db db' := by
  unfold ReviewDatabase.promoteReviewReservation at done
  split at done
  next =>
    cases done
    exact .same
  next r found =>
    split at done
    next =>
      cases done
      exact .same
    next settlement settled =>
      simp only [bind_ok, pure_ok, Prod.mk.injEq] at done
      obtain ⟨input, read, ⟨created, db''⟩, done, rfl, rfl⟩ := done
      have given : input.reservationToken = some token := by
        have keyed : r.token = token := by simpa using List.find?_some found
        simp only [Reservation.orderInput, bind_ok, demand_ok, revertIf_ok, exists_const,
          pure_ok] at read
        obtain ⟨-, -, -, -, -, -, -, -, -, rfl⟩ := read
        rw [keyed]
      exact (create_change fresh issues (.inl ⟨token, given, concerns⟩) done).1

theorem quarantine_change {token : Token} (concerns : e.Concerns token) (message : String) :
    Change issued e db (db.quarantine token message) := by
  refine .touches concerns (fun r condition => ?_) (fun r _ => ?_) fun r condition => .inl ?_
  · simp only [Bool.and_eq_true, decide_eq_true_eq] at condition
    exact condition.1
  · exact ⟨⟨rfl, rfl, rfl, rfl, rfl, rfl, rfl, rfl, rfl, rfl⟩, rfl, rfl, id⟩
  · simp only [Bool.and_eq_true] at condition
    simp [Reservation.mayBePaid, condition.2]

theorem reconcile_change {token : Token} {generated : OrderKeys} (fresh : generated.id ∉ issued)
    (issues : e.Issues generated.id) (concerns : e.Concerns token) :
    Change issued e db (db.reconcileSettled token generated) := by
  unfold ReviewDatabase.reconcileSettled
  split
  next done => exact promote_change fresh issues concerns done
  next => exact quarantine_change concerns _
  next => exact quarantine_change concerns _

end Calls

section Steps

variable {config : TreasuryConfig} {balance : Nat} {s : PurchaseState} {e : PurchaseEvent}

theorem committed_change {α : Type} {result : Except Failure (α × ReviewDatabase)}
    (committed : ∀ a db', result = .ok (a, db') → Change s.issued e s.db db') :
    Change s.issued e s.db (s.committed result).db := by
  unfold PurchaseState.committed
  split
  next a db' => exact committed a db' rfl
  next => exact .same

theorem step_change (admitted : (purchases config balance).admits s e) :
    ∃ swept, e.Begins s.db swept ∧
      Change s.issued e swept ((purchases config balance).next s e).db := by
  cases e with
  | acquire p =>
    cases done : s.db.acquireReviewReservation p with
    | error failure =>
      refine ⟨s.db, .inl rfl, ?_⟩
      simp only [purchases, purchaseStep, done]
      exact .same
    | ok result =>
      refine ⟨s.db.discardAbandoned p.sweptAt, .inr ⟨p, rfl, rfl⟩, ?_⟩
      simp only [purchases, purchaseStep, done]
      exact (acquire_change admitted done).1
  | release token => exact ⟨s.db, .inl rfl, release_change token⟩
  | mark token paymentPayload paymentRequirements now =>
    exact ⟨s.db, .inl rfl, committed_change fun _ _ done => (mark_change s.issued done).1⟩
  | discard now => exact ⟨s.db, .inl rfl, discard_change now⟩
  | defer token error delayMs now =>
    exact ⟨s.db, .inl rfl, defer_change token error delayMs now⟩
  | record token payment =>
    exact ⟨s.db, .inl rfl, committed_change fun _ _ done => (record_change s.issued done).1⟩
  | promote token generated =>
    exact ⟨s.db, .inl rfl, committed_change fun _ _ done => promote_change admitted.1 rfl rfl done⟩
  | reconcile token generated => exact ⟨s.db, .inl rfl, reconcile_change admitted.1 rfl rfl⟩
  | create input generated =>
    exact ⟨s.db, .inl rfl, committed_change fun _ _ done =>
      (create_change (e := .create input generated) admitted.1 rfl (.inr rfl) done).1⟩
  | check token now => exact ⟨s.db, .inl rfl, .same⟩
  | proceed id rows =>
    obtain ⟨o, member, rfl, moves⟩ := admitted
    exact ⟨s.db, .inl rfl, .proceeds member moves rfl⟩

theorem committed_issued {α : Type} (result : Except Failure (α × ReviewDatabase)) :
    (s.committed result).issued = s.issued := by
  unfold PurchaseState.committed
  split <;> rfl

@[simp] theorem mem_issued {id : Token} : id ∈ ((purchases config balance).next s e).issued ↔
    e.Issues id ∨ id ∈ s.issued := by
  cases e <;> simp [purchases, purchaseStep, PurchaseState.issue, PurchaseState.at_,
    committed_issued, PurchaseEvent.Issues]

end Steps

/-- Tokens and ids are keys, and have been given out. -/
structure ReviewDatabase.Tidy (db : ReviewDatabase) (issued : Token → Prop) : Prop where
  tokens : (db.reservations.map (·.token)).Nodup
  ids : (db.orders.map (·.purchase.id)).Nodup
  distinct : ∀ r ∈ db.reservations, ∀ o ∈ db.orders, r.token ≠ o.purchase.id
  reserved : ∀ r ∈ db.reservations, issued r.token
  ordered : ∀ o ∈ db.orders, issued o.purchase.id

namespace ReviewDatabase

variable {db db' : ReviewDatabase} {issued : Token → Prop}

/-- A row is the only one with its token. -/
theorem Tidy.unique (tidy : db.Tidy issued) {r other : Reservation} (member : r ∈ db.reservations)
    (member' : other ∈ db.reservations) (same : r.token = other.token) : r = other :=
  List.inj_on_of_nodup_map tidy.tokens member member' same

theorem Tidy.find (tidy : db.Tidy issued) {condition : Reservation → Bool} {r : Reservation}
    (keyed : ∀ other, condition other = true → other.token = r.token)
    (member : r ∈ db.reservations) (meets : condition r = true) :
    db.reservations.find? condition = some r := by
  cases found : db.reservations.find? condition with
  | none => exact absurd meets (List.find?_eq_none.mp found r member)
  | some other =>
    rw [tidy.unique (List.mem_of_find?_eq_some found) member (keyed other (List.find?_some found))]

theorem Tidy.found (tidy : db.Tidy issued) {r : Reservation} (member : r ∈ db.reservations) :
    db.findReservation r.token = some r :=
  tidy.find (by simp) member (by simp)

theorem findReservation_some {token : Token} {r : Reservation}
    (found : db.findReservation token = some r) : r ∈ db.reservations ∧ r.token = token :=
  ⟨List.mem_of_find?_eq_some found, by simpa using List.find?_some found⟩

theorem findReservation_none {token : Token} :
    db.findReservation token = none ↔ ∀ r ∈ db.reservations, r.token ≠ token := by
  simp [findReservation]

theorem existingReservation_some {p : Purchasing} {existing : Reservation}
    (found : db.existingReservation p = some existing) : existing ∈ db.reservations ∧
      (existing.requestId = p.requestId ∨ existing.jobId = p.jobId) := by
  simpa using List.argmin_mem found

theorem existingReservation_none {p : Purchasing} : db.existingReservation p = none ↔
    ∀ r ∈ db.reservations, r.requestId ≠ p.requestId ∧ r.jobId ≠ p.jobId := by
  simp [existingReservation, List.argmin_eq_none]

theorem findOrderByRequestOrJob_none {requestId : String} {jobId : Nat} :
    db.findOrderByRequestOrJob requestId jobId = none ↔
      ∀ o ∈ db.orders, o.requestId ≠ requestId ∧ o.purchase.jobId ≠ jobId := by
  simp [findOrderByRequestOrJob, List.argmin_eq_none]

theorem Tidy.sublist (tidy : db.Tidy issued) (kept : db'.reservations.Sublist db.reservations)
    (orders : db'.orders = db.orders) : db'.Tidy issued where
  tokens := tidy.tokens.sublist (kept.map _)
  ids := orders ▸ tidy.ids
  distinct r member o ordered := tidy.distinct r (kept.subset member) o (orders ▸ ordered)
  reserved r member := tidy.reserved r (kept.subset member)
  ordered o member := tidy.ordered o (orders ▸ member)

theorem mem_updateWhere {condition : Reservation → Bool} {change : Reservation → Reservation}
    {r' : Reservation} : r' ∈ (db.updateWhere condition change).reservations ↔
      ∃ r ∈ db.reservations, (condition r = true ∧ change r = r' ∨ condition r = false ∧ r = r') := by
  simp only [updateWhere, List.mem_map]
  refine exists_congr fun r => and_congr_right fun _ => ?_
  cases condition r <;> simp

theorem Tidy.update (tidy : db.Tidy issued) {condition : Reservation → Bool}
    {change : Reservation → Reservation}
    (keeps : ∀ r, condition r = true → (change r).token = r.token) :
    (db.updateWhere condition change).Tidy issued := by
  have same : (db.updateWhere condition change).reservations.map (·.token) =
      db.reservations.map (·.token) := by
    simp only [updateWhere, List.map_map, List.map_inj_left, comp_apply]
    intro r _
    split
    next meets => exact keeps r meets
    next => rfl
  have old : ∀ r' ∈ (db.updateWhere condition change).reservations,
      ∃ r ∈ db.reservations, r.token = r'.token := fun r' member =>
    List.mem_map.mp (same ▸ List.mem_map_of_mem member)
  refine ⟨same ▸ tidy.tokens, tidy.ids, fun r' member o ordered => ?_, fun r' member => ?_,
    tidy.ordered⟩
  · obtain ⟨r, member, same⟩ := old r' member
    exact same ▸ tidy.distinct r member o ordered
  · obtain ⟨r, member, same⟩ := old r' member
    exact same ▸ tidy.reserved r member

/-- A row is taken over under a token that has not been given out. -/
theorem Tidy.renew (tidy : db.Tidy issued) {r renewal : Reservation} {condition : Reservation → Bool}
    (meets : ∀ other, condition other = true → other.token = r.token)
    (fresh : ¬ issued renewal.token) :
    (db.updateWhere condition fun _ => renewal).Tidy fun id => id = renewal.token ∨ issued id := by
  refine ⟨?_, tidy.ids, fun r' member o ordered => ?_, fun r' member => ?_,
    fun o member => .inr (tidy.ordered o member)⟩
  · have distinct := tidy.tokens
    simp only [updateWhere, List.map_map, List.Nodup, List.pairwise_map, comp_apply] at distinct ⊢
    refine distinct.imp_of_mem fun {a b} memberA memberB different => ?_
    split <;> split
    next left right => exact absurd ((meets a left).trans (meets b right).symm) different
    next => exact fun same => fresh (same ▸ tidy.reserved b memberB)
    next => exact fun same => fresh (same ▸ tidy.reserved a memberA)
    next => exact different
  · obtain ⟨r, old, ⟨-, rfl⟩ | ⟨-, rfl⟩⟩ := mem_updateWhere.mp member
    · exact fun same => fresh (same ▸ tidy.ordered o ordered)
    · exact tidy.distinct r old o ordered
  · obtain ⟨r, old, ⟨-, rfl⟩ | ⟨-, rfl⟩⟩ := mem_updateWhere.mp member
    · exact .inl rfl
    · exact .inr (tidy.reserved r old)

/-- An order is added under an id that has not been given out. -/
theorem Tidy.order (tidy : db.Tidy issued) {o : OrderRow} {e : PurchaseEvent}
    (issues : e.Issues o.purchase.id) (fresh : ¬ issued o.purchase.id) :
    ReviewDatabase.Tidy { db with orders := db.orders ++ [o] } fun id => e.Issues id ∨ issued id := by
  refine ⟨tidy.tokens, ?_, ?_, fun r member => .inr (tidy.reserved r member), ?_⟩
  · rw [List.map_append, List.nodup_append]
    refine ⟨tidy.ids, by simp, fun id old id' new same => ?_⟩
    obtain ⟨o', member, rfl⟩ := List.mem_map.mp old
    obtain rfl : id' = o.purchase.id := by simpa using new
    exact fresh (same ▸ tidy.ordered o' member)
  · simp only [List.mem_append, List.mem_singleton]
    rintro r member o' (ordered | rfl)
    · exact tidy.distinct r member o' ordered
    · exact fun same => fresh (same ▸ tidy.reserved r member)
  · simp only [List.mem_append, List.mem_singleton]
    rintro o' (ordered | rfl)
    · exact .inr (tidy.ordered o' ordered)
    · exact .inl issues

end ReviewDatabase

/-- A row that is new has a token that is new. -/
theorem Change.token {issued : List Token} {e : PurchaseEvent} {db db' : ReviewDatabase}
    (change : Change issued e db db') {r' : Reservation} (member' : r' ∈ db'.reservations) :
    (∃ r ∈ db.reservations, r.token = r'.token) ∨ r'.token ∉ issued := by
  have kept : r' ∈ db.reservations → (∃ r ∈ db.reservations, r.token = r'.token) ∨
      r'.token ∉ issued := fun member => .inl ⟨r', member, rfl⟩
  cases change with
  | same => exact kept member'
  | creates => exact kept member'
  | proceeds => exact kept member'
  | deletes => exact kept (List.mem_of_mem_filter member')
  | sells => exact kept (List.mem_of_mem_filter member')
  | touches _ _ touched =>
    obtain ⟨r, member, ⟨meets, rfl⟩ | ⟨-, rfl⟩⟩ := ReviewDatabase.mem_updateWhere.mp member'
    · exact .inl ⟨r, member, (touched r meets).token.symm⟩
    · exact kept member
  | settles =>
    obtain ⟨r, member, ⟨-, rfl⟩ | ⟨-, rfl⟩⟩ := ReviewDatabase.mem_updateWhere.mp member'
    · exact .inl ⟨r, member, rfl⟩
    · exact kept member
  | renews _ _ _ fresh =>
    obtain ⟨r, member, ⟨-, rfl⟩ | ⟨-, rfl⟩⟩ := ReviewDatabase.mem_updateWhere.mp member'
    · exact .inr fresh
    · exact kept member
  | inserts _ _ fresh =>
    rcases List.mem_append.mp member' with member | new
    · exact kept member
    · obtain rfl := List.mem_singleton.mp new
      exact .inr fresh

theorem Change.tidy {issued : List Token} {e : PurchaseEvent} {db db' : ReviewDatabase}
    (change : Change issued e db db') (tidy : db.Tidy (· ∈ issued)) :
    db'.Tidy fun id => e.Issues id ∨ id ∈ issued := by
  have old : db.Tidy fun id => e.Issues id ∨ id ∈ issued :=
    ⟨tidy.tokens, tidy.ids, tidy.distinct, fun r member => .inr (tidy.reserved r member),
      fun o member => .inr (tidy.ordered o member)⟩
  cases change with
  -- every change but the four that write a new row keeps or drops identifiers
  | same => exact old
  | deletes => exact old.sublist List.filter_sublist rfl
  | touches _ _ touched => exact old.update fun r meets => (touched r meets).token
  | settles => exact old.update fun r _ => rfl
  | @renews p existing acquires _ _ fresh =>
    subst acquires
    have meets (other : Reservation) (condition : (other.token = existing.token && other.pending) = true) :
        other.token = existing.token := by
      simp only [Bool.and_eq_true, decide_eq_true_eq] at condition
      exact condition.1
    exact tidy.renew meets fresh
  | @inserts p acquires _ fresh =>
    subst acquires
    refine ⟨?_, tidy.ids, ?_, ?_, old.ordered⟩
    · -- the new token is fresh, so no row and no order has it
      rw [List.map_append, List.nodup_append]
      refine ⟨tidy.tokens, by simp, fun token old token' new same => ?_⟩
      obtain ⟨r, member, rfl⟩ := List.mem_map.mp old
      obtain rfl : token' = p.randomUUID := by simpa [Purchasing.reservation] using new
      exact fresh (same ▸ tidy.reserved r member)
    · simp only [List.mem_append, List.mem_singleton]
      rintro r (member | rfl) o ordered
      · exact tidy.distinct r member o ordered
      · intro same
        replace same : p.randomUUID = o.purchase.id := same
        exact fresh (same ▸ tidy.ordered o ordered)
    · simp only [List.mem_append, List.mem_singleton]
      rintro r (member | rfl)
      · exact old.reserved r member
      · exact .inl rfl
  | @sells sold _ _ _ _ _ fresh issues =>
    have removed : (db.deleteWhere (·.token = sold.token)).Tidy (· ∈ issued) :=
      tidy.sublist List.filter_sublist rfl
    simpa [ReviewDatabase.deleteWhere] using removed.order issues fresh
  | creates _ fresh issues => exact tidy.order issues fresh
  | @proceeds o rows ordered moves =>
    -- processing leaves the purchase of an order alone, and so its id
    have same : (db.proceed o.purchase.id rows).orders.map (·.purchase.id) =
        db.orders.map (·.purchase.id) := by
      simp only [ReviewDatabase.proceed, List.map_map, List.map_inj_left, comp_apply]
      intro before _
      split
      next same => exact (congrArg Purchase.id moves.purchase).trans same.symm
      next => rfl
    have named : ∀ o' ∈ (db.proceed o.purchase.id rows).orders,
        ∃ before ∈ db.orders, before.purchase.id = o'.purchase.id := fun o' member =>
      List.mem_map.mp (same ▸ List.mem_map_of_mem member)
    refine ⟨old.tokens, same ▸ old.ids, fun r member o' inside => ?_, old.reserved,
      fun o' inside => ?_⟩
    · obtain ⟨before, ordered, same⟩ := named o' inside
      exact same ▸ old.distinct r member before ordered
    · obtain ⟨before, ordered, same⟩ := named o' inside
      exact same ▸ old.ordered before ordered

/-- Where a row comes from. -/
inductive Stems (issued : List Token) (e : PurchaseEvent) (db : ReviewDatabase) :
    Reservation → Prop
  | touched {r r' : Reservation} (member : r ∈ db.reservations) (touched : r.Touched r') :
      Stems issued e db r'
  | settled {r : Reservation} {settlement : Settlement} (member : r ∈ db.reservations)
      (suits : r.Suits settlement) : Stems issued e db (r.settle settlement)
  | renewed {p : Purchasing} {existing : Reservation} (acquires : e = .acquire p)
      (fresh : p.randomUUID ∉ issued) (member : existing ∈ db.reservations)
      (accepted : p.refusedBy existing = false) : Stems issued e db (p.renewal existing)
  | inserted {p : Purchasing} (acquires : e = .acquire p) (fresh : p.randomUUID ∉ issued)
      (network : blank p.quote.network = false) : Stems issued e db p.reservation

theorem Change.stems {issued : List Token} {e : PurchaseEvent} {db db' : ReviewDatabase}
    (change : Change issued e db db') (tidy : db.Tidy (· ∈ issued)) {r' : Reservation}
    (member' : r' ∈ db'.reservations) : Stems issued e db r' := by
  have kept : r' ∈ db.reservations → Stems issued e db r' := fun member =>
    .touched member ⟨.refl r', rfl, rfl, id⟩
  cases change with
  | same => exact kept member'
  | creates => exact kept member'
  | proceeds => exact kept member'
  | deletes => exact kept (List.mem_of_mem_filter member')
  | sells => exact kept (List.mem_of_mem_filter member')
  | touches _ _ touched =>
    obtain ⟨r, member, ⟨meets, rfl⟩ | ⟨-, rfl⟩⟩ := ReviewDatabase.mem_updateWhere.mp member'
    · exact .touched member (touched r meets)
    · exact kept member
  | settles _ found _ suits =>
    obtain ⟨r, member, ⟨meets, rfl⟩ | ⟨-, rfl⟩⟩ := ReviewDatabase.mem_updateWhere.mp member'
    · simp only [Bool.and_eq_true, decide_eq_true_eq] at meets
      obtain rfl := tidy.unique member (ReviewDatabase.findReservation_some found).1 meets.1
      exact .settled member suits
    · exact kept member
  | renews acquires _ _ fresh _ _ found accepted =>
    obtain ⟨r, member, ⟨-, rfl⟩ | ⟨-, rfl⟩⟩ := ReviewDatabase.mem_updateWhere.mp member'
    · exact .renewed acquires fresh (ReviewDatabase.existingReservation_some found).1 accepted
    · exact kept member
  | inserts acquires network fresh =>
    rcases List.mem_append.mp member' with member | new
    · exact kept member
    · obtain rfl := List.mem_singleton.mp new
      exact .inserted acquires fresh network

namespace PurchaseEvent

variable {e : PurchaseEvent} {db swept : ReviewDatabase}

theorem Begins.sublist (begins : e.Begins db swept) :
    swept.reservations.Sublist db.reservations := by
  rcases begins with rfl | ⟨p, -, rfl⟩
  · exact .refl _
  · exact List.filter_sublist

theorem Begins.orders (begins : e.Begins db swept) : swept.orders = db.orders := by
  rcases begins with rfl | ⟨p, -, rfl⟩ <;> rfl

theorem Begins.kept (begins : e.Begins db swept) {r : Reservation} (member : r ∈ db.reservations)
    (paid : r.mayBePaid = true) : r ∈ swept.reservations := by
  rcases begins with rfl | ⟨p, -, rfl⟩
  · exact member
  · refine List.mem_filter.mpr ⟨member, ?_⟩
    cases abandoned : r.abandoned p.sweptAt with
    | false => simp [abandoned]
    | true => exact absurd (abandoned_unpaid p.sweptAt r abandoned) (by simp [paid])

end PurchaseEvent

section Runs

variable {config : TreasuryConfig} {balance : Nat} {s : PurchaseState}
  {history : List (PurchaseState × PurchaseEvent)}

theorem tidy_step {e : PurchaseEvent} (tidy : s.db.Tidy (· ∈ s.issued))
    (admitted : (purchases config balance).admits s e) :
    ((purchases config balance).next s e).db.Tidy
      (· ∈ ((purchases config balance).next s e).issued) := by
  obtain ⟨swept, begins, change⟩ := step_change admitted
  simp only [mem_issued]
  exact change.tidy (tidy.sublist begins.sublist begins.orders)

theorem tidy_run (run : Run (purchases config balance) {} history s) :
    s.db.Tidy (· ∈ s.issued) :=
  run.invariant (fun s => s.db.Tidy (· ∈ s.issued))
    ⟨by simp, by simp, by simp, by simp, by simp⟩
    fun _ _ tidy admitted => tidy_step tidy admitted

end Runs

end VapiArc.Review
