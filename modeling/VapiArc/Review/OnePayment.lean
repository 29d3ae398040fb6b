import VapiArc.Review.Gateway
import VapiArc.Review.ReservationKept

/-!
# One payment, one order

No two rows of the two tables have a request, a job, a payment or a settlement in common,
so that the order for a settled reservation is always created.
-/
namespace VapiArc.Review

open Checked Function Transition

/-- The columns that no two rows share, in whichever table they are. -/
structure Holding where
  requestId : String
  jobId : Nat
  signatureHash : Option Hex
  authorizationKey : Option Hex
  transaction : Option String

def Reservation.holding (r : Reservation) : Holding :=
  { requestId := r.requestId, jobId := r.jobId, signatureHash := r.signatureHash
    authorizationKey := r.authorizationKey, transaction := r.transaction }

def OrderRow.holding (o : OrderRow) : Holding :=
  { requestId := o.requestId, jobId := o.purchase.jobId, signatureHash := o.paymentSignatureHash
    authorizationKey := o.paymentAuthorizationKey, transaction := o.purchase.gatewayTransaction }

def ReviewDatabase.holdings (db : ReviewDatabase) : List Holding :=
  db.reservations.map (·.holding) ++ db.orders.map (·.holding)

section Keys

variable {α : Type} [DecidableEq α] {a b : Option α}

theorem sameKey_iff : sameKey a b = true ↔ ∃ key, a = some key ∧ b = some key := by
  cases a <;> cases b <;> simp [sameKey, eq_comm]

theorem sameKey_comm : sameKey a b = sameKey b a := by
  rw [Bool.eq_iff_iff, sameKey_iff, sameKey_iff]
  simp only [and_comm]

@[simp] theorem sameKey_none : sameKey a none = false := by cases a <;> rfl

end Keys

namespace Holding

structure Apart (a b : Holding) : Prop where
  requestId : a.requestId ≠ b.requestId
  jobId : a.jobId ≠ b.jobId
  signatureHash : sameKey a.signatureHash b.signatureHash = false
  authorizationKey : sameKey a.authorizationKey b.authorizationKey = false
  transaction : sameKey a.transaction b.transaction = false

theorem Apart.symm {a b : Holding} (apart : a.Apart b) : b.Apart a where
  requestId := apart.requestId.symm
  jobId := apart.jobId.symm
  signatureHash := sameKey_comm.trans apart.signatureHash
  authorizationKey := sameKey_comm.trans apart.authorizationKey
  transaction := sameKey_comm.trans apart.transaction

/-- The row has the payment's header or its authorization. -/
def Pays (h : Holding) (payment : GatewayPayment) : Prop :=
  h.signatureHash = some payment.signatureHash ∨ h.authorizationKey = some payment.authorizationKey

/-- The payment columns are empty, or those of a payment that was presented. -/
def Traced (presented : String → GatewayPayment → Prop) (h : Holding) : Prop :=
  h.signatureHash = none ∧ h.authorizationKey = none ∨
    ∃ header payment, presented header payment ∧ h.signatureHash = some payment.signatureHash ∧
      h.authorizationKey = some payment.authorizationKey

/-- Equal hashes of headers that were presented are those of one payment. -/
def Separates (presented : String → GatewayPayment → Prop) : Prop :=
  ∀ {header payment header' payment'}, presented header payment → presented header' payment' →
    payment.signatureHash = payment'.signatureHash →
      payment.authorizationKey = payment'.authorizationKey

theorem Pays.key {presented : String → GatewayPayment → Prop} (separates : Separates presented)
    {h : Holding} {header : String} {payment : GatewayPayment} (traced : h.Traced presented)
    (given : presented header payment) (pays : h.Pays payment) :
    h.authorizationKey = some payment.authorizationKey := by
  rcases pays with hash | key
  · rcases traced with ⟨none_, -⟩ | ⟨header', payment', given', hash', key'⟩
    · rw [hash] at none_
      cases none_
    · rw [hash, Option.some.injEq] at hash'
      rw [key', separates given given' hash']
  · exact key

end Holding

theorem Reservation.clashes_eq_false {r other : Reservation} :
    r.clashes other = false ↔ r.token ≠ other.token ∧ r.holding.Apart other.holding := by
  simp only [Reservation.clashes, Bool.or_eq_false_iff, decide_eq_false_iff_not]
  constructor
  · rintro ⟨⟨⟨⟨⟨token, request⟩, job⟩, hash⟩, key⟩, transaction⟩
    exact ⟨token, request, job, hash, key, transaction⟩
  · rintro ⟨token, request, job, hash, key, transaction⟩
    exact ⟨⟨⟨⟨⟨token, request⟩, job⟩, hash⟩, key⟩, transaction⟩

namespace ReviewDatabase

variable {db : ReviewDatabase}

structure OneEach (db : ReviewDatabase) : Prop where
  reservations : ∀ r ∈ db.reservations, ∀ r' ∈ db.reservations, r.token ≠ r'.token →
    r.holding.Apart r'.holding
  orders : (db.orders.map (·.holding)).Pairwise Holding.Apart
  across : ∀ r ∈ db.reservations, ∀ o ∈ db.orders, r.holding.Apart o.holding

/-- A payment that an acquisition may use is that of the row it takes over, or of none. -/
theorem paysForAnother_eq_false {p : Purchasing} {payment : GatewayPayment}
    (own : db.paysForAnother p = false) (given : p.gatewayPayment = some payment) :
    (∀ o ∈ db.orders, ¬ o.holding.Pays payment) ∨
      ∃ r ∈ db.reservations, (r.requestId = p.requestId ∧ r.jobId = p.jobId) ∧
        ((∃ r' ∈ db.reservations, r'.holding.Pays payment ∧ r'.token = r.token) ∨
          ∃ o ∈ db.orders, o.purchase.id = r.token) := by
  simp only [paysForAnother, given] at own
  split at own
  next unowned =>
    left
    intro o member pays
    simp only [paymentOwner, List.head?_eq_none_iff, List.append_eq_nil_iff, List.map_eq_nil_iff,
      List.filter_eq_nil_iff, Bool.or_eq_true, sameKey_iff, not_or] at unowned
    rcases pays with hash | key
    · exact (unowned.2 o member).1 ⟨_, hash, rfl⟩
    · exact (unowned.2 o member).2 ⟨_, key, rfl⟩
  next owner owned =>
    right
    simp only [ne_eq, decide_not, Bool.not_eq_false', decide_eq_true_eq, intendedReservation,
      Option.map_eq_some_iff] at own
    obtain ⟨r, found, rfl⟩ := own
    have intended := List.find?_some found
    simp only [Bool.and_eq_true, decide_eq_true_eq] at intended
    refine ⟨r, List.mem_of_find?_eq_some found, intended, ?_⟩
    have member := List.mem_of_mem_head? owned
    simp only [List.mem_append, List.mem_map, List.mem_filter, Bool.or_eq_true, sameKey_iff,
      Option.some.injEq, exists_eq_right'] at member
    rcases member with ⟨r', ⟨member, pays⟩, same⟩ | ⟨o, ⟨member, -⟩, same⟩
    · exact .inl ⟨r', member, pays, same⟩
    · exact .inr ⟨o, member, same⟩

/-- One row is changed, and its new columns are those of no other row. -/
theorem OneEach.update (one : db.OneEach) {issued : Token → Prop} (tidy : db.Tidy issued)
    {condition : Reservation → Bool} {change : Reservation → Reservation}
    (alone : ∀ r r', condition r = true → condition r' = true → r.token = r'.token)
    (apart : ∀ r ∈ db.reservations, condition r = true →
      (∀ r' ∈ db.reservations, r'.token ≠ r.token → (change r).holding.Apart r'.holding) ∧
        ∀ o ∈ db.orders, (change r).holding.Apart o.holding) :
    (db.updateWhere condition change).OneEach where
  reservations := by
    intro a memberA b memberB different
    obtain ⟨r, member, ⟨meets, rfl⟩ | ⟨misses, rfl⟩⟩ := mem_updateWhere.mp memberA <;>
      obtain ⟨r', member', ⟨meets', rfl⟩ | ⟨misses', rfl⟩⟩ := mem_updateWhere.mp memberB
    · obtain rfl := tidy.unique member member' (alone r r' meets meets')
      exact absurd rfl different
    · refine (apart r member meets).1 r' member' fun same => ?_
      obtain rfl := tidy.unique member' member same
      simp [meets] at misses'
    · refine ((apart r' member' meets').1 r member fun same => ?_).symm
      obtain rfl := tidy.unique member member' same
      simp [meets'] at misses
    · exact one.reservations r member r' member' different
  orders := one.orders
  across := by
    intro a memberA o ordered
    obtain ⟨r, member, ⟨meets, rfl⟩ | ⟨-, rfl⟩⟩ := mem_updateWhere.mp memberA
    · exact (apart r member meets).2 o ordered
    · exact one.across r member o ordered

theorem OneEach.sublist (one : db.OneEach) {db' : ReviewDatabase}
    (kept : db'.reservations.Sublist db.reservations) (orders : db'.orders = db.orders) :
    db'.OneEach where
  reservations r member r' member' :=
    one.reservations r (kept.subset member) r' (kept.subset member')
  orders := orders ▸ one.orders
  across r member o ordered := one.across r (kept.subset member) o (orders ▸ ordered)

/-- Processing leaves the columns of an order as they are. -/
theorem proceed_holdings {issued : Token → Prop} (tidy : db.Tidy issued) {o : OrderRow}
    {rows : Database} (member : o ∈ db.orders) (moves : o.rows.Moves rows) :
    (db.proceed o.purchase.id rows).orders.map (·.holding) = db.orders.map (·.holding) := by
  simp only [proceed, List.map_map, List.map_inj_left, comp_apply]
  intro before ordered
  split
  next same =>
    obtain rfl := List.inj_on_of_nodup_map tidy.ids ordered member same
    simp only [OrderRow.holding, OrderRow.purchase, moves.purchase]
  next => rfl

end ReviewDatabase

theorem Reservation.Touched.holding {r r' : Reservation} (touched : r.Touched r') :
    r'.holding = r.holding := by
  simp only [Reservation.holding, touched.requestId, touched.jobId, touched.signatureHash,
    touched.authorizationKey, Reservation.transaction, touched.phase]

theorem OrderRow.Carries.holding {o : OrderRow} {r : Reservation} (carries : o.Carries r) :
    o.holding = r.holding := by
  obtain ⟨settlement, settled, -, transaction⟩ := carries.settled
  simp only [OrderRow.holding, Reservation.holding, carries.requestId, carries.jobId,
    carries.signatureHash, carries.authorizationKey, transaction, Reservation.transaction, settled]

section Changes

variable {issued : List Token} {e : PurchaseEvent} {db db' : ReviewDatabase}
  {presented : String → GatewayPayment → Prop}

/-- The payment of an acquisition was presented with a header. -/
def PurchaseEvent.Presents (e : PurchaseEvent) (presented : String → GatewayPayment → Prop) : Prop :=
  ∀ p payment, e = .acquire p → p.gatewayPayment = some payment → ∃ header, presented header payment

theorem ReviewDatabase.mem_holdings {h : Holding} : h ∈ db.holdings ↔
    (∃ r ∈ db.reservations, r.holding = h) ∨ ∃ o ∈ db.orders, o.holding = h := by
  simp [ReviewDatabase.holdings]

/-- A row taken over has the columns of no order. -/
theorem renewal_apart {p : Purchasing} {existing : Reservation} (tidy : db.Tidy (· ∈ issued))
    (one : db.OneEach) (separates : Holding.Separates presented)
    (traced : ∀ h ∈ db.holdings, h.Traced presented)
    (presents : (PurchaseEvent.acquire p).Presents presented)
    (unordered : db.findOrderByRequestOrJob p.requestId p.jobId = none)
    (own : db.paysForAnother p = false)
    (request : existing.requestId = p.requestId) (job : existing.jobId = p.jobId) {o : OrderRow}
    (ordered : o ∈ db.orders) : (p.renewal existing).holding.Apart o.holding := by
  have unpaid : ∀ payment, p.gatewayPayment = some payment → ¬ o.holding.Pays payment := by
    intro payment given pays
    obtain ⟨header, shown⟩ := presents p payment rfl given
    rcases ReviewDatabase.paysForAnother_eq_false own given with unpaid | ⟨r, memberR, ⟨request', job'⟩,
      ⟨r', member', pays', same⟩ | ⟨o', ordered', same⟩⟩
    · exact unpaid o ordered pays
    · -- the payment's first row is the intended one, and has the order's authorization
      obtain rfl := tidy.unique member' memberR same
      have key := pays.key separates (traced _ (ReviewDatabase.mem_holdings.mpr (.inr ⟨o, ordered, rfl⟩)))
        shown
      have key' := pays'.key separates
        (traced _ (ReviewDatabase.mem_holdings.mpr (.inl ⟨r', member', rfl⟩))) shown
      have apart := (one.across r' member' o ordered).authorizationKey
      simp [key, key', sameKey] at apart
    · exact tidy.distinct r memberR o' ordered' same.symm
  have different := ReviewDatabase.findOrderByRequestOrJob_none.mp unordered o ordered
  refine ⟨?_, ?_, ?_, ?_, ?_⟩
  · exact fun same => different.1 (same.symm.trans request)
  · exact fun same => different.2 (same.symm.trans job)
  · rw [Bool.eq_false_iff, ne_eq, sameKey_iff]
    rintro ⟨hash, new, old⟩
    obtain ⟨payment, given, rfl⟩ := Option.map_eq_some_iff.mp new
    exact unpaid payment given (.inl old)
  · rw [Bool.eq_false_iff, ne_eq, sameKey_iff]
    rintro ⟨key, new, old⟩
    obtain ⟨payment, given, rfl⟩ := Option.map_eq_some_iff.mp new
    exact unpaid payment given (.inr old)
  · rfl

/-- A row inserted has the columns of no order. -/
theorem insertion_apart {p : Purchasing} (unordered : db.findOrderByRequestOrJob p.requestId p.jobId = none)
    (own : db.paysForAnother p = false) (none_ : db.existingReservation p = none) {o : OrderRow}
    (ordered : o ∈ db.orders) : p.reservation.holding.Apart o.holding := by
  have unpaid : ∀ payment, p.gatewayPayment = some payment → ¬ o.holding.Pays payment := by
    intro payment given
    rcases ReviewDatabase.paysForAnother_eq_false own given with unpaid | ⟨r, member, ⟨request, -⟩, -⟩
    · exact unpaid o ordered
    · exact absurd request (ReviewDatabase.existingReservation_none.mp none_ r member).1
  have different := ReviewDatabase.findOrderByRequestOrJob_none.mp unordered o ordered
  refine ⟨different.1.symm, different.2.symm, ?_, ?_, rfl⟩
  · rw [Bool.eq_false_iff, ne_eq, sameKey_iff]
    rintro ⟨hash, new, old⟩
    obtain ⟨payment, given, rfl⟩ := Option.map_eq_some_iff.mp new
    exact unpaid payment given (.inl old)
  · rw [Bool.eq_false_iff, ne_eq, sameKey_iff]
    rintro ⟨key, new, old⟩
    obtain ⟨payment, given, rfl⟩ := Option.map_eq_some_iff.mp new
    exact unpaid payment given (.inr old)

/-- A settlement that is recorded is that of no other row. -/
theorem settled_apart {r : Reservation} {settlement : Settlement} {h : Holding}
    (apart : r.holding.Apart h) (unused : sameKey h.transaction (some settlement.transaction) = false) :
    (r.settle settlement).holding.Apart h :=
  ⟨apart.requestId, apart.jobId, apart.signatureHash, apart.authorizationKey,
    sameKey_comm.trans unused⟩

theorem Change.oneEach (change : Change issued e db db') (tidy : db.Tidy (· ∈ issued))
    (one : db.OneEach) (separates : Holding.Separates presented)
    (traced : ∀ h ∈ db.holdings, h.Traced presented) (presents : e.Presents presented)
    (promoted : ∀ input generated, e ≠ .create input generated) : db'.OneEach := by
  cases change with
  | same => exact one
  | deletes => exact one.sublist List.filter_sublist rfl
  | touches _ keyed touched =>
    refine one.update tidy (fun r r' meets meets' => (keyed r meets).trans (keyed r' meets').symm)
      fun r member meets => ?_
    rw [(touched r meets).holding]
    exact ⟨fun r' member' other => one.reservations r member r' member' other.symm, one.across r member⟩
  | @settles row payment settlement recorded found pending suits unused =>
    simp only [ReviewDatabase.reusedPayment, Bool.or_eq_false_iff, List.any_eq_false,
      Bool.and_eq_true, decide_eq_true_eq, not_and, Bool.not_eq_true] at unused
    refine one.update tidy (by simp +contextual) fun r member meets => ?_
    simp only [Bool.and_eq_true, decide_eq_true_eq] at meets
    -- a settlement that is written twice is refused, whether a reservation has it or an order
    refine ⟨fun r' member' other => ?_, fun o ordered => ?_⟩
    · refine settled_apart (one.reservations r member r' member' other.symm) ?_
      exact unused.1 r' member' (meets.1 ▸ other)
    · exact settled_apart (one.across r member o ordered) (unused.2 o ordered)
  | @renews p existing acquires _ _ _ unordered own found accepted unique =>
    subst acquires
    simp only [Purchasing.refusedBy, Bool.or_eq_false_iff, Bool.not_eq_false', Bool.and_eq_true,
      decide_eq_true_eq] at accepted
    refine one.update tidy (by simp +contextual) fun r member meets => ?_
    simp only [Bool.and_eq_true, decide_eq_true_eq] at meets
    refine ⟨fun r' member' other => ?_, fun o ordered => ?_⟩
    · -- the renewed row has the same request and payment as the one that it replaces
      exact (Reservation.clashes_eq_false.mp (unique r' member' (meets.1 ▸ other))).2.symm
    · exact renewal_apart tidy one separates traced presents unordered own accepted.1.1.1.1.1
        accepted.1.1.1.1.2 ordered
  | @inserts p acquires _ _ unordered own none_ unique =>
    refine ⟨?_, one.orders, ?_⟩
    · simp only [List.mem_append, List.mem_singleton]
      rintro r (member | rfl) r' (member' | rfl) different
      · exact one.reservations r member r' member' different
      · -- the table's own unique indexes keep a new row apart from the others
        exact (Reservation.clashes_eq_false.mp (unique r member)).2
      · exact (Reservation.clashes_eq_false.mp (unique r' member')).2.symm
      · exact absurd rfl different
    · simp only [List.mem_append, List.mem_singleton]
      rintro r (member | rfl) o ordered
      · exact one.across r member o ordered
      · exact insertion_apart unordered own none_ ordered
  | @sells r o member _ carries =>
    refine ⟨?_, ?_, ?_⟩
    · intro a memberA b memberB
      -- the order takes over what the reservation held, and the reservation is gone
      exact one.reservations a (List.mem_of_mem_filter memberA) b (List.mem_of_mem_filter memberB)
    · rw [List.map_append, List.pairwise_append]
      refine ⟨one.orders, List.pairwise_singleton .., ?_⟩
      simp only [List.mem_map, List.map_cons, List.map_nil, List.mem_singleton]
      rintro _ ⟨o', ordered, rfl⟩ _ rfl
      rw [carries.holding]
      exact (one.across r member o' ordered).symm
    · simp only [List.mem_append, List.mem_singleton, List.mem_filter, decide_eq_true_eq]
      rintro a ⟨memberA, other⟩ o' (ordered | rfl)
      · exact one.across a memberA o' ordered
      · rw [carries.holding]
        exact one.reservations a memberA r member other
  | @creates input generated _ created => exact absurd created (promoted input generated)
  | @proceeds o rows ordered moves =>
    have same := ReviewDatabase.proceed_holdings tidy ordered moves
    refine ⟨one.reservations, same ▸ one.orders, fun r member o' inside => ?_⟩
    obtain ⟨before, ordered, same⟩ :=
      List.mem_map.mp (same ▸ List.mem_map_of_mem (f := OrderRow.holding) inside)
    exact same ▸ one.across r member before ordered

theorem Change.traced (change : Change issued e db db') (tidy : db.Tidy (· ∈ issued))
    (traced : ∀ h ∈ db.holdings, h.Traced presented) (presents : e.Presents presented)
    (promoted : ∀ input generated, e ≠ .create input generated) :
    ∀ h ∈ db'.holdings, h.Traced presented := by
  simp only [ReviewDatabase.mem_holdings] at traced ⊢
  have reserved (r : Reservation) (member : r ∈ db.reservations) : r.holding.Traced presented :=
    traced _ (.inl ⟨r, member, rfl⟩)
  have ordered (o : OrderRow) (member : o ∈ db.orders) : o.holding.Traced presented :=
    traced _ (.inr ⟨o, member, rfl⟩)
  have shown {p : Purchasing} (acquires : e = .acquire p) (h : Holding)
      (hash : h.signatureHash = p.gatewayPayment.map (·.signatureHash))
      (key : h.authorizationKey = p.gatewayPayment.map (·.authorizationKey)) : h.Traced presented := by
    cases given : p.gatewayPayment with
    | none =>
      rw [given] at hash key
      exact .inl ⟨hash, key⟩
    | some payment =>
      rw [given] at hash key
      obtain ⟨header, shown⟩ := presents p payment acquires given
      exact .inr ⟨header, payment, shown, hash, key⟩
  rintro h (⟨r', member', rfl⟩ | ⟨o', member', rfl⟩)
  · cases change.stems tidy member' with
    | touched member touched => exact touched.holding ▸ reserved _ member
    | @settled r _ member => exact (reserved r member : r.holding.Traced presented)
    | renewed acquires => exact shown acquires _ rfl rfl
    | inserted acquires => exact shown acquires _ rfl rfl
  · cases change with
    | same | deletes | touches | settles | renews | inserts => exact ordered o' member'
    | sells member _ carries =>
      rcases List.mem_append.mp member' with old | new
      · exact ordered o' old
      · obtain rfl := List.mem_singleton.mp new
        exact carries.holding ▸ reserved _ member
    | creates created => exact absurd created (promoted _ _)
    | proceeds member moves =>
      have same := ReviewDatabase.proceed_holdings tidy member moves
      obtain ⟨before, old, same⟩ :=
        List.mem_map.mp (same ▸ List.mem_map_of_mem (f := OrderRow.holding) member')
      exact same ▸ ordered before old

end Changes

namespace GatewayLibrary

variable (lib : GatewayLibrary)

/-- Orders are created from reservations only, and reservations are made for requests. -/
def Requested : PurchaseEvent → Prop
  | .acquire p => ∃ config request reads, reserveReviewOrder lib config request reads = .ok p
  | .create _ _ => False
  | _ => True

/-- A request of the history has the header, which authorizes the payment. -/
def Presented (history : List (PurchaseState × PurchaseEvent)) (header : String)
    (payment : GatewayPayment) : Prop :=
  ∃ entry ∈ history, ∃ p config, entry.2 = .acquire p ∧ p.gatewayPayment = some payment ∧
    lib.signedPayment config header = .ok payment

/-- No two headers of the history have one hash. -/
def CollisionFree (history : List (PurchaseState × PurchaseEvent)) : Prop :=
  ∀ header header' payment payment', lib.Presented history header payment →
    lib.Presented history header' payment' → lib.keccak256 header = lib.keccak256 header' →
      header = header'

def Authorized (h : Holding) (payer : Address) (nonce : String) : Prop :=
  h.authorizationKey = some (lib.gatewayAuthorizationKey payer nonce)

/-- The rows are paid by one authorization, up to the case of its nonce. -/
def SameAuthorization (a b : Holding) : Prop :=
  ∃ payer nonce nonce', nonce.toLower = nonce'.toLower ∧ lib.Authorized a payer nonce ∧
    lib.Authorized b payer nonce'

end GatewayLibrary

/-- What the row of a request holds. -/
structure Reservation.Sound (lib : GatewayLibrary) (r : Reservation) : Prop where
  network : blank r.quote.network = false
  settled : ∀ settlement, r.phase = .settled settlement → r.Suits settlement
  authorization : ∀ payment, r.payment = some payment →
    payment.authorizationKey = lib.gatewayAuthorizationKey payment.payer payment.nonce
  provenance : ∃ content job, r.intent = some
      { requestId := some r.requestId, jobId := some r.jobId, content := some content
        validatedJob := some job } ∧
    job.jobId = r.jobId ∧ truthy job.escalationReasonCode = true ∧
      truthy job.escalationCause = true

section Requests

variable {lib : GatewayLibrary} {issued : List Token} {e : PurchaseEvent}
  {db db' : ReviewDatabase} {p : Purchasing}

theorem parseGatewayPaymentReservation_ok {config : ReviewServiceConfig} {header : Option String}
    {payment : GatewayPayment}
    (done : lib.parseGatewayPaymentReservation config header = .ok (some payment)) :
    ∃ text, header = some text ∧ lib.signedPayment config text = .ok payment := by
  unfold GatewayLibrary.parseGatewayPaymentReservation at done
  split at done
  next => cases done
  next text =>
    split at done
    next => cases done
    next =>
      simp only [bind_ok, pure_ok, Option.some.injEq] at done
      obtain ⟨_, signed, rfl⟩ := done
      exact ⟨text, rfl, signed⟩

/-- A request carries its own job, verified, and a payment that its header authorizes. -/
theorem requested_ok (requested : lib.Requested (.acquire p)) :
    (∃ content job, p.intent = some
        { requestId := some p.requestId, jobId := some p.jobId, content := some content
          validatedJob := some job } ∧
      job.jobId = p.jobId ∧ truthy job.escalationReasonCode = true ∧
        truthy job.escalationCause = true) ∧
    ∀ payment, p.gatewayPayment = some payment →
      ∃ config header, lib.signedPayment config header = .ok payment := by
  obtain ⟨config, request, reads, done⟩ := requested
  simp only [reserveReviewOrder, bind_ok, pure_ok] at done
  obtain ⟨payment, parsed, rfl⟩ := done
  obtain ⟨same, code, cause⟩ := verifiedEscalationJob_ok request.verified
  refine ⟨⟨request.content, request.job, rfl, same.trans request.own, code, cause⟩, ?_⟩
  rintro payment rfl
  obtain ⟨header, -, signed⟩ := parseGatewayPaymentReservation_ok parsed
  exact ⟨config, header, signed⟩

theorem Reservation.SamePurchase.authorization {r r' : Reservation} (same : r.SamePurchase r')
    {payment' : GatewayPayment} (given' : r'.payment = some payment') :
    ∃ payment, r.payment = some payment ∧ payment.authorizationKey = payment'.authorizationKey ∧
      payment.payer = payment'.payer ∧ payment.nonce = payment'.nonce := by
  have key := same.authorizationKey
  have payer := same.payer
  have nonce := same.nonce
  simp only [Reservation.authorizationKey, Reservation.payer, given', Option.map_some] at key payer nonce
  cases given : r.payment with
  | none => simp [given] at key
  | some payment =>
    simp only [given, Option.map_some, Option.some.injEq] at key payer nonce
    exact ⟨payment, rfl, key.symm, payer.symm, nonce.symm⟩

theorem Stems.sound {r' : Reservation} (stems : Stems issued e db r')
    (sound : ∀ r ∈ db.reservations, r.Sound lib) (requested : lib.Requested e) : r'.Sound lib := by
  cases stems with
  | touched member touched =>
    have old := sound _ member
    refine ⟨touched.quote ▸ old.network, fun settlement settled => ?_, fun payment' given' => ?_, ?_⟩
    · have suits := old.settled settlement (touched.phase ▸ settled)
      exact ⟨touched.quote ▸ suits.amount, touched.quote ▸ suits.network,
        touched.payer ▸ suits.payer, suits.transaction⟩
    · obtain ⟨payment, given, key, payer, nonce⟩ := touched.authorization given'
      rw [← key, ← payer, ← nonce]
      exact old.authorization payment given
    · rw [touched.intent, touched.requestId, touched.jobId]
      exact old.provenance
  | @settled r settlement member suits =>
    have old := sound _ member
    refine ⟨old.network, fun other settled => ?_, old.authorization, old.provenance⟩
    cases settled
    exact ⟨suits.amount, suits.network, suits.payer, suits.transaction⟩
  | @renewed p existing acquires _ member accepted =>
    subst acquires
    have old := sound _ member
    obtain ⟨⟨content, job, given, same⟩, signed⟩ := requested_ok requested
    simp only [Purchasing.refusedBy, Bool.or_eq_false_iff, Bool.not_eq_false', Bool.and_eq_true,
      decide_eq_true_eq] at accepted
    refine ⟨old.network, fun settlement settled => ?_, fun payment paid => ?_, content, job, ?_, ?_⟩
    · cases settled
    · obtain ⟨config, header, signed⟩ := signed payment paid
      exact GatewayLibrary.signedPayment_authorizationKey signed
    · simp only [Purchasing.renewal, given, coalesce, accepted.1.1.1.1.1, accepted.1.1.1.1.2]
    · exact ⟨same.1.trans accepted.1.1.1.1.2.symm, same.2⟩
  | @inserted p acquires _ network =>
    subst acquires
    obtain ⟨⟨content, job, given, same⟩, signed⟩ := requested_ok requested
    refine ⟨network, fun settlement settled => ?_, fun payment paid => ?_, content, job, given, same⟩
    · cases settled
    · obtain ⟨config, header, signed⟩ := signed payment paid
      exact GatewayLibrary.signedPayment_authorizationKey signed

end Requests

section Promotion

variable {lib : GatewayLibrary} {db : ReviewDatabase} {issued : List Token} {r : Reservation}
  {settlement : Settlement}

/-- The order that a settled reservation is promoted to. -/
def Reservation.input (r : Reservation) (settlement : Settlement) (content : String)
    (job : ValidatedReviewJob) : CreateReviewOrderInput :=
  { requestId := r.requestId
    deliverableContent := content
    job
    payment :=
      { payer := settlement.payer, amount := settlement.amount, network := settlement.network
        transaction := some settlement.transaction }
    reviewPrice := r.quote.reviewPrice
    reward := r.quote.reward
    reservationToken := some r.token }

theorem ne_empty_of_unblank {text : String} (unblank : blank text = false) : text ≠ "" := by
  rintro rfl
  cases unblank

theorem Reservation.Sound.orderInput (sound : r.Sound lib) (settled : r.phase = .settled settlement) :
    ∃ content job, r.orderInput settlement = .ok (r.input settlement content job) ∧
      job.jobId = r.jobId ∧ truthy job.escalationReasonCode = true ∧
        truthy job.escalationCause = true := by
  obtain ⟨content, job, given, same, provenance⟩ := sound.provenance
  have suits := sound.settled settlement settled
  refine ⟨content, job, ?_, same, provenance⟩
  simp only [Reservation.orderInput, bind_ok, demand_ok, revertIf_ok, exists_const, pure_ok, given,
    Option.some.injEq, exists_eq_left', not_or, not_not]
  have network := ne_empty_of_unblank sound.network
  exact ⟨⟨suits.network ▸ network, ne_empty_of_unblank suits.transaction, network⟩,
    ⟨trivial, trivial⟩, same, rfl⟩

theorem settledReservation_of (tidy : db.Tidy (· ∈ issued)) (member : r ∈ db.reservations)
    {input : CreateReviewOrderInput} (token : input.reservationToken = some r.token)
    (request : r.requestId = input.requestId) (job : r.jobId = input.job.jobId)
    (settled : r.phase = .settled settlement)
    (quoted : r.quote = ⟨input.reviewPrice, input.reward, input.payment.network⟩)
    (payer : ∀ payer, r.payer = some payer → payer = input.payment.payer)
    (paid : input.payment = ⟨settlement.payer, settlement.amount, settlement.network,
      some settlement.transaction⟩) (amount : input.payment.amount = r.quote.reviewPrice) :
    db.settledReservation input = .ok (some r) := by
  unfold ReviewDatabase.settledReservation
  rw [token]
  simp only [bind_ok, demand_ok]
  refine ⟨r, tidy.find (by simp +contextual) member (by simp [request, job]), ?_⟩
  rw [settled]
  simp only [bind_ok, revertIf_ok, exists_const, pure_ok, and_true]
  rintro (quote | ⟨other, given, different⟩ | payment | price)
  · exact quote quoted
  · exact different (payer other given)
  · exact payment paid
  · exact price amount

/-- A settled reservation is promoted, whatever is generated for its order. -/
theorem promote_settled (tidy : db.Tidy (· ∈ issued)) (one : db.OneEach) (sound : r.Sound lib)
    (member : r ∈ db.reservations) (settled : r.phase = .settled settlement) {generated : OrderKeys}
    (fresh : generated.id ∉ issued) (keys : ∀ o ∈ db.orders, ∀ operation other,
      (o.rows.order.circle operation).key ≠ generated.keys other) :
    ∃ o, o.Carries r ∧ db.promoteReviewReservation r.token generated = .ok (some (o, true),
      { reservations := db.reservations.filter (·.token ≠ r.token), orders := db.orders ++ [o] }) := by
  obtain ⟨content, job, read, own, code, cause⟩ := sound.orderInput settled
  have suits := sound.settled settlement settled
  have carries : ((r.input settlement content job).order (some r) generated).Carries r :=
    order_carries rfl own.symm settled (by simp [Reservation.input, suits.network]) suits.payer rfl
  refine ⟨_, carries, ?_⟩
  -- no order has the request, the job or the payment of a row that is still reserved
  have unordered : db.findOrderByRequestOrJob r.requestId job.jobId = none := by
    rw [own, ReviewDatabase.findOrderByRequestOrJob_none]
    intro o ordered
    have apart := one.across r member o ordered
    exact ⟨apart.requestId.symm, apart.jobId.symm⟩
  have unique : db.orders.any (·.clashes ((r.input settlement content job).order (some r) generated)) =
      false := by
    rw [List.any_eq_false]
    intro o ordered
    have apart := (one.across r member o ordered).symm
    rw [← carries.holding] at apart
    have other : o.purchase.id ≠ generated.id := fun same => fresh (same ▸ tidy.ordered o ordered)
    simp only [OrderRow.clashes, Bool.or_eq_true, decide_eq_true_eq, List.any_eq_true, not_or,
      not_exists, not_and]
    refine ⟨⟨⟨⟨⟨⟨other, apart.requestId⟩, apart.jobId⟩, ?_⟩, ?_⟩, ?_⟩, fun operation _ => ?_⟩
    · exact Bool.eq_false_iff.mp apart.transaction
    · exact Bool.eq_false_iff.mp apart.signatureHash
    · exact Bool.eq_false_iff.mp apart.authorizationKey
    · exact keys o ordered operation operation
  simp only [ReviewDatabase.promoteReviewReservation, tidy.found member, settled, bind_ok, pure_ok]
  refine ⟨_, read, ⟨(_, true), _⟩, ?_, rfl⟩
  unfold ReviewDatabase.createOrder
  rw [show (r.input settlement content job).requestId = r.requestId from rfl,
    show (r.input settlement content job).job = job from rfl, unordered]
  simp only [bind_ok, revertIf_ok, exists_const, pure_ok]
  refine ⟨some r, settledReservation_of tidy member rfl rfl own.symm settled
    (by simp [Reservation.input, suits.network]) suits.payer rfl suits.amount, by simp [code, cause],
    by simp [unique], ?_⟩
  simp only [Reservation.input, ne_eq, Option.some.injEq, eq_comm (a := r.token)]

end Promotion

section Runs

variable {lib : GatewayLibrary} {config : TreasuryConfig} {balance : Nat} {s : PurchaseState}
  {history : List (PurchaseState × PurchaseEvent)}

/-- What holds of the tables when every purchase is one of a request. -/
structure ReviewDatabase.Paired (lib : GatewayLibrary) (presented : String → GatewayPayment → Prop)
    (db : ReviewDatabase) : Prop where
  oneEach : db.OneEach
  traced : ∀ h ∈ db.holdings, h.Traced presented
  sound : ∀ r ∈ db.reservations, r.Sound lib

variable {presented presented' : String → GatewayPayment → Prop} {db db' : ReviewDatabase}

theorem ReviewDatabase.Paired.sublist (paired : db.Paired lib presented)
    (kept : db'.reservations.Sublist db.reservations) (orders : db'.orders = db.orders) :
    db'.Paired lib presented where
  oneEach := paired.oneEach.sublist kept orders
  traced h member := by
    refine paired.traced h ?_
    rw [ReviewDatabase.mem_holdings] at member ⊢
    rcases member with ⟨r, member, rfl⟩ | ⟨o, member, rfl⟩
    · exact .inl ⟨r, kept.subset member, rfl⟩
    · exact .inr ⟨o, orders ▸ member, rfl⟩
  sound r member := paired.sound r (kept.subset member)

theorem ReviewDatabase.Paired.mono (paired : db.Paired lib presented)
    (more : ∀ header payment, presented header payment → presented' header payment) :
    db.Paired lib presented' where
  oneEach := paired.oneEach
  traced h member := by
    rcases paired.traced h member with empty | ⟨header, payment, given, columns⟩
    · exact .inl empty
    · exact .inr ⟨header, payment, more header payment given, columns⟩
  sound := paired.sound

theorem GatewayLibrary.CollisionFree.separates (collisionFree : lib.CollisionFree history) :
    Holding.Separates (lib.Presented history) := by
  intro header payment header' payment' given given' same
  have given₀ := given
  have given₀' := given'
  obtain ⟨_, _, _, config, _, _, signed⟩ := given
  obtain ⟨_, _, _, config', _, _, signed'⟩ := given'
  rw [signedPayment_signatureHash signed, signedPayment_signatureHash signed'] at same
  obtain rfl := collisionFree header header' payment payment' given₀ given₀' same
  rw [signedPayment_unique signed signed']

theorem paired_step {e : PurchaseEvent} (tidy : s.db.Tidy (· ∈ s.issued))
    (paired : s.db.Paired lib presented) (separates : Holding.Separates presented)
    (presents : e.Presents presented) (requested : lib.Requested e)
    (admitted : (purchases config balance).admits s e) :
    ((purchases config balance).next s e).db.Paired lib presented := by
  obtain ⟨swept, begins, change⟩ := step_change admitted
  have tidy := tidy.sublist begins.sublist begins.orders
  have paired := paired.sublist begins.sublist begins.orders
  have promoted : ∀ input generated, e ≠ .create input generated := by
    rintro input generated rfl
    exact requested
  exact
    { oneEach := change.oneEach tidy paired.oneEach separates paired.traced presents promoted
      traced := change.traced tidy paired.traced presents promoted
      sound := fun r member => (change.stems tidy member).sound paired.sound requested }

theorem paired_run (run : Run (purchases config balance) {} history s)
    (requested : ∀ entry ∈ history, lib.Requested entry.2)
    (collisionFree : lib.CollisionFree history) : s.db.Paired lib (lib.Presented history) := by
  refine run.historyInvariant (fun history s => (∀ entry ∈ history, lib.Requested entry.2) →
    lib.CollisionFree history → s.db.Paired lib (lib.Presented history)) ?_ ?_ requested
    collisionFree
  · exact fun _ _ => ⟨⟨by simp, by simp, by simp⟩, by simp [ReviewDatabase.holdings], by simp⟩
  · intro history s e run ih admitted requested collisionFree
    have older : ∀ header payment, lib.Presented history header payment →
        lib.Presented ((s, e) :: history) header payment := fun header payment ⟨entry, past, given⟩ =>
      ⟨entry, List.mem_cons_of_mem _ past, given⟩
    have paired := ih (fun entry past => requested entry (List.mem_cons_of_mem _ past))
      fun header header' payment payment' given given' =>
        collisionFree header header' payment payment' (older _ _ given) (older _ _ given')
    have now := requested (s, e) List.mem_cons_self
    refine paired_step (tidy_run run) (paired.mono older) collisionFree.separates ?_ now admitted
    rintro p payment rfl given
    obtain ⟨config, header, signed⟩ := (requested_ok now).2 payment given
    exact ⟨header, (s, .acquire p), List.mem_cons_self, p, config, rfl, given, signed⟩

theorem ReviewDatabase.OneEach.pairwise {issued : Token → Prop} (one : db.OneEach)
    (tidy : db.Tidy issued) : db.holdings.Pairwise Holding.Apart := by
  rw [ReviewDatabase.holdings, List.pairwise_append]
  refine ⟨?_, one.orders, ?_⟩
  · rw [List.pairwise_map]
    have distinct := tidy.tokens
    rw [List.Nodup, List.pairwise_map] at distinct
    exact distinct.imp_of_mem fun member member' different =>
      one.reservations _ member _ member' different
  · simp only [List.mem_map]
    rintro _ ⟨r, member, rfl⟩ _ ⟨o, ordered, rfl⟩
    exact one.across r member o ordered

theorem Holding.Apart.authorization {a b : Holding} (apart : a.Apart b) :
    ¬ lib.SameAuthorization a b := by
  rintro ⟨payer, nonce, nonce', same, authorized, authorized'⟩
  have key : lib.gatewayAuthorizationKey payer nonce = lib.gatewayAuthorizationKey payer nonce' := by
    rw [GatewayLibrary.gatewayAuthorizationKey, same, GatewayLibrary.gatewayAuthorizationKey]
  rw [GatewayLibrary.Authorized, key] at authorized
  rw [GatewayLibrary.Authorized] at authorized'
  exact absurd apart.authorizationKey (by simp [authorized, authorized', sameKey])

/-- No two rows, among the orders and the reservations together, stand for one payment, a
reservation is held under the authorization of its payment, and a settled one can be promoted to an
order that carries its transaction. -/
theorem one_payment (run : Run (purchases config balance) {} history s)
    (requested : ∀ entry ∈ history, lib.Requested entry.2)
    (collisionFree : lib.CollisionFree history) :
    s.db.holdings.Pairwise (fun a b => a.Apart b ∧ ¬ lib.SameAuthorization a b) ∧
    (∀ r ∈ s.db.reservations, ∀ payment, r.payment = some payment →
      lib.Authorized r.holding payment.payer payment.nonce) ∧
    ∀ r ∈ s.db.reservations, ∀ settlement generated, r.phase = .settled settlement →
      s.Fresh generated → ∃ o, o.Carries r ∧
        o.purchase.gatewayTransaction = some settlement.transaction ∧
        s.db.promoteReviewReservation r.token generated = .ok (some (o, true),
          { reservations := s.db.reservations.filter (·.token ≠ r.token)
            orders := s.db.orders ++ [o] }) := by
  have tidy := tidy_run run
  have paired := paired_run run requested collisionFree
  refine ⟨?_, ?_, ?_⟩
  · exact (paired.oneEach.pairwise tidy).imp fun apart => ⟨apart, apart.authorization⟩
  · intro r member payment given
    rw [GatewayLibrary.Authorized, ← (paired.sound r member).authorization payment given]
    simp [Reservation.holding, Reservation.authorizationKey, given]
  · intro r member settlement generated settled fresh
    obtain ⟨o, carries, promoted⟩ :=
      promote_settled tidy paired.oneEach (paired.sound r member) member settled fresh.1 fresh.2
    refine ⟨o, carries, ?_, promoted⟩
    obtain ⟨settlement', settled', -, transaction⟩ := carries.settled
    cases settled.symm.trans settled'
    exact transaction

end Runs

namespace PurchaseWalkthrough

def seller : Address := 0x40

def client : Address := 0x20

def usdc : Address := 0x41

/-- The texts of addresses without letters, which need no checksum. -/
def addressText (a : Address) : String :=
  if a = seller then "0x0000000000000000000000000000000000000040"
  else if a = client then "0x0000000000000000000000000000000000000020"
  else "0x0000000000000000000000000000000000000041"

/-- A hexadecimal text of one digit. -/
def hexText (length : Nat) : String := String.ofList ('0' :: 'x' :: List.replicate length '5')

/-- The quote that the header accepts. -/
def accepted : PaymentJson := .object
  [("network", .string "arc"), ("scheme", .string "exact"), ("asset", .string (addressText usdc)),
    ("amount", .string "100"), ("payTo", .string (addressText seller)),
    ("maxTimeoutSeconds", .number 345600),
    ("extra", .object [("name", .string "GatewayWalletBatched"), ("version", .string "1"),
      ("verifyingContract", .string (addressText usdc))])]

/-- The header's content. -/
def authorized : PaymentJson := .object
  [("x402Version", .number 2), ("accepted", accepted),
    ("payload", .object
      [("signature", .string (hexText 130)),
        ("authorization", .object
          [("from", .string (addressText client)), ("to", .string (addressText seller)),
            ("value", .string "100"), ("validAfter", .string "0"), ("validBefore", .string "500"),
            ("nonce", .string (hexText 64))])])]

def library : GatewayLibrary where
  keccak256 text := text.toList.foldl (fun hash c => 1114112 * hash + c.toNat) 1
  addressText := addressText
  decodeHeader header := if header = "eyJ4NDAy" then some authorized else none
  parseAddress text := [client, seller, usdc].find? fun a => text = addressText a
  isHex text := text.toList.take 2 = ['0', 'x'] && (text.toList.drop 2).all (·.isDigit)
  authValidityWindowSeconds := 345600

def serviceConfig : ReviewServiceConfig :=
  { config with gatewayNetwork := "arc", sellerAddress := some seller, usdcTokenAddress := usdc }

def request : ReviewRequest library.toLibrary where
  requestId := "request"
  jobId := 5
  content := "report"
  paymentSignature := some "eyJ4NDAy"
  getAIEvidence _ := none
  chainJob := { job 5 with escalationReasonHash := library.keccak256 humanLaneReason }
  job :=
    { job 5 with
      escalationReasonHash := library.keccak256 humanLaneReason
      escalationReasonCode := some ReasonCode.humanLaneRequested.name
      escalationCause := some humanLaneReason }
  own := rfl
  verified := by simp [verifiedEscalationJob, pure, Except.pure]

def reads : Reads :=
  { sweptAt := 1000, timestamp := 1000, checkedAt := 1001, leasedAt := 1002, randomUUID := 7 }

def reserved : Except Failure Purchasing := reserveReviewOrder library serviceConfig request reads

theorem reserved_isSome : reserved.toOption.isSome = true := by decide +kernel

def requested : Purchasing := reserved.toOption.get reserved_isSome

theorem reserved_ok : reserveReviewOrder library serviceConfig request reads = .ok requested := by
  have some_ : reserved.toOption = some requested := (Option.some_get reserved_isSome).symm
  cases done : reserved with
  | error failure => simp [done, Except.toOption] at some_
  | ok p =>
    simp only [done, Except.toOption, Option.some.injEq] at some_
    rw [← some_]
    exact done

def paidFor : List PurchaseEvent :=
  [.acquire requested, marking 7 2000, .record 7 { settlement with payer := client }]

theorem paidFor_requested :
    ∀ entry ∈ system.record {} [] paidFor, library.Requested entry.2 := by
  intro entry member
  simp only [System.record, paidFor, List.mem_cons, List.not_mem_nil, or_false] at member
  rcases member with rfl | rfl | rfl
  · trivial
  · trivial
  · exact ⟨serviceConfig, request, reads, reserved_ok⟩

theorem library_collisionFree (history : List (PurchaseState × PurchaseEvent)) :
    library.CollisionFree history := by
  have only (header : String) (payment : GatewayPayment)
      (given : library.Presented history header payment) : header = "eyJ4NDAy" := by
    obtain ⟨_, _, _, _, _, _, signed⟩ := given
    obtain ⟨_, _, _, _, _, _, _, holds, -⟩ := GatewayLibrary.signedPayment_ok signed
    by_contra other
    simp [library, other] at holds
  intro header header' payment payment' given given' _
  rw [only header payment given, only header' payment' given']

end PurchaseWalkthrough

open PurchaseWalkthrough in
theorem one_payment_walkthrough :
    (system.replay {} paidFor).db.holdings.Pairwise
      (fun a b => a.Apart b ∧ ¬ library.SameAuthorization a b) ∧
    (∀ r ∈ (system.replay {} paidFor).db.reservations, ∀ payment, r.payment = some payment →
      library.Authorized r.holding payment.payer payment.nonce) ∧
    ∀ r ∈ (system.replay {} paidFor).db.reservations, ∀ settlement generated,
      r.phase = .settled settlement → (system.replay {} paidFor).Fresh generated →
      ∃ o, o.Carries r ∧ o.purchase.gatewayTransaction = some settlement.transaction ∧
        (system.replay {} paidFor).db.promoteReviewReservation r.token generated =
          .ok (some (o, true),
            { reservations := (system.replay {} paidFor).db.reservations.filter (·.token ≠ r.token)
              orders := (system.replay {} paidFor).db.orders ++ [o] }) :=
  one_payment
    (system.replay_run .refl paidFor ⟨admits_acquire (by decide +kernel), trivial, trivial, trivial⟩)
    paidFor_requested (library_collisionFree _)

end VapiArc.Review
