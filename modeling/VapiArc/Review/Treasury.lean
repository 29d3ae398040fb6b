import VapiArc.Lib.Admission
import VapiArc.Review.ReservationKept

/-!
# The treasury covers the purchases it admits

A purchase counts the reservations that were created before its own, and of those created
in the same millisecond the ones with smaller tokens. The reservations that have been
admitted are covered as long as no later row is put in front of one of them.
-/
namespace VapiArc.Review

open Checked Function Transition Admission

namespace Reservation

variable {now now' : Timestamp} {r r' : Reservation}

/-- What the reservation adds to the obligations of the treasury. -/
def weight (now : Timestamp) (r : Reservation) : Nat := if r.counted now then r.liability else 0

theorem precedes_iff : r.precedes r' = true ↔
    r.createdAt < r'.createdAt ∨ r.createdAt = r'.createdAt ∧ r.token ≤ r'.token := by
  simp [precedes]

theorem precedes_trans (a b c : Reservation) (first : a.precedes b = true)
    (second : b.precedes c = true) : a.precedes c = true := by
  rw [precedes_iff] at first second ⊢
  rcases first with earlier | ⟨same, less⟩
  · rcases second with earlier' | ⟨same', -⟩
    · exact .inl (earlier.trans earlier')
    · exact .inl (earlier.trans_eq same')
  · rcases second with earlier' | ⟨same', less'⟩
    · exact .inl (same.trans_lt earlier')
    · exact .inr ⟨same.trans same', less.trans less'⟩

theorem precedes_total (a b : Reservation) : a.precedes b = true ∨ b.precedes a = true := by
  rw [precedes_iff, precedes_iff]
  rcases lt_trichotomy a.createdAt b.createdAt with earlier | same | later
  · exact .inl (.inl earlier)
  · exact (le_total a.token b.token).imp (fun less => .inr ⟨same, less⟩)
      fun less => .inr ⟨same.symm, less⟩
  · exact .inr (.inl later)

theorem precedes_refl (a : Reservation) : a.precedes a = true := (precedes_total a a).elim id id

/-- Time only lets reservations run out. -/
theorem counted_antitone (later : now ≤ now') (counted : r.counted now' = true) :
    r.counted now = true := by
  simp only [Reservation.counted, Bool.or_eq_true, decide_eq_true_eq] at counted ⊢
  exact counted.imp_right later.trans_lt

theorem weight_antitone (later : now ≤ now') (r : Reservation) : r.weight now' ≤ r.weight now := by
  unfold weight
  split
  next counted => rw [if_pos (counted_antitone later counted)]
  next => exact Nat.zero_le _

theorem weight_le (now : Timestamp) (r : Reservation) : r.weight now ≤ r.liability := by
  unfold weight
  split
  · exact Nat.le_refl _
  · exact Nat.zero_le _

end Reservation

section Counting

variable {db : ReviewDatabase} {now : Timestamp} {r : Reservation}

theorem sum_counted (items : List Reservation) (now : Timestamp) (m : Reservation) :
    ((items.filter fun r => r.counted now && r.precedes m).map (·.liability)).sum =
      through Reservation.precedes (·.weight now) items m := by
  induction items with
  | nil => rfl
  | cons first items ih =>
    rw [through_cons, List.filter_cons, ← ih]
    cases counted : first.counted now <;> cases front : first.precedes m <;>
      simp [Reservation.weight, counted]

/-- A check that passes has counted the row and those before it. -/
theorem treasuryReady_row {config : TreasuryConfig} {balance : Nat} {token : Token}
    (ready : db.treasuryReady config balance token now = true) :
    ∃ m, db.findReservation token = some m ∧
      db.activeLiability + through Reservation.precedes (·.weight now) db.reservations m ≤ balance := by
  unfold ReviewDatabase.treasuryReady at ready
  split at ready
  next required counted =>
    simp only [ReviewDatabase.requiredTreasuryBalance,
      ReviewDatabase.reviewReservationLiabilityThrough, bind_ok, pure_ok, demand_ok] at counted
    obtain ⟨reservations, ⟨m, found, _, rfl, rfl⟩, rfl⟩ := counted
    refine ⟨m, found, ?_⟩
    simp only [decide_eq_true_eq, Option.isSome_some, if_true, Nat.add_zero] at ready
    rw [← sum_counted]
    exact (Nat.le_max_left _ _).trans ready
  next => cases ready

end Counting

/-- Callers go by the clock, settle only what the treasury has admitted, and record or put off
only what they have begun to settle. -/
def PurchaseState.Follows (s : PurchaseState) : PurchaseEvent → Prop
  | .acquire p => s.clock ≤ p.sweptAt ∧ p.sweptAt ≤ p.timestamp ∧ p.timestamp ≤ p.checkedAt ∧
    p.checkedAt ≤ p.leasedAt
  | .mark token _ _ now => s.clock ≤ now ∧ token ∈ s.admitted
  | .discard now | .check _ now => s.clock ≤ now
  | .defer token _ _ now => s.clock ≤ now ∧
    ∀ r ∈ s.db.reservations, r.token = token → r.mayBePaid = true
  | .record token _ => ∀ r ∈ s.db.reservations, r.token = token → r.mayBePaid = true
  | .promote _ generated | .reconcile _ generated => s.clock ≤ generated.timestamp
  | .release _ | .proceed _ _ => True
  | .create _ _ => False

instance (s : PurchaseState) : (e : PurchaseEvent) → Decidable (s.Follows e)
  | .acquire _ => inferInstanceAs (Decidable (_ ∧ _ ∧ _ ∧ _))
  | .mark .. => inferInstanceAs (Decidable (_ ∧ _))
  | .discard _ | .check _ _ => inferInstanceAs (Decidable (_ ≤ _))
  | .defer .. => inferInstanceAs (Decidable (_ ∧ ∀ r ∈ s.db.reservations, _))
  | .record .. => inferInstanceAs (Decidable (∀ r ∈ s.db.reservations, _))
  | .promote .. | .reconcile .. => inferInstanceAs (Decidable (_ ≤ _))
  | .release _ | .proceed _ _ => .isTrue trivial
  | .create _ _ => .isFalse id

/-- What has been reserved for the purchases that the treasury has admitted. -/
def PurchaseState.admittedLiability (s : PurchaseState) : Nat :=
  ((s.db.reservations.filter fun r => r.token ∈ s.admitted && r.counted s.clock).map
    (·.liability)).sum

/-- The row that an acquisition writes. -/
def Purchasing.written (p : Purchasing) : Option Reservation → Reservation
  | none => p.reservation
  | some existing => p.renewal existing

/-- An acquisition is granted a row in front of an admitted one, where no row was that it
takes over. -/
def PurchaseState.Overtakes (s : PurchaseState) (p : Purchasing) : Prop :=
  (∃ token db, s.db.acquireReviewReservation p = .ok (.acquired token, db)) ∧
    ∃ m ∈ (s.db.discardAbandoned p.sweptAt).reservations, m.token ∈ s.admitted ∧
      m.counted p.leasedAt = true ∧
      (p.written ((s.db.discardAbandoned p.sweptAt).existingReservation p)).precedes m = true ∧
      ∀ existing, (s.db.discardAbandoned p.sweptAt).existingReservation p = some existing →
        existing.precedes m = false

/-- The orders, and each admitted row with all that it counts, are covered. -/
structure ReviewDatabase.Covered (db : ReviewDatabase) (admitted : List Token) (now : Timestamp)
    (balance : Nat) : Prop where
  orders : db.activeLiability ≤ balance
  rows : ∀ m ∈ db.reservations, m.token ∈ admitted → m.counted now = true →
    db.activeLiability + through Reservation.precedes (·.weight now) db.reservations m ≤ balance

namespace ReviewDatabase.Covered

variable {db : ReviewDatabase} {admitted : List Token} {now now' : Timestamp} {balance : Nat}

/-- The rows change, and none of them gets in front of an admitted one or heavier. -/
theorem map (covered : db.Covered admitted now balance) {change : Reservation → Reservation}
    (old : ∀ m ∈ db.reservations, (change m).token ∈ admitted → (change m).counted now' = true →
      m.token ∈ admitted ∧ m.counted now = true)
    (behind : ∀ m ∈ db.reservations, (change m).token ∈ admitted →
      (change m).counted now' = true → ∀ x ∈ db.reservations,
        (change x).precedes (change m) = true →
          x.precedes m = true ∧ (change x).weight now' ≤ x.weight now) :
    ReviewDatabase.Covered { db with reservations := db.reservations.map change } admitted now'
      balance where
  orders := covered.orders
  rows := by
    intro m' member' known counted
    obtain ⟨m, member, rfl⟩ := List.mem_map.mp member'
    obtain ⟨known', counted'⟩ := old m member known counted
    exact (Nat.add_le_add_left (through_map (behind m member known counted)) _).trans
      (covered.rows m member known' counted')

theorem later (covered : db.Covered admitted now balance) (later : now ≤ now') :
    db.Covered admitted now' balance := by
  have same : ReviewDatabase.Covered { db with reservations := db.reservations.map id } admitted
      now' balance := covered.map
    (fun m _ known counted => ⟨known, Reservation.counted_antitone later counted⟩)
    fun m _ _ _ x _ front => ⟨front, x.weight_antitone later⟩
  simpa using same

theorem sublist (covered : db.Covered admitted now balance) {db' : ReviewDatabase}
    (kept : db'.reservations.Sublist db.reservations) (orders : db'.orders = db.orders) :
    db'.Covered admitted now balance := by
  have active : db'.activeLiability = db.activeLiability := by
    rw [ReviewDatabase.activeLiability, orders, ReviewDatabase.activeLiability]
  refine ⟨active ▸ covered.orders, fun m member known counted => ?_⟩
  rw [active]
  exact (Nat.add_le_add_left (through_sublist kept) _).trans
    (covered.rows m (kept.subset member) known counted)

/-- A row is added behind the admitted ones. -/
theorem insert (covered : db.Covered admitted now balance) {r : Reservation}
    (new : r.token ∉ admitted)
    (behind : ∀ m ∈ db.reservations, m.token ∈ admitted → m.counted now = true →
      r.precedes m = false) :
    ReviewDatabase.Covered { db with reservations := db.reservations ++ [r] } admitted now
      balance := by
  refine ⟨covered.orders, fun m member known counted => ?_⟩
  rcases List.mem_append.mp member with old | same
  · have free : through Reservation.precedes (·.weight now) [r] m = 0 := by
      simp [through, behind m old known counted]
    rw [through_append, free]
    exact covered.rows m old known counted
  · rw [List.mem_singleton.mp same] at known
    exact absurd known new

/-- The orders owe no more than before. -/
theorem proceed (covered : db.Covered admitted now balance) {orders : List OrderRow}
    (less : ReviewDatabase.activeLiability { db with orders } ≤ db.activeLiability) :
    ReviewDatabase.Covered { db with orders } admitted now balance where
  orders := less.trans covered.orders
  rows m member known counted :=
    (Nat.add_le_add_right less _).trans (covered.rows m member known counted)

/-- An order takes the place of its reservation. -/
theorem sell (covered : db.Covered admitted now balance) {r : Reservation} {o : OrderRow}
    (member : r ∈ db.reservations)
    (known : r.token ∈ admitted) (counted : r.counted now = true)
    (same : o.rows.order.liability = r.liability) :
    ReviewDatabase.Covered
      { reservations := db.reservations.filter (·.token ≠ r.token), orders := db.orders ++ [o] }
      admitted now balance := by
  have active : ReviewDatabase.activeLiability
      { reservations := db.reservations.filter (·.token ≠ r.token), orders := db.orders ++ [o] } =
        db.activeLiability + r.weight now := by
    simp [ReviewDatabase.activeLiability, same, Reservation.weight, counted]
  have own := covered.rows r member known counted
  refine ⟨?_, fun m inside admitted countedM => ?_⟩
  · have gone : through Reservation.precedes (·.weight now)
        (db.reservations.filter (·.token ≠ r.token)) r + r.weight now ≤
          through Reservation.precedes (·.weight now) db.reservations r :=
      through_filter member (by simp) (Reservation.precedes_refl r)
    omega
  · have memberM := List.mem_of_mem_filter inside
    have old := covered.rows m memberM admitted countedM
    rw [active]
    by_cases front : r.precedes m = true
    · -- the row was counted by the other one, and now the order is
      have gone : through Reservation.precedes (·.weight now)
          (db.reservations.filter (·.token ≠ r.token)) m + r.weight now ≤
            through Reservation.precedes (·.weight now) db.reservations m :=
        through_filter member (by simp) front
      dsimp only
      omega
    · -- the row itself counted the other one
      have behind : r.precedes m = false := by simpa using front
      have ahead : m.precedes r = true := (Reservation.precedes_total m r).resolve_right front
      have both : through Reservation.precedes (·.weight now) db.reservations m + r.weight now ≤
          through Reservation.precedes (·.weight now) db.reservations r :=
        through_add_le Reservation.precedes_trans Reservation.precedes_refl member ahead behind
      have fewer : through Reservation.precedes (·.weight now)
          (db.reservations.filter (·.token ≠ r.token)) m ≤
            through Reservation.precedes (·.weight now) db.reservations m :=
        through_sublist List.filter_sublist
      dsimp only
      omega

end ReviewDatabase.Covered

section Steps

variable {issued admitted : List Token} {e : PurchaseEvent} {db db' : ReviewDatabase}
  {now now' : Timestamp} {balance : Nat}

/-- Processing an order only lowers what it may still cost. -/
theorem Database.Moves.liability {rows rows' : Database} (moves : rows.Moves rows') :
    rows'.order.liability ≤ rows.order.liability := by
  unfold ReviewOrder.liability
  rw [moves.purchase]
  rcases moves.state with same | next
  · rw [same]
  · generalize rows.order.state = before at next
    generalize rows'.order.state = after at next
    cases next with
    | expire verdict => cases before <;> simp_all [ReviewOrderState.phase]
    | pay payout => cases before <;> simp_all [ReviewOrderState.phase]
    | _ => simp

theorem Reservation.SamePurchase.signed {r r' : Reservation} (same : r.SamePurchase r') :
    r'.payment.isSome = r.payment.isSome := by
  simpa [Reservation.payer] using congrArg Option.isSome same.payer

theorem Reservation.Touched.counted {r r' : Reservation} (touched : r.Touched r') :
    r'.counted now = r.counted now := by
  simp [Reservation.counted, Reservation.pending, touched.phase, touched.expiresAt, touched.signed]

theorem Reservation.Touched.weight {r r' : Reservation} (touched : r.Touched r') :
    r'.weight now = r.weight now := by
  simp [Reservation.weight, Reservation.liability, touched.counted, touched.quote]

theorem OrderRow.Carries.liability {o : OrderRow} {r : Reservation} (carries : o.Carries r)
    (paid : o.rows.order.state = .paid) : o.rows.order.liability = r.liability := by
  have price : o.rows.order.purchase.reviewPrice = r.quote.reviewPrice := carries.reviewPrice
  have reward : o.rows.order.purchase.reward = r.quote.reward := carries.reward
  simp [ReviewOrder.liability, paid, Reservation.liability, price, reward]

/-- A settlement has begun only for rows that were admitted, and that have a payment. -/
def ReviewDatabase.Attempted (db : ReviewDatabase) (admitted : List Token) : Prop :=
  ∀ r ∈ db.reservations, r.mayBePaid = true → r.token ∈ admitted ∧ r.payment.isSome = true

theorem PurchaseEvent.Begins.attempted {swept : ReviewDatabase} (begins : e.Begins db swept)
    (attempted : db.Attempted admitted) : swept.Attempted admitted := fun r member =>
  attempted r (begins.sublist.subset member)

/-- A row that a change settles or puts off is one whose settlement had begun. -/
theorem Change.attempted (change : Change issued e db db') (attempted : db.Attempted admitted)
    (marked : ∀ token paymentPayload paymentRequirements now,
      e = .mark token paymentPayload paymentRequirements now → token ∈ admitted)
    (deferred : ∀ token error delayMs now, e = .defer token error delayMs now →
      ∀ r ∈ db.reservations, r.token = token → r.mayBePaid = true)
    (recorded : ∀ token payment, e = .record token payment →
      ∀ r ∈ db.reservations, r.token = token → r.mayBePaid = true) : db'.Attempted admitted := by
  intro r' member' paid
  have kept : r' ∈ db.reservations → r'.token ∈ admitted ∧ r'.payment.isSome = true := fun member =>
    attempted r' member paid
  cases change with
  | same | creates | proceeds => exact kept member'
  | deletes | sells => exact kept (List.mem_of_mem_filter member')
  | @touches token condition change concerns keyed touched begun =>
    obtain ⟨r, member, ⟨meets, rfl⟩ | ⟨-, rfl⟩⟩ := ReviewDatabase.mem_updateWhere.mp member'
    · rw [(touched r meets).token, (touched r meets).signed]
      rcases begun r meets with before | ⟨some_, payload, requirements, now, mark⟩ |
        ⟨error, delayMs, now, defer_⟩
      · exact attempted r member before
      · exact ⟨keyed r meets ▸ marked token payload requirements now mark, some_⟩
      · exact attempted r member (deferred token error delayMs now defer_ r member (keyed r meets))
    · exact kept member
  | @settles row payment settlement record found =>
    obtain ⟨r, member, ⟨meets, rfl⟩ | ⟨-, rfl⟩⟩ := ReviewDatabase.mem_updateWhere.mp member'
    · simp only [Bool.and_eq_true, decide_eq_true_eq] at meets
      exact attempted r member (recorded row.token payment record r member meets.1)
    · exact kept member
  | renews =>
    obtain ⟨r, member, ⟨meets, rfl⟩ | ⟨-, rfl⟩⟩ := ReviewDatabase.mem_updateWhere.mp member'
    · cases paid
    · exact kept member
  | inserts =>
    rcases List.mem_append.mp member' with member | new
    · exact kept member
    · rw [List.mem_singleton.mp new] at paid
      cases paid

/-- Rows are changed without getting heavier or changing places. -/
theorem ReviewDatabase.Covered.update (covered : db.Covered admitted now balance)
    {condition : Reservation → Bool} {change : Reservation → Reservation}
    (same : ∀ r ∈ db.reservations, condition r = true → (change r).token = r.token ∧
      (change r).createdAt = r.createdAt ∧ (change r).weight now = r.weight now ∧
        ((change r).counted now = true → r.counted now = true)) :
    (db.updateWhere condition change).Covered admitted now balance := by
  have each (r : Reservation) (member : r ∈ db.reservations) :
      (if condition r then change r else r).token = r.token ∧
        (if condition r then change r else r).createdAt = r.createdAt ∧
          (if condition r then change r else r).weight now = r.weight now ∧
            ((if condition r then change r else r).counted now = true → r.counted now = true) := by
    split
    next meets => exact same r member meets
    next => exact ⟨rfl, rfl, rfl, id⟩
  refine covered.map (fun m member known counted => ?_) fun m member _ _ x inside front => ?_
  · exact ⟨(each m member).1 ▸ known, (each m member).2.2.2 counted⟩
  · rw [Reservation.precedes_iff, (each m member).1, (each m member).2.1, (each x inside).1,
      (each x inside).2.1, ← Reservation.precedes_iff] at front
    exact ⟨front, (each x inside).2.2.1.le⟩

theorem proceed_activeLiability {o : OrderRow} {rows : Database} (tidy : db.Tidy (· ∈ issued))
    (member : o ∈ db.orders) (moves : o.rows.Moves rows) :
    (db.proceed o.purchase.id rows).activeLiability ≤ db.activeLiability := by
  simp only [ReviewDatabase.activeLiability, ReviewDatabase.proceed, List.map_map]
  refine List.sum_le_sum fun o' ordered => ?_
  simp only [comp_apply]
  split
  next same =>
    obtain rfl := List.inj_on_of_nodup_map tidy.ids ordered member same
    exact moves.liability
  next => exact Nat.le_refl _

/-- Any call but an acquisition keeps what is covered. -/
theorem Change.covered (change : Change issued e db db') (tidy : db.Tidy (· ∈ issued))
    (covered : db.Covered admitted now balance) (attempted : db.Attempted admitted)
    (recorded : ∀ token payment, e = .record token payment →
      ∀ r ∈ db.reservations, r.token = token → r.mayBePaid = true)
    (other : ∀ p, e ≠ .acquire p) (promoted : ∀ input generated, e ≠ .create input generated) :
    db'.Covered admitted now balance := by
  cases change with
  | same => exact covered
  | deletes => exact covered.sublist List.filter_sublist rfl
  | touches _ _ touched =>
    refine covered.update fun r _ meets => ?_
    exact ⟨(touched r meets).token, (touched r meets).createdAt, (touched r meets).weight,
      fun counted => (touched r meets).counted ▸ counted⟩
  | @settles row payment settlement record found =>
    refine covered.update fun r member meets => ?_
    simp only [Bool.and_eq_true, decide_eq_true_eq] at meets
    have begun := recorded row.token payment record r member meets.1
    have signed := (attempted r member begun).2
    have counted : r.counted now = true := by simp [Reservation.counted, signed]
    have after : (r.settle settlement).counted now = true := by
      simp [Reservation.counted, Reservation.settle, Reservation.pending]
    refine ⟨rfl, rfl, ?_, fun _ => counted⟩
    rw [Reservation.weight, if_pos after, Reservation.weight, if_pos counted]
    rfl
  | @sells r o member _ carries paid =>
    obtain ⟨settlement, settled, -⟩ := carries.settled
    have counted : r.counted now = true := by
      simp [Reservation.counted, Reservation.pending, settled]
    have begun : r.mayBePaid = true := by simp [Reservation.mayBePaid, Reservation.pending, settled]
    exact covered.sell member (attempted r member begun).1 counted (carries.liability paid)
  | renews acquires => exact absurd acquires (other _)
  | inserts acquires => exact absurd acquires (other _)
  | creates created => exact absurd created (promoted _ _)
  | proceeds member moves => exact covered.proceed (proceed_activeLiability tidy member moves)

end Steps

section Runs

variable {config : TreasuryConfig} {balance : Nat} {s : PurchaseState} {e : PurchaseEvent}
  {history : List (PurchaseState × PurchaseEvent)}

/-- A row that can be taken over had been counted until then. -/
theorem counted_of_accepted {p : Purchasing} {existing : Reservation}
    (kept : existing.abandoned p.sweptAt = false) (accepted : p.refusedBy existing = false) :
    existing.counted p.sweptAt = true := by
  simp only [Purchasing.refusedBy, Bool.or_eq_false_iff, Option.isSome_eq_false_iff,
    Bool.not_eq_false'] at accepted
  simp only [Reservation.abandoned, accepted.1.1.1.2, accepted.1.2, Bool.true_and,
    decide_eq_false_iff_not, not_le] at kept
  simp [Reservation.counted, kept]

theorem acquire_covered {p : Purchasing} {acquired : Acquired} {db' : ReviewDatabase}
    (tidy : s.db.Tidy (· ∈ s.issued)) (known : ∀ token ∈ s.admitted, token ∈ s.issued)
    (covered : s.db.Covered s.admitted s.clock balance) (follows : s.Follows (.acquire p))
    (inOrder : ¬ s.Overtakes p) (fresh : p.randomUUID ∉ s.issued)
    (done : s.db.acquireReviewReservation p = .ok (acquired, db')) :
    db'.Covered s.admitted p.leasedAt balance := by
  obtain ⟨sweptAt, timestamp, checkedAt, leasedAt⟩ := follows
  -- the sweep at the head of the transaction only deletes rows
  have swept : (s.db.discardAbandoned p.sweptAt).Covered s.admitted p.sweptAt balance :=
    (covered.later sweptAt).sublist List.filter_sublist rfl
  have tidy : (s.db.discardAbandoned p.sweptAt).Tidy (· ∈ s.issued) :=
    tidy.sublist List.filter_sublist rfl
  have late : p.sweptAt ≤ p.leasedAt := timestamp.trans (checkedAt.trans leasedAt)
  have new : p.randomUUID ∉ s.admitted := fun old => fresh (known _ old)
  obtain ⟨change, rfl | ⟨token, rfl⟩⟩ := acquire_change fresh done
  · exact swept.later late
  · -- a row that would be in front of the one in hand was in front of the row that it renews
    have ahead : ∀ m ∈ (s.db.discardAbandoned p.sweptAt).reservations, m.token ∈ s.admitted →
        m.counted p.leasedAt = true →
        (p.written ((s.db.discardAbandoned p.sweptAt).existingReservation p)).precedes m = true →
        ∃ existing, (s.db.discardAbandoned p.sweptAt).existingReservation p = some existing ∧
          existing.precedes m = true := by
      intro m member known counted front
      by_contra none_
      refine inOrder ⟨⟨token, db', done⟩, m, member, known, counted, front, fun existing found => ?_⟩
      rw [Bool.eq_false_iff]
      exact fun before => none_ ⟨existing, found, before⟩
    cases change with
    | same => exact swept.later late
    | deletes => exact (swept.later late).sublist List.filter_sublist rfl
    | touches concerns => exact concerns.elim
    | settles recorded => cases recorded
    | sells _ _ _ _ _ _ concerns =>
      rcases concerns with concerns | ⟨_, _, created⟩
      · exact concerns.elim
      · cases created
    | creates created => cases created
    | proceeds _ _ proceeded => cases proceeded
    -- the liability of the row that is renewed was counted already
    | @renews _ existing acquires kept _ _ _ _ found accepted =>
      cases acquires
      obtain ⟨member, -⟩ := ReviewDatabase.existingReservation_some found
      have weight : existing.weight p.sweptAt = existing.liability := by
        rw [Reservation.weight, if_pos (counted_of_accepted (kept existing member) accepted)]
      refine swept.map (fun m inside known counted => ?_) fun m inside known counted x other front => ?_
      · split at known
        next => exact absurd known new
        next misses =>
          rw [if_neg misses] at counted
          -- rows that were there keep what they were, and weigh no more than before
          exact ⟨known, Reservation.counted_antitone late counted⟩
      · split at known
        next => exact absurd known new
        next misses =>
          rw [if_neg misses] at counted front
          split at front
          next meets =>
            simp only [Bool.and_eq_true, decide_eq_true_eq] at meets
            obtain rfl := tidy.unique other member meets.1
            rw [if_pos (by simp [meets.2]), weight]
            obtain ⟨existing, found', before⟩ := ahead m inside known counted (by rw [found]; exact front)
            cases found.symm.trans found'
            exact ⟨before, Reservation.weight_le _ _⟩
          next meets =>
            rw [if_neg meets]
            exact ⟨front, x.weight_antitone late⟩
    -- a row that is new comes behind all those that were admitted
    | inserts acquires _ _ _ _ none_ =>
      cases acquires
      refine (swept.later late).insert new fun m member known counted => ?_
      rw [Bool.eq_false_iff]
      intro front
      obtain ⟨existing, found, -⟩ := ahead m member known counted (by rw [none_]; exact front)
      rw [none_] at found
      cases found

/-- What holds of the purchases as long as none is put in front of an admitted one. -/
structure PurchaseState.Safe (balance : Nat) (s : PurchaseState) : Prop where
  known : ∀ token ∈ s.admitted, token ∈ s.issued
  created : ∀ r ∈ s.db.reservations, r.createdAt ≤ s.clock
  attempted : s.db.Attempted s.admitted
  covered : s.db.Covered s.admitted s.clock balance

theorem committed_clock {α : Type} (result : Except Failure (α × ReviewDatabase)) :
    (s.committed result).clock = s.clock := by
  unfold PurchaseState.committed
  split <;> rfl

theorem committed_admitted {α : Type} (result : Except Failure (α × ReviewDatabase)) :
    (s.committed result).admitted = s.admitted := by
  unfold PurchaseState.committed
  split <;> rfl

theorem clock_le (follows : s.Follows e) : s.clock ≤ ((purchases config balance).next s e).clock := by
  cases e with
  | acquire p => exact follows.1.trans (follows.2.1.trans (follows.2.2.1.trans follows.2.2.2))
  | mark => exact follows.1
  | defer => exact follows.1
  | discard | check | promote | reconcile => exact follows
  | record token payment => exact (committed_clock _).ge
  | release | proceed => exact Nat.le_refl _
  | create => exact follows.elim

theorem admitted_eq (unchecked : ∀ token now, e ≠ .check token now) :
    ((purchases config balance).next s e).admitted = s.admitted := by
  cases e with
  | check token now => exact absurd rfl (unchecked token now)
  | acquire | mark | promote | create => exact committed_admitted _
  | record => exact committed_admitted _
  | release | discard | defer | reconcile | proceed => rfl

theorem created_step (created : ∀ r ∈ s.db.reservations, r.createdAt ≤ s.clock)
    (tidy : s.db.Tidy (· ∈ s.issued)) (follows : s.Follows e)
    (admitted : (purchases config balance).admits s e) :
    ∀ r ∈ ((purchases config balance).next s e).db.reservations,
      r.createdAt ≤ ((purchases config balance).next s e).clock := by
  intro r' member'
  obtain ⟨swept, begins, change⟩ := step_change admitted
  have old (r : Reservation) (member : r ∈ swept.reservations) :
      r.createdAt ≤ ((purchases config balance).next s e).clock :=
    (created r (begins.sublist.subset member)).trans (clock_le follows)
  cases change.stems (tidy.sublist begins.sublist begins.orders) member' with
  | touched member touched => exact touched.createdAt ▸ old _ member
  | @settled r _ member => exact (old r member : r.createdAt ≤ _)
  | @renewed _ existing _ _ member => exact (old existing member : existing.createdAt ≤ _)
  | inserted acquires =>
    subst acquires
    exact follows.2.2.1.trans follows.2.2.2

/-- A check admits a row that is covered with all that it counts. -/
theorem check_covered {token : Token} {now : Timestamp} (tidy : s.db.Tidy (· ∈ s.issued))
    (covered : s.db.Covered s.admitted now balance)
    (ready : s.db.treasuryReady config balance token now = true) :
    s.db.Covered (token :: s.admitted) now balance := by
  obtain ⟨row, found, enough⟩ := treasuryReady_row ready
  obtain ⟨member, rfl⟩ := ReviewDatabase.findReservation_some found
  refine ⟨covered.orders, fun m inside known counted => ?_⟩
  rcases List.mem_cons.mp known with same | older
  · obtain rfl := tidy.unique inside member same
    exact enough
  · exact covered.rows m inside older counted

theorem check_safe {token : Token} {now : Timestamp} (safe : s.Safe balance)
    (tidy : s.db.Tidy (· ∈ s.issued)) (later : s.clock ≤ now) :
    ((purchases config balance).next s (.check token now)).Safe balance := by
  have created (r : Reservation) (member : r ∈ s.db.reservations) : r.createdAt ≤ now :=
    (safe.created r member).trans later
  simp only [purchases, purchaseStep]
  split
  next ready =>
    refine ⟨?_, created, fun r member begun => ?_, check_covered tidy (safe.covered.later later) ready⟩
    · obtain ⟨row, found, -⟩ := treasuryReady_row ready
      obtain ⟨member, rfl⟩ := ReviewDatabase.findReservation_some found
      simp only [List.mem_cons, forall_eq_or_imp]
      exact ⟨tidy.reserved row member, safe.known⟩
    · obtain ⟨known, signed⟩ := safe.attempted r member begun
      exact ⟨List.mem_cons_of_mem _ known, signed⟩
  next => exact ⟨safe.known, created, safe.attempted, safe.covered.later later⟩

theorem safe_step (safe : s.Safe balance) (tidy : s.db.Tidy (· ∈ s.issued)) (follows : s.Follows e)
    (inOrder : ∀ p, e = .acquire p → ¬ s.Overtakes p)
    (admitted : (purchases config balance).admits s e) :
    ((purchases config balance).next s e).Safe balance := by
  -- a check admits on the balance that it reads, every other event admits nothing
  by_cases checks : ∃ token now, e = .check token now
  · obtain ⟨token, now, rfl⟩ := checks
    exact check_safe safe tidy follows
  have unchecked : ((purchases config balance).next s e).admitted = s.admitted :=
    admitted_eq fun token now check => checks ⟨token, now, check⟩
  obtain ⟨swept, begins, change⟩ := step_change admitted
  have tidySwept := tidy.sublist begins.sublist begins.orders
  have recorded : ∀ token payment, e = .record token payment →
      ∀ r ∈ swept.reservations, r.token = token → r.mayBePaid = true := by
    rintro token payment rfl r member
    exact follows r (begins.sublist.subset member)
  refine
    { known := fun token known => mem_issued.mpr (.inr (safe.known token (unchecked ▸ known)))
      created := created_step safe.created tidy follows admitted
      attempted := unchecked ▸ change.attempted (begins.attempted safe.attempted) ?_ ?_ recorded
      covered := unchecked ▸ ?_ }
  · rintro token paymentPayload paymentRequirements now rfl
    exact follows.2
  · rintro token error delayMs now rfl r member
    exact follows.2 r (begins.sublist.subset member)
  · -- an acquisition reserves more, and the others only keep or free what is reserved
    by_cases acquires : ∃ p, e = .acquire p
    · obtain ⟨p, rfl⟩ := acquires
      have later : s.clock ≤ ((purchases config balance).next s (.acquire p)).clock :=
        clock_le follows
      cases done : s.db.acquireReviewReservation p with
      | error failure =>
        simp only [purchases, purchaseStep, done] at later ⊢
        exact safe.covered.later later
      | ok result =>
        simp only [purchases, purchaseStep, done]
        exact acquire_covered tidy safe.known safe.covered follows (inOrder p rfl) admitted done
    · obtain rfl : swept = s.db := by
        rcases begins with same | acquired
        · exact same
        · obtain ⟨p, acquire, -⟩ := acquired
          exact absurd ⟨p, acquire⟩ acquires
      refine (change.covered tidy safe.covered safe.attempted recorded
        (fun p acquire => acquires ⟨p, acquire⟩) ?_).later (clock_le follows)
      rintro input generated rfl
      exact follows

theorem safe_run (run : Run (purchases config balance) {} history s)
    (follows : ∀ entry ∈ history, entry.1.Follows entry.2)
    (inOrder : ∀ entry ∈ history, ∀ p, entry.2 = .acquire p → ¬ entry.1.Overtakes p) :
    s.Safe balance := by
  induction run with
  | refl => exact ⟨by simp, by simp, by simp [ReviewDatabase.Attempted], ⟨Nat.zero_le _, by simp⟩⟩
  | step e run admitted ih =>
    refine safe_step (ih ?_ ?_) (tidy_run run) (follows _ List.mem_cons_self)
      (inOrder _ List.mem_cons_self) admitted
    · exact fun entry past => follows entry (List.mem_cons_of_mem _ past)
    · exact fun entry past => inOrder entry (List.mem_cons_of_mem _ past)

/-- The treasury's balance covers what it has admitted and what it owes for the orders. -/
theorem treasury_covered (run : Run (purchases config balance) {} history s)
    (follows : ∀ entry ∈ history, entry.1.Follows entry.2)
    (inOrder : ∀ entry ∈ history, ∀ p, entry.2 = .acquire p → ¬ entry.1.Overtakes p) :
    s.admittedLiability + s.db.activeLiability ≤ balance := by
  have covered := (safe_run run follows inOrder).covered
  have weighed : s.admittedLiability = ((s.db.reservations.filter fun r =>
      r.token ∈ s.admitted && r.counted s.clock).map (·.weight s.clock)).sum := by
    rw [PurchaseState.admittedLiability]
    refine congrArg List.sum (List.map_congr_left fun r member => ?_)
    have counted := (List.mem_filter.mp member).2
    simp only [Bool.and_eq_true] at counted
    rw [Reservation.weight, if_pos counted.2]
  have total : s.admittedLiability ≤ balance - s.db.activeLiability := by
    rw [weighed]
    refine total_le Reservation.precedes_trans Reservation.precedes_total List.filter_sublist ?_
    intro m inside
    obtain ⟨member, meets⟩ := List.mem_filter.mp inside
    simp only [Bool.and_eq_true, decide_eq_true_eq] at meets
    have row := covered.rows m member meets.1 meets.2
    omega
  have orders := covered.orders
  omega

end Runs

namespace PurchaseWalkthrough

/-- The purchase of another review. -/
def competing (randomUUID : Token) (now : Timestamp) : Purchasing :=
  { purchasing randomUUID now with
    requestId := "another"
    jobId := 6
    intent := some { requestId := some "another", jobId := some 6, content := some "report"
                     validatedJob := some (job 6) } }

/-- Two purchases in one millisecond, each of which is checked before the next one. -/
def purchasingBoth (first second : Token) : List PurchaseEvent :=
  [.acquire (purchasing first 1000), .check first 1000, .acquire (competing second 1000),
    .check second 1000, marking first 1000, marking second 1000]

end PurchaseWalkthrough

open PurchaseWalkthrough in
theorem treasury_covered_walkthrough :
    ((purchases config 320).replay {} (purchasingBoth 7 8)).admittedLiability +
      ((purchases config 320).replay {} (purchasingBoth 7 8)).db.activeLiability ≤ 320 := by
  refine treasury_covered ((purchases config 320).replay_run .refl (purchasingBoth 7 8)
    ⟨admits_acquire (by decide), trivial, admits_acquire (by decide +kernel), trivial, trivial,
      trivial, trivial⟩) (by decide +kernel) ?_
  intro entry past p acquires
  simp only [System.record, purchasingBoth, List.mem_cons, List.not_mem_nil, or_false] at past
  rcases past with rfl | rfl | rfl | rfl | rfl | rfl
  · cases acquires
  · cases acquires
  · cases acquires
  · -- the admitted row has the smaller token
    cases acquires
    rintro ⟨-, m, member, -, -, front, -⟩
    revert m
    decide +kernel
  · cases acquires
  · rintro ⟨-, m, member, -⟩
    cases member

open PurchaseWalkthrough in
/-- The second purchase has the smaller token, so neither counts the other one. -/
theorem treasury_overtaken : ¬ ∀ config balance history s,
    Run (purchases config balance) {} history s →
      (∀ entry ∈ history, entry.1.Follows entry.2) →
        s.admittedLiability + s.db.activeLiability ≤ balance := by
  intro covered
  have both := covered config 160 _ _ ((purchases config 160).replay_run .refl (purchasingBoth 8 7)
    ⟨admits_acquire (by decide), trivial, admits_acquire (by decide +kernel), trivial, trivial,
      trivial, trivial⟩) (by decide +kernel)
  revert both
  decide +kernel

end VapiArc.Review
