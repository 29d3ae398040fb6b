import VapiArc.Review.ReservationChanges

/-!
# A reservation that may have been paid is kept

No call deletes the row, gives it to another token or replaces its payment, except that
the transaction which inserts the order for it deletes it.
-/
namespace VapiArc.Review

open Checked Function Transition

/-- The transaction inserts an order for the payment of the reservation and deletes its row. -/
def Sold (db db' : ReviewDatabase) (r : Reservation) : Prop :=
  ∃ o : OrderRow, o.Carries r ∧
    db' = { reservations := db.reservations.filter (·.token ≠ r.token), orders := db.orders ++ [o] }

variable {db db' : ReviewDatabase} {issued : List Token} {e : PurchaseEvent}

theorem Change.keeps (change : Change issued e db db') (tidy : db.Tidy (· ∈ issued))
    {r : Reservation} (member : r ∈ db.reservations) (paid : r.mayBePaid = true) :
    (∃ r' ∈ db'.reservations, r.SamePayment r' ∧ r'.mayBePaid = true) ∨
      Sold db db' r ∧ ∀ p, e ≠ .acquire p := by
  have kept : r ∈ db'.reservations →
      (∃ r' ∈ db'.reservations, r.SamePayment r' ∧ r'.mayBePaid = true) ∨
        Sold db db' r ∧ ∀ p, e ≠ .acquire p :=
    fun member => .inl ⟨r, member, .refl r, paid⟩
  cases change with
  | same => exact kept member
  | creates => exact kept member
  | proceeds => exact kept member
  | inserts => exact kept (List.mem_append_left _ member)
  -- only rows that cannot be paid are deleted
  | @deletes condition unpaid =>
    refine kept (List.mem_filter.mpr ⟨member, ?_⟩)
    cases meets : condition r with
    | false => rfl
    | true => exact absurd (unpaid r meets) (by simp [paid])
  | @touches token condition change _ _ touched =>
    cases meets : condition r with
    | false => exact kept (ReviewDatabase.mem_updateWhere.mpr ⟨r, member, .inr ⟨meets, rfl⟩⟩)
    | true =>
      exact .inl ⟨change r, ReviewDatabase.mem_updateWhere.mpr ⟨r, member, .inl ⟨meets, rfl⟩⟩,
        (touched r meets).samePayment, (touched r meets).mayBePaid paid⟩
  | @settles row payment settlement =>
    cases meets : (r.token = row.token && r.pending : Bool) with
    | false => exact kept (ReviewDatabase.mem_updateWhere.mpr ⟨r, member, .inr ⟨meets, rfl⟩⟩)
    | true =>
      refine .inl ⟨r.settle settlement,
        ReviewDatabase.mem_updateWhere.mpr ⟨r, member, .inl ⟨meets, rfl⟩⟩,
        ⟨⟨rfl, rfl, rfl, rfl, rfl, rfl, rfl, rfl, rfl, rfl⟩, fun before settled => ?_⟩, rfl⟩
      simp [Reservation.pending, settled] at meets
  | @renews p existing _ _ _ _ _ _ found accepted =>
    cases meets : (r.token = existing.token && r.pending : Bool) with
    | false => exact kept (ReviewDatabase.mem_updateWhere.mpr ⟨r, member, .inr ⟨meets, rfl⟩⟩)
    | true =>
      -- the row that is taken over is pending, and no attempt is on record for it
      obtain rfl : r = existing := by
        simp only [Bool.and_eq_true, decide_eq_true_eq] at meets
        exact tidy.unique member (ReviewDatabase.existingReservation_some found).1 meets.1
      simp only [Purchasing.refusedBy, Bool.or_eq_false_iff, Option.isSome_eq_false_iff,
        Option.isNone_iff_eq_none, Bool.not_eq_false'] at accepted
      simp [Reservation.mayBePaid, accepted.1.1.1.2, accepted.1.2] at paid
  -- the one way to leave the table is to become an order
  | @sells sold o memberSold _ carries _ _ _ concerns =>
    by_cases same : r.token = sold.token
    · obtain rfl := tidy.unique member memberSold same
      refine .inr ⟨⟨o, carries, rfl⟩, fun p acquires => ?_⟩
      subst acquires
      rcases concerns with concerns | ⟨input, generated, created⟩
      · exact concerns
      · cases created
    · exact kept (List.mem_filter.mpr ⟨member, by simpa using same⟩)

section Runs

variable {config : TreasuryConfig} {balance : Nat} {s u v : PurchaseState} {token : Token}
  {earlier later : List (PurchaseState × PurchaseEvent)}

theorem kept_step (tidy : s.db.Tidy (· ∈ s.issued))
    (admitted : (purchases config balance).admits s e) {r : Reservation}
    (member : r ∈ s.db.reservations) (paid : r.mayBePaid = true) :
    (∃ r' ∈ ((purchases config balance).next s e).db.reservations,
      r.SamePayment r' ∧ r'.mayBePaid = true) ∨
      Sold s.db ((purchases config balance).next s e).db r := by
  obtain ⟨swept, begins, change⟩ := step_change admitted
  rcases change.keeps (tidy.sublist begins.sublist begins.orders) (begins.kept member paid) paid with
    kept | ⟨sold, other⟩
  · exact .inl kept
  · rcases begins with rfl | ⟨p, acquires, -⟩
    · exact .inr sold
    · exact absurd acquires (other p)

/-- The row is there at the end of every later run, or the order for it is. -/
theorem kept_run (tidy : u.db.Tidy (· ∈ u.issued)) {r : Reservation}
    (member : r ∈ u.db.reservations) (paid : r.mayBePaid = true)
    (run : Run (purchases config balance) u later v) :
    (∃ r' ∈ v.db.reservations, r.SamePayment r' ∧ r'.mayBePaid = true) ∨
      ∃ entry ∈ later, ∃ r' ∈ entry.1.db.reservations, r.SamePayment r' ∧
        Sold entry.1.db ((purchases config balance).next entry.1 entry.2).db r' := by
  induction run with
  | refl => exact .inl ⟨r, member, .refl r, paid⟩
  | @step history w e run admitted ih =>
    have tidy : w.db.Tidy (· ∈ w.issued) :=
      run.invariant _ tidy fun _ _ tidy admitted => tidy_step tidy admitted
    rcases ih with ⟨r', member, same, paid⟩ | ⟨entry, past, sold⟩
    · rcases kept_step tidy admitted member paid with ⟨r'', member', same', paid'⟩ | sold
      · exact .inl ⟨r'', member', same.trans same', paid'⟩
      · exact .inr ⟨(w, e), List.mem_cons_self, r', member, same, sold⟩
    · exact .inr ⟨entry, List.mem_cons_of_mem _ past, sold⟩

/-- A token that has been given out and has no row does not get one. -/
theorem lost_run (known : token ∈ u.issued) (lost : u.db.findReservation token = none)
    (run : Run (purchases config balance) u later v) : v.db.findReservation token = none := by
  suffices kept : token ∈ v.issued ∧ v.db.findReservation token = none from kept.2
  refine run.invariant (fun s => token ∈ s.issued ∧ s.db.findReservation token = none)
    ⟨known, lost⟩ fun s e ⟨known, lost⟩ admitted => ⟨mem_issued.mpr (.inr known), ?_⟩
  obtain ⟨swept, begins, change⟩ := step_change admitted
  rw [ReviewDatabase.findReservation_none] at lost ⊢
  rintro r' member rfl
  rcases change.token member with ⟨r, member, same⟩ | fresh
  · exact lost r (begins.sublist.subset member) same
  · exact fresh known

/-- `markGatewaySettlementAttempt` or `recordReviewReservationSettlement` succeeds for the
token. -/
def Attempts (token : Token) (db : ReviewDatabase) : PurchaseEvent → Prop
  | .mark of paymentPayload paymentRequirements now => of = token ∧
    ∃ db', db.markGatewaySettlementAttempt token paymentPayload paymentRequirements now =
      .ok ((), db')
  | .record of payment => of = token ∧
    ∃ db', db.recordReviewReservationSettlement token payment = .ok ((), db')
  | _ => False

theorem attempts_row (config : TreasuryConfig) (balance : Nat) (attempts : Attempts token u.db e) :
    (∃ r ∈ u.db.reservations, r.token = token) ∧
      ∃ r ∈ ((purchases config balance).next u e).db.reservations,
        r.token = token ∧ r.mayBePaid = true := by
  cases e with
  | mark of paymentPayload paymentRequirements now =>
    obtain ⟨rfl, db', done⟩ := attempts
    obtain ⟨-, ⟨r, member, keyed, -⟩, row⟩ := mark_change u.issued done
    simp only [purchases, purchaseStep, done]
    exact ⟨⟨r, member, keyed⟩, row⟩
  | record of payment =>
    obtain ⟨rfl, db', done⟩ := attempts
    obtain ⟨-, old, row⟩ := record_change u.issued done
    simp only [purchases, purchaseStep, done]
    exact ⟨old, row⟩
  | _ => exact attempts.elim

/-- The row that a settlement was attempted for stays, with the same payment, until the order that it
pays for is there; and once a row has gone, no settlement is ever attempted for its token. -/
theorem reservation_durable (config : TreasuryConfig) (balance : Nat) (token : Token) :
    (∀ {earlier later u e v}, Run (purchases config balance) {} earlier u →
      (purchases config balance).admits u e → Attempts token u.db e →
      Run (purchases config balance) ((purchases config balance).next u e) later v →
      ∃ r, ((purchases config balance).next u e).db.findReservation token = some r ∧
        ((∃ r', v.db.findReservation token = some r' ∧ r.SamePayment r') ∨
          ∃ entry ∈ later, ∃ r', entry.1.db.findReservation token = some r' ∧ r.SamePayment r' ∧
            Sold entry.1.db ((purchases config balance).next entry.1 entry.2).db r')) ∧
    ∀ {earlier between later held u v r}, Run (purchases config balance) {} earlier held →
      held.db.findReservation token = some r → Run (purchases config balance) held between u →
      u.db.findReservation token = none → Run (purchases config balance) u later v →
      ∀ e, ¬ Attempts token v.db e := by
  constructor
  · intro earlier later u e v run admitted attempts after
    have before := run.step e admitted
    have tidy := tidy_run before
    obtain ⟨-, r, member, rfl, paid⟩ := attempts_row config balance attempts
    refine ⟨r, tidy.found member, ?_⟩
    rcases kept_run tidy member paid after with ⟨r', kept, same, -⟩ |
      ⟨entry, past, r', kept, same, sold⟩
    · exact .inl ⟨r', same.token ▸ (tidy_run (before.trans after)).found kept, same⟩
    · obtain ⟨_, _, -, until_, -⟩ := after.of_mem past
      refine .inr ⟨entry, past, r', ?_, same, sold⟩
      exact same.token ▸ (tidy_run (before.trans until_)).found kept
  · intro earlier between later held u v r run found gap lost after e attempts
    obtain ⟨member, keyed⟩ := ReviewDatabase.findReservation_some found
    have known : token ∈ held.issued := keyed ▸ (tidy_run run).reserved r member
    have known : token ∈ u.issued :=
      gap.invariant (token ∈ ·.issued) known fun _ _ known _ => mem_issued.mpr (.inr known)
    obtain ⟨r, member, keyed⟩ := (attempts_row config balance attempts).1
    exact ReviewDatabase.findReservation_none.mp (lost_run known lost after) r member keyed

end Runs

namespace PurchaseWalkthrough

def config : TreasuryConfig :=
  { reviewPrice := 100, reviewerReward := 60, minimumTreasuryBalance := 0 }

def job (jobId : Nat) : ValidatedReviewJob :=
  { jobId, client := 20, provider := 23, expiredAt := 9000, deliverableHash := 31
    escalationReasonHash := 32, escalationReasonCode := some "split_vote"
    escalationCause := some "the evaluators disagree" }

def gatewayPayment (signatureHash : Hex) : GatewayPayment :=
  { signatureHash, authorizationKey := signatureHash + 1, paymentPayload := .null
    paymentRequirements := .null, payer := 20, nonce := "0x51" }

/-- A purchase of a review under a token, for the job of that number. -/
def purchasing (randomUUID : Token) (now : Timestamp) : Purchasing :=
  { requestId := "request", jobId := 5
    intent := some { requestId := some "request", jobId := some 5, content := some "report"
                     validatedJob := some (job 5) }
    gatewayPayment := some (gatewayPayment (100 * randomUUID)), quote := ⟨100, 60, "arc"⟩
    sweptAt := now, timestamp := now, checkedAt := now, leasedAt := now, randomUUID }

def marking (token : Token) (now : Timestamp) : PurchaseEvent := .mark token .null .null now

def settlement : ReviewPayment :=
  { payer := 20, amount := 100, network := "arc", transaction := some "transfer" }

def orderKeys : OrderKeys :=
  { id := 90
    keys := fun
      | .payout => 91
      | .resolution => 92
      | .refund => 93
    timestamp := 1000001 }

def opened : List PurchaseEvent := [.acquire (purchasing 7 1000)]

/-- The row outlives its lease, a release, a sweep and a purchase of the same review. -/
def outlived : List PurchaseEvent :=
  [.release 7, .discard 1000000, .acquire (purchasing 8 1000000), .record 7 settlement,
    .promote 7 orderKeys]

def expired : List PurchaseEvent := [.discard 1000000]

def system : System PurchaseState PurchaseEvent := purchases config 1000

theorem admits_acquire {s : PurchaseState} {p : Purchasing} (fresh : p.randomUUID ∉ s.issued) :
    system.admits s (.acquire p) := fresh

theorem admits_promote {s : PurchaseState} {token : Token} {generated : OrderKeys}
    (fresh : s.Fresh generated) : system.admits s (.promote token generated) := fresh

end PurchaseWalkthrough

open PurchaseWalkthrough in
theorem reservation_durable_walkthrough :
    (∃ r, (system.replay {} (opened ++ [marking 7 2000])).db.findReservation 7 = some r ∧
      ((∃ r', (system.replay {} (opened ++ marking 7 2000 :: outlived)).db.findReservation 7 =
          some r' ∧ r.SamePayment r') ∨
        ∃ entry ∈ system.record (system.replay {} (opened ++ [marking 7 2000])) [] outlived,
          ∃ r', entry.1.db.findReservation 7 = some r' ∧ r.SamePayment r' ∧
            Sold entry.1.db (system.next entry.1 entry.2).db r')) ∧
    ∀ e, ¬ Attempts 7 (system.replay {} (opened ++ expired ++ [.acquire (purchasing 8 1000000)])).db e :=
  have opening := system.replay_run .refl opened ⟨admits_acquire (by decide), trivial⟩
  have outliving := system.replay_run
    (s := system.next (system.replay {} opened) (marking 7 2000)) .refl outlived
      ⟨trivial, trivial, admits_acquire (by decide +kernel), trivial,
        admits_promote (by decide +kernel), trivial⟩
  ⟨(reservation_durable config 1000 7).1 opening trivial ⟨rfl, _, rfl⟩ outliving,
    (reservation_durable config 1000 7).2 opening rfl
      (system.replay_run .refl expired ⟨trivial, trivial⟩) rfl
      (system.replay_run .refl [.acquire (purchasing 8 1000000)]
        ⟨admits_acquire (by decide +kernel), trivial⟩)⟩

end VapiArc.Review
