import VapiArc.Review.CircleOnce
import VapiArc.Review.VerdictKept

/-!
# What the treasury counts for an order

The amount that is counted for an order in its state covers every payout and refund that
can still be sent for it.
-/
namespace VapiArc.Review

open Checked Function Async Transition

/-- What `requiredTreasuryBalance` adds for an order. -/
def ReviewOrder.liability (order : ReviewOrder) : Nat :=
  match order.state with
  | .paid | .dispatched | .claimed | .verdictSubmitted | .payoutFailed =>
    order.purchase.reviewPrice + order.purchase.reward
  | .reviewerPaid | .reviewerPaidSettlementFailed | .expired => order.purchase.reviewPrice
  | .settled | .refunded => 0

/-- What the treasury pays with a transaction. -/
def Payload.amount : Payload → Nat
  | .transfer _ amount => amount
  | .humanResolve .. => 0

namespace Store

variable (s : Store)

/-- What has been paid under a key. -/
def paidUnder (key : IdempotencyKey) : Nat :=
  match s.circle key with
  | some transaction =>
    if transaction.state = .complete then transaction.request.payload.amount else 0
  | none => 0

/-- What has been paid for the order, under all the keys of its requests. -/
def sent : Nat := ((s.requested.map (·.idempotencyKey)).dedup.map s.paidUnder).sum

/-- What has been paid by the current transaction of an operation. -/
def paidBy (operation : CircleOperation) : Nat := s.paidUnder (s.db.circleIdempotencyKey operation)

end Store

/-- What an operation takes from the treasury. -/
def ReviewOrder.amount (order : ReviewOrder) : CircleOperation → Nat
  | .payout => order.purchase.reward
  | .refund => order.purchase.reviewPrice
  | .resolution => 0

section Amounts

variable {circle : Circle} {d : Dependencies} {s : Store}

theorem ReviewOrder.Asks.amount {order : ReviewOrder} {lib : Library} {operation : CircleOperation}
    {payload : Payload} (asks : order.Asks lib operation payload) :
    payload.amount = order.amount operation := by
  cases operation with
  | payout =>
    obtain ⟨address, -, rfl⟩ := asks
    rfl
  | refund =>
    obtain rfl : payload = _ := asks
    rfl
  | resolution =>
    obtain ⟨evidence, reviewer, decision, hash, -, -, -, -, rfl⟩ := asks
    rfl

/-- Money under a key is money of the operation whose current key it is. -/
theorem Sound.paidUnder_ne_zero (sound : Sound circle d s) {key : IdempotencyKey}
    (paid : s.paidUnder key ≠ 0) : ∃ operation, key = s.db.circleIdempotencyKey operation ∧
      s.Completed operation := by
  unfold Store.paidUnder at paid
  split at paid
  next transaction here =>
    split at paid
    next complete =>
      have current := sound.ledger.completed_current here complete
      refine ⟨transaction.request.operation, current, transaction, ?_, rfl, complete⟩
      rw [← here, current]
      rfl
    next => exact absurd rfl paid
  next => exact absurd rfl paid

theorem Sound.paidBy (sound : Sound circle d s) (operation : CircleOperation) :
    s.paidBy operation = 0 ∨
      s.Completed operation ∧ s.paidBy operation = s.db.order.amount operation := by
  by_cases paid : s.paidBy operation = 0
  · exact .inl paid
  · right
    obtain ⟨other, same, completed⟩ := sound.paidUnder_ne_zero paid
    obtain rfl := sound.ledger.apart same
    obtain ⟨transaction, here, owned, complete⟩ := completed
    have asks := sound.phases.requests _ (sound.ledger.created _ transaction here).1
    rw [owned] at asks
    refine ⟨⟨transaction, here, owned, complete⟩, ?_⟩
    simp only [Store.paidBy, Store.paidUnder, here, if_pos complete]
    exact asks.amount

/-- The money that has been sent is that of the three current transactions. -/
theorem Sound.sent (sound : Sound circle d s) :
    s.sent = s.paidBy .payout + s.paidBy .refund := by
  let key := s.db.circleIdempotencyKey
  have apart {first second : CircleOperation} (other : first ≠ second) : key first ≠ key second :=
    fun same => other (sound.ledger.apart same)
  have resolution : s.paidBy .resolution = 0 := by
    rcases sound.paidBy .resolution with none | ⟨-, amount⟩
    · exact none
    · exact amount
  calc s.sent = ∑ k ∈ (s.requested.map (·.idempotencyKey)).toFinset, s.paidUnder k := by
        rw [Store.sent, ← List.sum_toFinset _ (List.nodup_dedup _)]
        congr 1
        ext k
        simp
    _ = ∑ k ∈ {key .payout, key .refund, key .resolution}, s.paidUnder k := by
        refine Finset.sum_congr_of_eq_on_inter ?_ ?_ fun _ _ _ => rfl
        · intro k _ other
          by_contra paid
          obtain ⟨operation, rfl, -⟩ := sound.paidUnder_ne_zero paid
          cases operation <;> simp [key] at other
        · intro k _ unrequested
          by_contra paid
          obtain ⟨operation, rfl, transaction, here, -⟩ := sound.paidUnder_ne_zero paid
          obtain ⟨member, keyed⟩ := sound.ledger.created _ transaction here
          exact unrequested (List.mem_toFinset.mpr (List.mem_map.mpr ⟨_, member, keyed⟩))
    _ = s.paidBy .payout + s.paidBy .refund := by
        rw [Finset.sum_insert (by simp [apart]), Finset.sum_pair (apart (by simp))]
        change s.paidBy .payout + (s.paidBy .refund + s.paidBy .resolution) = _
        rw [resolution, Nat.add_zero]

theorem Sound.paidBy_completed (sound : Sound circle d s) {operation : CircleOperation}
    (completed : s.Completed operation) : s.paidBy operation = s.db.order.amount operation := by
  obtain ⟨transaction, here, owned, complete⟩ := completed
  have asks := sound.phases.requests _ (sound.ledger.created _ transaction here).1
  rw [owned] at asks
  simp only [Store.paidBy, Store.paidUnder, here, if_pos complete]
  exact asks.amount

/-- Money has been sent only for what was asked. -/
theorem Sound.paidBy_unasked (sound : Sound circle d s) {operation : CircleOperation}
    (unasked : ¬ s.Asked operation) : s.paidBy operation = 0 := by
  rcases sound.paidBy operation with none | ⟨⟨transaction, here, owned, -⟩, -⟩
  · exact none
  · exact absurd ⟨_, (sound.ledger.created _ transaction here).1, owned⟩ unasked

theorem Sound.paidBy_le (sound : Sound circle d s) (operation : CircleOperation) :
    s.paidBy operation ≤ s.db.order.amount operation := by
  rcases sound.paidBy operation with none | ⟨-, amount⟩
  · rw [none]
    exact Nat.zero_le _
  · exact amount.le

/-- Nothing is requested in the final states. -/
theorem Proceeds.no_request {s' : Store} (proceeds : Proceeds s s')
    (done : s.db.order.state = .settled ∨ s.db.order.state = .refunded) :
    s'.requested = s.requested := by
  rcases proceeds.requests with same | ⟨r, -, permitted, -⟩
  · exact same
  · generalize r.operation = operation at permitted
    rcases done with state | state <;> cases operation <;>
      simp [ReviewOrder.Permits, state, ReviewOrderState.phase] at permitted

end Amounts

section Claim

variable {circle : Circle} {d : Dependencies} {opening : Opening}
  {earlier later : List (ServiceState × ServiceEvent)} {u v : ServiceState}
  (before : ServiceRun circle d opening earlier u) (run : Run (host circle d).system u later v)
include before run

theorem amount_kept (operation : CircleOperation) :
    v.store.db.order.amount operation = u.store.db.order.amount operation := by
  have same : v.store.db.order.purchase = u.store.db.order.purchase :=
    service_related (fun a b => b.db.order.purchase = a.db.order.purchase) (fun _ => rfl)
      (fun _ _ _ first second => second.trans first) (fun _ _ _ _ proceeds => proceeds.purchase)
      before run
  cases operation <;> simp only [ReviewOrder.amount, same]

/-- After a payout no other one is sent. -/
theorem payout_bound : v.store.paidBy .payout ≤ u.store.paidBy .payout +
    if u.store.db.order.state.phase = .verdict ∨ u.store.db.order.state.phase = .payout then
      u.store.db.order.purchase.reward else 0 := by
  obtain ⟨sound, -⟩ := service_good before
  obtain ⟨sound', -⟩ := service_good (before.trans run)
  have le := sound'.paidBy_le .payout
  rw [amount_kept before run] at le
  split
  next => exact le.trans (Nat.le_add_left _ _)
  next waiting =>
    rw [not_or] at waiting
    by_cases decided : u.store.db.order.decision = none
    · -- the review has ended without a verdict, and will not get one
      have ended : u.store.db.order.state.phase = .ended := by
        by_contra other
        exact (sound.phases.reviewed waiting.1 other).1 decided
      have undecided : v.store.db.order.decision = none := by
        rw [(closed_kept before run ended).verdict.decision, decided]
      have unasked : ¬ v.store.Asked .payout := by
        rintro ⟨r, member, payout⟩
        have refund := sound'.phases.unreviewed undecided r member
        rw [payout] at refund
        cases refund
      rw [sound'.paidBy_unasked unasked]
      exact Nat.zero_le _
    · have paid := sound.phases.paid decided waiting.2
      rw [sound.paidBy_completed paid.completed]
      exact le

/-- And none after a settlement or a refund. -/
theorem refund_bound : v.store.paidBy .refund ≤ u.store.paidBy .refund +
    if u.store.db.order.state = .settled ∨ u.store.db.order.state = .refunded then 0
    else u.store.db.order.purchase.reviewPrice := by
  obtain ⟨sound, -⟩ := service_good before
  obtain ⟨sound', -⟩ := service_good (before.trans run)
  have le := sound'.paidBy_le .refund
  rw [amount_kept before run] at le
  split
  next done =>
    rcases done with settled | refunded
    · have settled' := final_kept before run (.inl rfl) settled
      have unasked : ¬ v.store.Asked .refund := by
        intro asked
        have refunding := sound'.phases.refunding asked
        rw [settled'] at refunding
        simp [ReviewOrderState.phase] at refunding
      rw [sound'.paidBy_unasked unasked]
      exact Nat.zero_le _
    · rw [sound.paidBy_completed (sound.phases.refunded refunded)]
      exact le
  next => exact le.trans (Nat.le_add_left _ _)

/-- From every state on, the payouts and refunds that are still sent come to no more than
what is counted for the order; nothing is requested for one that is settled or refunded. -/
theorem liability_bound :
    v.store.sent ≤ u.store.sent + u.store.db.order.liability ∧
    (u.store.db.order.state = .settled ∨ u.store.db.order.state = .refunded →
      u.store.db.order.liability = 0 ∧ v.store.requested = u.store.requested) := by
  obtain ⟨sound, -⟩ := service_good before
  obtain ⟨sound', -⟩ := service_good (before.trans run)
  refine ⟨?_, fun done => ⟨?_, ?_⟩⟩
  · have payout := payout_bound before run
    have refund := refund_bound before run
    rw [sound.sent, sound'.sent]
    unfold ReviewOrder.liability
    generalize u.store.db.order.state = state at payout refund
    cases state <;> simp [ReviewOrderState.phase] at payout refund ⊢ <;> omega
  · unfold ReviewOrder.liability
    rcases done with state | state <;> rw [state]
  · obtain ⟨state, final, here⟩ : ∃ state, (state = .settled ∨ state = .refunded) ∧
        u.store.db.order.state = state := ⟨_, done, rfl⟩
    refine (service_related (fun a b => a.db.order.state = state →
      b.db.order.state = state ∧ b.requested = a.requested) (fun _ here => ⟨here, rfl⟩) ?_ ?_
      before run here).2
    · intro a b c first second here
      obtain ⟨there, same⟩ := first here
      obtain ⟨there', same'⟩ := second there
      exact ⟨there', same'.trans same⟩
    · exact fun a b _ _ proceeds here =>
        ⟨proceeds.final final here, proceeds.no_request (by rw [here]; exact final)⟩

omit before run in
/-- The order of the walkthrough, from its failed payout on. -/
theorem liability_bound_walkthrough :
    Walkthrough.settled.store.sent ≤
      Walkthrough.retried.store.sent + Walkthrough.retried.store.db.order.liability :=
  (liability_bound Walkthrough.retried_run Walkthrough.settled_run).1

end Claim

end VapiArc.Review
