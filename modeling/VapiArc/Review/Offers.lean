import VapiArc.Review.VerdictKept

/-!
# The offers of an order and its claim

A round offers the order to its reviewers, one of them may claim it, and the offers of
a round without a claim expire. The tables of orders and of assignments agree on the
claim, and the order counts its rounds.
-/
namespace VapiArc.Review

open Checked Function Async Transition

section Rows

variable {config : Config} {db db' : Database}

/-- The address belongs to a party of the job, or to the wallet that resolves it. -/
def Config.Conflicts (config : Config) (purchase : Purchase) (address : Address) : Prop :=
  address = purchase.jobClient ∨ address = purchase.jobProvider ∨
    config.circleWalletAddress = some address

/-- What the rows of an order say about its offers and its claim. -/
structure Database.Assigned (config : Config) (db : Database) : Prop where
  claimant : ∀ reviewerId,
    db.assignments reviewerId = some .claimed ↔ db.order.reviewerId = some reviewerId
  withdrawn : db.order.reviewerId ≠ none → ∀ reviewerId, db.assignments reviewerId ≠ some .offered
  unclaimed : db.order.state = .paid ∨ db.order.state = .dispatched → db.order.reviewerId = none
  independent : ∀ address ∈ db.order.reviewerPayoutAddress,
    ¬ config.Conflicts db.order.purchase address
  bounded : db.order.dispatchCount ≤ config.maxDispatches
  another : db.order.state = .paid → db.order.dispatchCount < config.maxDispatches

/-- The step offers an order that had no offers. -/
def Database.Dispatches (db db' : Database) : Prop :=
  db.order.state = .paid ∧ db'.order.state = .dispatched

instance (db db' : Database) : Decidable (db.Dispatches db') :=
  inferInstanceAs (Decidable (_ ∧ _))

/-- A step that begins a round counts it, and no other step counts one. -/
def Database.Counts (db db' : Database) : Prop :=
  db'.order.dispatchCount = db.order.dispatchCount + if db.Dispatches db' then 1 else 0

theorem Database.Counts.refl (db : Database) : db.Counts db := by
  have same : ¬ db.Dispatches db := by
    rintro ⟨paid, dispatched⟩
    rw [paid] at dispatched
    cases dispatched
  simp [Database.Counts, same]

/-- A write that neither offers nor claims the order; it may expire offers. -/
structure Database.Withdraws (config : Config) (db db' : Database) : Prop where
  purchase : db'.order.purchase = db.order.purchase
  reviewerId : db'.order.reviewerId = db.order.reviewerId
  reviewerPayoutAddress : db'.order.reviewerPayoutAddress = db.order.reviewerPayoutAddress
  dispatchCount : db'.order.dispatchCount = db.order.dispatchCount
  assignments : ∀ reviewerId, db'.assignments reviewerId = db.assignments reviewerId ∨
    db.assignments reviewerId = some .offered ∧ db'.assignments reviewerId = some .expired
  paid : db'.order.state = .paid → db.order.state = .paid ∨
    db.order.state = .dispatched ∧ db.order.dispatchCount < config.maxDispatches
  dispatched : db'.order.state = .dispatched → db.order.state = .dispatched

theorem Database.Withdraws.refl (db : Database) : db.Withdraws config db :=
  ⟨rfl, rfl, rfl, rfl, fun _ => .inl rfl, .inl, id⟩

/-- A row is claimed, or offered, only if it was before. -/
theorem Database.Withdraws.status (withdraws : db.Withdraws config db') {reviewerId : ReviewerId}
    {status : AssignmentStatus} (unexpired : status ≠ .expired)
    (here : db'.assignments reviewerId = some status) :
    db.assignments reviewerId = some status := by
  rcases withdraws.assignments reviewerId with same | ⟨-, expired⟩
  · exact same.symm.trans here
  · rw [expired] at here
    cases here
    exact absurd rfl unexpired

theorem Database.Withdraws.assigned (withdraws : db.Withdraws config db')
    (assigned : db.Assigned config) : db'.Assigned config where
  claimant reviewerId := by
    rw [withdraws.reviewerId, ← assigned.claimant]
    constructor
    · exact withdraws.status (by simp)
    · intro claimed
      rcases withdraws.assignments reviewerId with same | ⟨offered, -⟩
      · exact same.trans claimed
      · rw [offered] at claimed
        cases claimed
  withdrawn taken reviewerId offered := by
    rw [withdraws.reviewerId] at taken
    exact assigned.withdrawn taken reviewerId (withdraws.status (by simp) offered)
  unclaimed dispatchable := by
    rw [withdraws.reviewerId]
    apply assigned.unclaimed
    rcases dispatchable with paid | dispatched
    · rcases withdraws.paid paid with still | ⟨dispatched, -⟩
      · exact .inl still
      · exact .inr dispatched
    · exact .inr (withdraws.dispatched dispatched)
  independent := by
    rw [withdraws.reviewerPayoutAddress, withdraws.purchase]
    exact assigned.independent
  bounded := by
    rw [withdraws.dispatchCount]
    exact assigned.bounded
  another paid := by
    rw [withdraws.dispatchCount]
    rcases withdraws.paid paid with still | ⟨-, fewer⟩
    · exact assigned.another still
    · exact fewer

theorem Database.Withdraws.counts (withdraws : db.Withdraws config db') : db.Counts db' := by
  have none : ¬ db.Dispatches db' := by
    rintro ⟨paid, dispatched⟩
    have still := withdraws.dispatched dispatched
    rw [paid] at still
    cases still
  simp [Database.Counts, none, withdraws.dispatchCount]

/-- The offers expire, and the order goes on in another state. -/
theorem Database.Withdraws.expire {order : ReviewOrder}
    (purchase : order.purchase = db.order.purchase)
    (reviewerId : order.reviewerId = db.order.reviewerId)
    (address : order.reviewerPayoutAddress = db.order.reviewerPayoutAddress)
    (count : order.dispatchCount = db.order.dispatchCount)
    (paid : order.state = .paid → db.order.state = .paid ∨
      db.order.state = .dispatched ∧ db.order.dispatchCount < config.maxDispatches)
    (dispatched : order.state = .dispatched → db.order.state = .dispatched) :
    db.Withdraws config { db.expireAssignments with order } where
  purchase := purchase
  reviewerId := reviewerId
  reviewerPayoutAddress := address
  dispatchCount := count
  assignments reviewerId := by
    by_cases offered : db.assignments reviewerId = some .offered
    · exact .inr ⟨offered, if_pos offered⟩
    · exact .inl (if_neg offered)
  paid := paid
  dispatched := dispatched

end Rows

section Operations

variable {d : Dependencies} {db db' : Database}

/-- `updateOrder` keeps the review, if it does not begin a round. -/
theorem updated_withdraws (config : Config) {state : ReviewOrderState}
    (fields : Database.OrderUpdate) (paid : state = .paid → db.order.state = .paid)
    (dispatched : state ≠ .dispatched) : db.Withdraws config (db.updated state fields) where
  purchase := rfl
  reviewerId := rfl
  reviewerPayoutAddress := rfl
  dispatchCount := rfl
  assignments _ := .inl rfl
  paid here := .inl (paid here)
  dispatched here := absurd here dispatched

/-- The claim's columns, the state and the assignments are those of before. -/
theorem columns_withdraws {config : Config} {columns : CircleOperation → CircleColumns}
    {attempts : List CircleAttempt} {journal : List JournalEntry} {error : Option String} :
    db.Withdraws config { db with
      order := { db.order with circle := columns, lastError := error }, attempts, journal } :=
  ⟨rfl, rfl, rfl, rfl, fun _ => .inl rfl, .inl, id⟩

theorem recordCircleTransaction_withdraws {config : Config} {operation : CircleOperation}
    {transaction : CircleTransactionResult}
    (done : db.recordCircleTransactionUnsafe operation transaction = .ok db') :
    db.Withdraws config db' := by
  simp only [Database.recordCircleTransactionUnsafe, bind_ok, pure_ok] at done
  obtain ⟨attempts, -, rfl⟩ := done
  exact columns_withdraws

theorem markCircleRequestStarted_withdraws {config : Config} {operation : CircleOperation}
    {started : Bool} (done : db.markCircleRequestStarted operation = .ok (started, db')) :
    db.Withdraws config db' := by
  simp only [Database.markCircleRequestStarted] at done
  split at done
  next =>
    cases done
    exact columns_withdraws
  next =>
    simp only [bind_ok, pure_ok, Prod.mk.injEq] at done
    obtain ⟨-, -, -, rfl⟩ := done
    exact .refl db

theorem rotateCircleAttempt_withdraws {config : Config} {operation : CircleOperation}
    {transaction : CircleTransactionResult} {maxAttempts : Nat} {nextKey : IdempotencyKey}
    {rotation : Database.Rotation}
    (done : db.rotateCircleAttempt operation transaction maxAttempts nextKey =
      .ok (rotation, db')) : db.Withdraws config db' := by
  simp only [Database.rotateCircleAttempt, Database.recordCircleTransactionUnsafe, bind_ok,
    pure_ok] at done
  obtain ⟨-, ⟨attempts, -, rfl⟩, done⟩ := done
  split at done
  next =>
    cases done
    exact columns_withdraws
  next =>
    simp only [bind_ok, pure_ok, Prod.mk.injEq] at done
    obtain ⟨-, -, -, rfl⟩ := done
    exact columns_withdraws

theorem resumeCircleOperation_withdraws (config : Config) {operation : CircleOperation}
    {maxAttempts : Nat} {nextKey : IdempotencyKey}
    (done : db.resumeCircleOperation operation maxAttempts nextKey = .ok ((), db')) :
    db.order.state ≠ .paid ∧ db.Withdraws config db' := by
  simp only [Database.resumeCircleOperation, bind_ok, revertIf_ok, ne_eq, not_not, exists_const,
    pure_ok, Prod.mk.injEq, true_and] at done
  obtain ⟨-, state, -, rfl⟩ := done
  refine ⟨?_, columns_withdraws⟩
  rw [state]
  cases operation <;> simp [Database.recoveryState]

theorem submitVerdict_withdraws (config : Config) {reviewerId : ReviewerId}
    {decision : ReviewDecision} {reasoning : String} {reviewSlaSeconds : Nat} {now : Timestamp}
    {order : ReviewOrder}
    (done : db.submitVerdict reviewerId decision reasoning reviewSlaSeconds now =
      .ok (order, db')) :
    db' = db ∨ db.order.state = .claimed ∧ db.Withdraws config db' := by
  rcases submitVerdict_ok done with rfl | ⟨state, -, rfl⟩
  · exact .inl rfl
  · exact .inr ⟨state, rfl, rfl, rfl, rfl, fun _ => .inl rfl, by simp, by simp⟩

/-- A timeout expires the offers, and there is another round only below the limit. -/
theorem applyReviewTimeouts_withdraws {config : Config} {reviewSlaSeconds : Nat} {now : Timestamp}
    {action : Database.TimeoutAction} {order : ReviewOrder}
    (done : db.applyReviewTimeouts reviewSlaSeconds config.maxDispatches now =
      .ok ((action, order), db')) :
    db.Withdraws config db' ∧ (action = .none → order = db'.order) := by
  simp only [Database.applyReviewTimeouts, bind_ok, revertIf_ok, exists_const] at done
  obtain ⟨-, elapsed, -, done⟩ := done
  split at done
  next =>
    cases done
    exact ⟨.expire rfl rfl rfl rfl (by simp) (by simp), by simp⟩
  next =>
    split at done
    next unclaimed =>
      split at done
      next fewer =>
        cases done
        exact ⟨.expire rfl rfl rfl rfl (fun _ => .inr ⟨unclaimed.1, fewer⟩) (by simp), by simp⟩
      next =>
        cases done
        exact ⟨.expire rfl rfl rfl rfl (by simp) (by simp), by simp⟩
    next =>
      cases done
      exact ⟨.refl db, fun _ => rfl⟩

/-- An offer begins a round if the order was not offered yet. -/
theorem recordDispatch_assigned {config : Config} {reviewerId : ReviewerId} {expiresAt : Timestamp}
    (assigned : db.Assigned config)
    (done : db.recordDispatch reviewerId expiresAt = .ok ((), db')) :
    db'.Assigned config ∧ db.Counts db' := by
  simp only [Database.recordDispatch, bind_ok, revertIf_ok, exists_const, pure_ok,
    Prod.mk.injEq, true_and] at done
  obtain ⟨state, rfl⟩ := done
  have dispatchable : db.order.state = .paid ∨ db.order.state = .dispatched := by tauto
  have unclaimed := assigned.unclaimed dispatchable
  have count : (if db.order.state = .paid then db.order.dispatchCount + 1
      else db.order.dispatchCount) ≤ config.maxDispatches := by
    split
    next paid => exact assigned.another paid
    next => exact assigned.bounded
  refine ⟨⟨fun other => ?_, fun taken => absurd unclaimed taken, fun _ => unclaimed,
    assigned.independent, count, fun paid => by cases paid⟩, ?_⟩
  · -- the offer replaces a row that was not claimed, as nobody had claimed the order
    rw [← assigned.claimant]
    by_cases same : other = reviewerId
    · subst same
      have free : db.assignments other ≠ some .claimed := by
        rw [ne_eq, assigned.claimant, unclaimed]
        simp
      simp [free]
    · simp [update_of_ne same]
  · by_cases paid : db.order.state = .paid <;> simp [Database.Counts, Database.Dispatches, paid]

/-- Exactly the claimant's offer becomes a claim, and the other offers expire. -/
theorem claimOrder_assigned {reviewerId : ReviewerId} {reviewer : Option Reviewer}
    {identityHash : Nat → Hex} {reviewSlaSeconds : Nat} {now : Timestamp} {order : ReviewOrder}
    (assigned : db.Assigned d.config)
    (done : db.claimOrder reviewerId reviewer identityHash reviewSlaSeconds
      d.config.circleWalletAddress.toList now = .ok (order, db')) :
    db' = db ∨ db.order.state = .dispatched ∧ db'.Assigned d.config ∧ db.Counts db' := by
  unfold Database.claimOrder at done
  split at done
  next => exact .inl (by cases done; rfl)
  next =>
    simp only [bind_ok, revertIf_ok, exists_const, ne_eq, not_not, demand_ok, pure_ok,
      Prod.mk.injEq, Option.mem_toList, Option.mem_def] at done
    obtain ⟨state, _, -, -, -, offered, reviewer, -, -, free, -, rfl⟩ := done
    have unclaimed := assigned.unclaimed (.inr state)
    have nobody (other : ReviewerId) : db.assignments other ≠ some .claimed := by
      rw [ne_eq, assigned.claimant, unclaimed]
      simp
    refine .inr ⟨state, ⟨fun other => ?_, fun _ other => ?_, by simp, ?_, assigned.bounded,
      by simp⟩, ?_⟩
    · simp only [Option.some.injEq]
      by_cases same : other = reviewerId
      · subst same
        simp [offered]
      · have different : reviewerId ≠ other := fun same' => same same'.symm
        by_cases expires : db.assignments other = some .offered
        · simp [expires, same, different]
        · simp [expires, nobody other, different]
    · simp only
      by_cases expires : db.assignments other = some .offered
      · rw [if_pos expires]
        by_cases same : other = reviewerId <;> simp [same]
      · rw [if_neg expires]
        exact expires
    · rintro address ⟨⟩
      exact free
    · simp [Database.Counts, Database.Dispatches, state]

theorem Assigned.created (config : Config) (purchase : Purchase)
    (keys : CircleOperation → IdempotencyKey) : (Database.created purchase keys).Assigned config where
  claimant _ := by simp [Database.created]
  withdrawn claimed := absurd rfl claimed
  unclaimed _ := rfl
  independent _ none := by cases none
  bounded := Nat.zero_le _
  another _ := config.maxDispatches_pos

end Operations

end VapiArc.Review
