import VapiArc.Review.Offers

/-!
# At most one claim

Every step of the service keeps what the rows say about the offers of an order and its
claim, and counts the rounds. Only `dispatch` and the timeouts touch the offers; what
moves money writes none of their columns.
-/
namespace VapiArc.Review

open Checked Function Async Transition

/-- While an order waits for its first offer nobody else writes it. -/
def offers (d : Dependencies) : Contract Store Request where
  invariant s := s.db.Assigned d.config
  pending _ _ := True
  guarantee s s' := s.db.Counts s'.db
  awaiting s s' := s.db.order.state = .paid → s'.db = s.db
  anytime s s' := s'.db = s.db
  guarantee_refl s := .refl s.db
  awaiting_refl _ _ := rfl
  awaiting_trans a b c first second paid :=
    (second (by rw [first paid]; exact paid)).trans (first paid)
  anytime_refl _ := rfl
  anytime_trans _ _ _ first second := second.trans first

section Outside

variable {circle : Circle} {d : Dependencies}

theorem receive_db (s : Store) (request : CircleRequest) : (s.receive request).db = s.db := by
  unfold Store.receive
  split <;> rfl

theorem progress_db (s : Store) (key : IdempotencyKey) (state : TransactionState) :
    (s.progress key state).db = s.db := by
  unfold Store.progress
  split
  next =>
    split
    next => rfl
    next => rfl
  next => rfl

theorem issue_db (s : Store) (request : Request) : (s.issue request).db = s.db := by
  cases request <;> rfl

/-- A callback or an operator writes the order only after its first offer. -/
theorem outside_offers (s : Store) (event : Outside) (assigned : s.db.Assigned d.config) :
    (outside d s event).db = s.db ∨ s.db.order.state ≠ .paid ∧
      (outside d s event).db.Assigned d.config ∧ s.db.Counts (outside d s event).db := by
  cases event with
  | claim reviewerId reviewer identityHash now =>
    cases done : s.db.claimOrder reviewerId reviewer identityHash d.config.reviewSlaSeconds
        d.config.circleWalletAddress.toList now with
    | error e => exact .inl (by simp only [outside, done, Store.committed])
    | ok pair =>
      rcases claimOrder_assigned assigned done with same | ⟨state, assigned', counts⟩
      · exact .inl (by simp only [outside, done, Store.committed, same])
      · simp only [outside, done, Store.committed]
        exact .inr ⟨by simp [state], assigned', counts⟩
  | verdict reviewerId decision reasoning now =>
    cases done : s.db.submitVerdict reviewerId decision reasoning d.config.reviewSlaSeconds
        now with
    | error e => exact .inl (by simp only [outside, done, Store.committed])
    | ok pair =>
      rcases submitVerdict_withdraws d.config done with same | ⟨state, withdraws⟩
      · exact .inl (by simp only [outside, done, Store.committed, same])
      · simp only [outside, done, Store.committed]
        exact .inr ⟨by simp [state], withdraws.assigned assigned, withdraws.counts⟩
  | resume operation nextKey =>
    simp only [outside]
    split
    next done =>
      obtain ⟨state, withdraws⟩ := resumeCircleOperation_withdraws d.config done
      exact .inr ⟨state, withdraws.assigned assigned, withdraws.counts⟩
    next => exact .inl rfl
  | creates request => exact .inl (receive_db s request)
  | progresses key state => exact .inl (progress_db s key state)

theorem offers_outside : Async.Outside (host circle d) (offers d) where
  invariant s event assigned _ := by
    change (outside d s event).db.Assigned d.config
    rcases outside_offers s event assigned with same | ⟨-, assigned', -⟩
    · rw [same]
      exact assigned
    · exact assigned'
  guarantee s event assigned _ := by
    change s.db.Counts (outside d s event).db
    rcases outside_offers s event assigned with same | ⟨-, -, counts⟩
    · rw [same]
      exact .refl s.db
    · exact counts
  awaiting s event assigned _ := by
    intro paid
    rcases outside_offers s event assigned with same | ⟨unpaid, -⟩
    · exact same
    · exact absurd paid unpaid
  anytime s event _ _ remote := by
    cases event with
    | claim => cases remote
    | verdict => cases remote
    | resume => cases remote
    | creates request => exact receive_db s request
    | progresses key state => exact progress_db s key state

end Outside

section Rules

variable (circle : Circle) (d : Dependencies)

/-- From rows of which `P` holds, the routine keeps the offers and the claim. -/
abbrev Assigns {α : Type} (P : Database → Prop) (x : Processor α) (Q : α → Database → Prop)
    (E : Database → Prop) : Prop :=
  Triple (host circle d) (offers d) (fun s => P s.db) x (fun a s => Q a s.db) fun _ s => E s.db

/-- The routine keeps them whatever the rows are. -/
abbrev Spares {α : Type} (x : Processor α) : Prop :=
  Assigns circle d (fun _ => True) x (fun _ _ => True) fun _ => True

variable {circle d} {α β : Type} {P : Database → Prop} {Q : α → Database → Prop}
  {E : Database → Prop}

theorem rows_stable (P : Database → Prop) : Stable (offers d) fun s => P s.db := by
  intro s s' here later _
  have same : s'.db = s.db := later
  rw [same]
  exact here

theorem database_assigns {t : Inputs → Database → Except Failure (α × Database)}
    (committed : ∀ db, P db → db.Assigned d.config → ∀ inputs a db',
      t inputs db = .ok (a, db') → db'.Assigned d.config ∧ db.Counts db' ∧ Q a db')
    (refused : ∀ db, P db → E db) : Assigns circle d P (Processor.database t) Q E := by
  refine .transaction_ (rows_stable P) ?_ (fun s here _ _ _ _ _ => refused s.db here)
  intro s here assigned inputs _ a s' done
  cases result : t inputs s.db with
  | error e => simp [result, Except.map] at done
  | ok pair =>
    simp only [result, Except.map, Except.ok.injEq, Prod.mk.injEq] at done
    obtain ⟨rfl, rfl⟩ := done
    obtain ⟨assigned', counts, holds⟩ := committed s.db here assigned inputs pair.1 pair.2 result
    exact ⟨counts, assigned', holds⟩

theorem withdraws_assigns {t : Inputs → Database → Except Failure (α × Database)}
    (withdraws : ∀ db, P db → ∀ inputs a db', t inputs db = .ok (a, db') →
      db.Withdraws d.config db' ∧ Q a db')
    (refused : ∀ db, P db → E db) : Assigns circle d P (Processor.database t) Q E := by
  refine database_assigns (fun db here assigned inputs a db' done => ?_) refused
  obtain ⟨withdrawn, holds⟩ := withdraws db here inputs a db' done
  exact ⟨withdrawn.assigned assigned, withdrawn.counts, holds⟩

theorem database_spares {t : Inputs → Database → Except Failure (α × Database)}
    (withdraws : ∀ inputs db a db', t inputs db = .ok (a, db') → db.Withdraws d.config db') :
    Spares circle d (Processor.database t) :=
  withdraws_assigns (fun db _ inputs a db' done => ⟨withdraws inputs db a db' done, trivial⟩)
    fun _ _ => trivial

theorem read_assigns {f : Inputs → Database → α} (holds : ∀ db, P db → ∀ inputs, Q (f inputs db) db)
    (refused : ∀ db, P db → E db) : Assigns circle d P (Processor.read f) Q E := by
  refine withdraws_assigns (fun db here inputs a db' done => ?_) refused
  cases done
  exact ⟨.refl db, holds db here inputs⟩

theorem read_spares (f : Inputs → Database → α) : Spares circle d (Processor.read f) :=
  read_assigns (fun _ _ _ => trivial) fun _ _ => trivial

theorem updateOrder_assigns {state : ReviewOrderState}
    {fields : Inputs → Database.OrderUpdate} (paid : state = .paid → ∀ db, P db → db.order.state = .paid)
    (dispatched : state ≠ .dispatched) :
    Assigns circle d P (Processor.updateOrder state fields) (fun _ db => db.order.state = state)
      (fun _ => False) := by
  refine .transaction_ (rows_stable P) ?_ (fun _ _ _ _ _ _ failed => by cases failed)
  intro s here assigned inputs _ a s' done
  cases done
  have withdraws : s.db.Withdraws d.config (s.db.updated state (fields inputs)) :=
    updated_withdraws d.config (fields inputs) (fun now => paid now s.db here) dispatched
  exact ⟨withdraws.counts, withdraws.assigned assigned, rfl⟩

theorem updateOrder_spares {state : ReviewOrderState} {fields : Inputs → Database.OrderUpdate}
    (paid : state ≠ .paid) (dispatched : state ≠ .dispatched) :
    Spares circle d (Processor.updateOrder state fields) :=
  (updateOrder_assigns (P := fun _ => True) (fun now => absurd now paid) dispatched).weaken
    (fun _ here => here) (fun _ _ _ => trivial) (fun _ _ no => no.elim)

/-- What survives an await is known of its reply, and of its failure. -/
theorem await_assigns {request : Request} (kept : ∀ db db', P db →
      (db.order.state = .paid → db' = db) → P db') :
    Assigns circle d P (.await request) (fun _ => P) P := by
  have still (s s' : Store) (here : P s.db)
      (later : (offers d).awaiting ((host circle d).issue request s) s') : P s'.db := by
    have same : ((host circle d).issue request s).db = s.db := issue_db s request
    refine kept s.db s'.db here fun paid => ?_
    rw [← same]
    exact later (by rw [same]; exact paid)
  refine .await_ (rows_stable P) ?_ (fun _ _ _ _ _ _ => trivial)
    (fun s s' here _ later _ _ _ => still s s' here later)
    (fun s s' here _ later _ _ _ => still s s' here later)
  intro s _ assigned
  change s.db.Counts (s.issue request).db ∧ (s.issue request).db.Assigned d.config
  rw [issue_db]
  exact ⟨.refl s.db, assigned⟩

theorem perform_assigns {request : Request} (kept : ∀ db db', P db →
      (db.order.state = .paid → db' = db) → P db') :
    Assigns circle d P (Processor.perform request) (fun _ => P) P :=
  .bind_ (await_assigns kept) fun _ => .pure_ fun _ here => here

theorem perform_spares (request : Request) : Spares circle d (Processor.perform request) :=
  perform_assigns fun _ _ _ _ => trivial

/-- What is known of the rows is of no use to the routine. -/
theorem Spares.anywhere {x : Processor α} {P : Store → Prop} (spares : Spares circle d x) :
    Triple (host circle d) (offers d) P x (fun _ _ => True) fun _ _ => True :=
  spares.weaken (fun _ _ => trivial) (fun _ _ after => after) (fun _ _ failed => failed)

theorem pure_spares (a : α) : Spares circle d (pure a : Processor α) := .pure_ fun _ _ => trivial

theorem throw_spares (e : Failure) : Spares circle d (throw e : Processor α) :=
  .throw_ fun _ _ => trivial

theorem skipIf_spares {condition : Bool} {x : Processor Unit} (spares : Spares circle d x) :
    Spares circle d (Processor.skipIf condition x) := by
  unfold Processor.skipIf
  split
  next => exact pure_spares ()
  next => exact spares

end Rules

section Money

variable {circle : Circle} {d : Dependencies}

theorem execute_spares {request : CircleRequest} {onCreated : CircleTransactionResult → Processor Unit}
    (records : ∀ transaction, Spares circle d (onCreated transaction)) :
    Spares circle d (Processor.execute request onCreated) := by
  refine .bind_ (M := fun _ _ => True) ?_ fun id => .bind_ (records _) fun _ => ?_
  · refine .bind_ (await_assigns fun _ _ _ _ => trivial) fun reply => ?_
    split
    next => exact pure_spares _
    next => exact throw_spares _
  · refine .bind_ (await_assigns fun _ _ _ _ => trivial) fun reply => ?_
    split
    next => exact pure_spares _
    next => exact throw_spares _

theorem record_spares (operation : CircleOperation) (transaction : CircleTransactionResult) :
    Spares circle d (Processor.recordCircleTransaction operation transaction) := by
  refine database_spares fun _ db u db' done => ?_
  simp only [Database.recordCircleTransaction, bind_ok, pure_ok, Prod.mk.injEq, true_and] at done
  obtain ⟨recorded, here, rfl⟩ := done
  exact recordCircleTransaction_withdraws here

theorem requireCompleted_spares (operation : CircleOperation)
    (transaction : CircleTransactionResult) :
    Spares circle d (Processor.requireCompletedCircleTransaction d operation transaction) := by
  unfold Processor.requireCompletedCircleTransaction
  split
  next => exact pure_spares _
  next =>
    dsimp only
    split
    next =>
      refine .bind_ (database_spares fun _ _ _ _ done => rotateCircleAttempt_withdraws done) ?_
      exact fun _ => throw_spares _
    next => exact throw_spares _

/-- The part that the three operations share. -/
theorem circleOperation_spares {operation : CircleOperation} {columns : CircleColumns}
    {send : Processor CircleTransactionResult} (sends : Spares circle d send) :
    Spares circle d (Processor.circleOperation d operation columns send) := by
  refine .bind_ (M := fun _ _ => True) ?_ fun transaction => ?_
  · unfold Processor.recordedOrSent
    split
    next =>
      refine .bind_ (await_assigns fun _ _ _ _ => trivial) fun reply => ?_
      split
      next => exact pure_spares _
      next => exact throw_spares _
    next =>
      refine .bind_ (database_spares fun _ _ _ _ done => markCircleRequestStarted_withdraws done) ?_
      exact fun _ => sends
  · refine .bind_ (record_spares operation transaction) fun _ => ?_
    exact .bind_ (requireCompleted_spares operation transaction) fun _ => pure_spares _

theorem refund_spares : Spares circle d (Processor.refund d) := by
  refine .bind_ (read_spares _) fun order => ?_
  split
  next => exact pure_spares ()
  next =>
    split
    next => exact .bind_ (updateOrder_spares (by simp) (by simp)) fun _ => pure_spares ()
    next =>
      refine .tryCatch_ (M := fun _ _ => True) ?_ fun error => ?_
      · refine .bind_ (circleOperation_spares (execute_spares (record_spares .refund))) ?_
        intro result
        exact .bind_ (updateOrder_spares (by simp) (by simp)) fun _ => pure_spares ()
      · exact .bind_ (updateOrder_spares (by simp) (by simp)) fun _ => pure_spares ()

/-- An abort keeps the state that was read, which is not one of an order under offer. -/
theorem validatedOrAborted_spares {order : ReviewOrder} (seconds : Nat)
    (paid : order.state ≠ .paid) (dispatched : order.state ≠ .dispatched) :
    Spares circle d (Processor.validatedOrAborted order seconds) := by
  refine .tryCatch_ (M := fun _ _ => True) ?_ fun error => ?_
  · exact .bind_ (perform_spares _) fun _ => pure_spares order
  · cases error with
    | error => exact throw_spares _
    | permanent code =>
      simp only [Processor.markSettlementAborted]
      split
      next => exact pure_spares order
      next => exact updateOrder_spares paid dispatched

theorem settleOnChain_spares (order : ReviewOrder) (reviewer : ReviewerSnapshot)
    (evidenceHash : Hex) (evidenceJson : String) (payoutTransactionHash : Hex) :
    Spares circle d (Processor.settleOnChain d order reviewer evidenceHash evidenceJson
      payoutTransactionHash) := by
  refine .bind_ (circleOperation_spares ?_) fun result =>
    .bind_ (updateOrder_spares (by simp) (by simp)) fun _ => pure_spares ()
  unfold Processor.resolve
  split
  next => exact throw_spares _
  next => exact execute_spares (record_spares .resolution)

theorem validatedBeforeRequest_spares {order : ReviewOrder} (requested : Bool)
    (state : order.state = .reviewerPaid) :
    Spares circle d (Processor.validatedBeforeRequest d order requested) := by
  unfold Processor.validatedBeforeRequest
  split
  next =>
    split
    next => exact throw_spares _
    next => exact validatedOrAborted_spares _ (by simp [state]) (by simp [state])
  next => exact pure_spares order

theorem settle_spares (order : ReviewOrder) : Spares circle d (Processor.settle d order) := by
  unfold Processor.settle
  split
  next reviewer payoutTransactionHash _ _ _ =>
    refine .tryCatch_ (M := fun _ _ => True) ?_ fun error => ?_
    · refine .bind_ (M := fun _ _ => True) ?_ fun evidence => ?_
      · refine database_spares fun _ db evidence db' done => ?_
        simp only [Except.map] at done
        split at done
        next => cases done
        next =>
          cases done
          exact .refl db
      · -- the order that is read has just been written
        refine .bind_ ((updateOrder_assigns (P := fun _ => True) (fun now => by cases now)
          (by simp)).weaken (fun _ here => here) (fun _ _ here => here)
          (fun _ _ no => no.elim)) fun _ => ?_
        refine .bind_ (read_assigns (P := fun db => db.order.state = .reviewerPaid)
          (Q := fun pair _ => pair.1.state = .reviewerPaid) (fun _ here _ => here)
          fun _ _ => trivial) fun pair => ?_
        refine .known (fun _ here => here) fun state => ?_
        refine .bind_ (Spares.anywhere (validatedBeforeRequest_spares _ state))
          fun currentOrder => ?_
        split
        next => exact refund_spares
        next =>
          refine .bind_ (skipIf_spares (perform_spares _)) fun _ => ?_
          exact settleOnChain_spares _ _ _ _ _
    · exact .bind_ (updateOrder_spares (by simp) (by simp)) fun _ => pure_spares ()
  next => exact .bind_ (updateOrder_spares (by simp) (by simp)) fun _ => pure_spares ()

theorem readyUnlessRequested_spares {order : ReviewOrder} (paid : order.state ≠ .paid)
    (dispatched : order.state ≠ .dispatched) :
    Spares circle d (Processor.readyUnlessRequested d order) := by
  unfold Processor.readyUnlessRequested Processor.readyForPayout
  split
  next =>
    split
    next => exact pure_spares order
    next =>
      refine .bind_ (validatedOrAborted_spares _ paid dispatched) fun currentOrder => ?_
      split
      next => exact pure_spares currentOrder
      next =>
        refine .bind_ (read_spares _) fun late => .bind_ ?_ fun _ =>
          .bind_ (perform_spares _) fun _ => pure_spares currentOrder
        unfold Processor.throwIf
        split
        next => exact throw_spares _
        next => exact pure_spares ()
  next => exact pure_spares order

theorem payReviewer_spares {order : ReviewOrder} (paid : order.state ≠ .paid)
    (dispatched : order.state ≠ .dispatched) :
    Spares circle d (Processor.payReviewer d order) := by
  unfold Processor.payReviewer
  split
  next =>
    split
    next => exact .bind_ (updateOrder_spares (by simp) (by simp)) fun _ => pure_spares ()
    next =>
      refine .tryCatch_ (M := fun _ _ => True) ?_ fun error => ?_
      · refine .bind_ (readyUnlessRequested_spares paid dispatched) fun currentOrder => ?_
        refine .bind_ (circleOperation_spares (execute_spares (record_spares .payout))) ?_
        intro result
        refine .bind_ (updateOrder_spares (by simp) (by simp)) fun _ => ?_
        exact .bind_ (read_spares _) fun paidOrder => settle_spares paidOrder
      · exact .bind_ (updateOrder_spares (by simp) (by simp)) fun _ => pure_spares ()
  next => exact .bind_ (updateOrder_spares (by simp) (by simp)) fun _ => pure_spares ()

end Money

section Rounds

variable {circle : Circle} {d : Dependencies}

/-- The order still waits for its first offer. -/
abbrev Database.Paid (db : Database) : Prop := db.order.state = .paid

theorem Database.Paid.kept (db db' : Database) (paid : db.Paid)
    (still : db.order.state = .paid → db' = db) : db'.Paid := by
  rw [still paid]
  exact paid

/-- The order goes back to where it was, with an error that is noted. -/
theorem undispatched_assigns {error : String} :
    Assigns circle d Database.Paid
      (Processor.updateOrder .paid fun _ => { lastError := some (some error) }) (fun _ _ => True)
      (fun _ => False) :=
  (updateOrder_assigns (fun _ _ paid => paid) (by simp)).weaken (fun _ here => here)
    (fun _ _ _ => trivial) (fun _ _ no => no)

theorem reviewableBeforeDispatch_assigns (order : ReviewOrder) :
    Assigns circle d Database.Paid (Processor.reviewableBeforeDispatch d order)
      (fun reviewable db => reviewable = true → db.Paid) (fun _ => True) := by
  unfold Processor.reviewableBeforeDispatch
  split
  next =>
    refine .bind_ (undispatched_assigns.weaken (fun _ here => here) (fun _ _ after => after)
      (fun _ _ no => no.elim)) fun _ => ?_
    exact .pure_ fun _ _ no => by cases no
  next =>
    refine .tryCatch_ (M := fun _ s => s.db.Paid) ?_ fun error => ?_
    · refine .bind_ (M := fun _ s => s.db.Paid) ?_ fun _ => ?_
      · unfold Processor.throwIf
        split
        next => exact .throw_ fun _ here => here
        next => exact .pure_ fun _ here => here
      refine .bind_ (read_assigns (Q := fun _ => Database.Paid) (fun _ here _ => here)
        fun _ here => here) fun now => ?_
      exact .bind_ (perform_assigns Database.Paid.kept) fun _ => .pure_ fun _ here _ => here
    · cases error with
      | error =>
        refine .bind_ (undispatched_assigns.weaken (fun _ here => here) (fun _ _ after => after)
          (fun _ _ no => no.elim)) fun _ => ?_
        exact .pure_ fun _ _ no => by cases no
      | permanent code =>
        refine .bind_ (M := fun _ _ => True)
          (Spares.anywhere (database_spares fun _ db _ db' done => ?_)) fun _ => ?_
        · cases done
          exact .expire rfl rfl rfl rfl .inl id
        · refine .bind_ (updateOrder_spares (by simp) (by simp)) fun _ => ?_
          exact .bind_ refund_spares fun _ => .pure_ fun _ _ no => by cases no

/-- Nothing has been offered yet, or something has. -/
def Sent : Nat → Database → Prop
  | 0, db => db.Paid
  | _ + 1, _ => True

theorem Sent.kept (sent : Nat) (db db' : Database) (here : Sent sent db)
    (still : db.order.state = .paid → db' = db) : Sent sent db' := by
  cases sent with
  | zero => exact Database.Paid.kept db db' here still
  | succ sent => trivial

theorem offerTo_assigns (order : ReviewOrder) (expiresAt : Timestamp) (reviewers : List Reviewer)
    (sent : Nat) : Assigns circle d (Sent sent) (Processor.offerTo order expiresAt reviewers sent)
      (fun sent => Sent sent) (fun _ => False) := by
  induction reviewers generalizing sent with
  | nil => exact .pure_ fun _ here => here
  | cons reviewer rest ih =>
    -- a failure leaves the number of offers as it was
    refine .bind_ (.tryCatch_ (M := fun _ s => Sent sent s.db) ?_ fun _ =>
      .pure_ fun _ here => here) ih
    refine .bind_ (M := fun _ s => Sent sent s.db) ?_ fun _ => ?_
    · unfold Processor.skipIf
      split
      next => exact .pure_ fun _ here => here
      next => exact perform_assigns (Sent.kept sent)
    · refine .bind_ (perform_assigns (Sent.kept sent)) fun _ => ?_
      refine .bind_ (database_assigns (Q := fun _ _ => True) (fun db _ assigned _ u db' done => ?_)
        fun _ here => here) fun _ => .pure_ fun _ _ => trivial
      obtain ⟨assigned', counts⟩ := recordDispatch_assigned assigned done
      exact ⟨assigned', counts, trivial⟩

theorem dispatch_assigns (order : ReviewOrder) :
    Assigns circle d Database.Paid (Processor.dispatch d order) (fun _ _ => True)
      (fun _ => True) := by
  have undispatched {error : String} : Assigns circle d Database.Paid (do
      let _ ← Processor.updateOrder .paid fun _ => { lastError := some (some error) })
      (fun _ _ => True) (fun _ => True) :=
    .bind_ (undispatched_assigns.weaken (fun _ here => here) (fun _ _ after => after)
      (fun _ _ no => no.elim)) fun _ => .pure_ fun _ _ => trivial
  refine .bind_ (reviewableBeforeDispatch_assigns order) fun reviewable => ?_
  split
  next yes =>
    refine .bind_ ((read_assigns (P := Database.Paid) (Q := fun _ => Database.Paid)
      (fun _ here _ => here) fun _ _ => trivial).weaken (fun _ here => here yes)
      (fun _ _ after => after) (fun _ _ failed => failed)) fun pair => ?_
    obtain ⟨telegram, reviewers⟩ := pair
    dsimp only
    split
    next => exact undispatched
    next =>
      split
      next => exact undispatched
      next =>
        -- a round without an offer fails while the order is still paid
        refine .tryCatch_ (M := fun _ s => s.db.Paid) ?_ fun error => undispatched
        refine .bind_ (M := fun sent s => Sent sent s.db) ?_ fun sent => ?_
        · refine .bind_ (M := fun _ s => s.db.Paid) ?_ fun _ => ?_
          · unfold Processor.throwIf
            split
            next => exact .throw_ fun _ here => here
            next => exact .pure_ fun _ here => here
          · refine .bind_ (read_assigns (Q := fun _ => Sent 0) (fun _ here _ => here)
              fun _ here => here) fun now => ?_
            exact (offerTo_assigns _ _ _ 0).weaken (fun _ here => here) (fun _ _ after => after)
              (fun _ _ no => no.elim)
        · unfold Processor.throwIf
          split
          next none =>
            obtain rfl := of_decide_eq_true none
            exact .throw_ fun _ here => here
          next => exact .pure_ fun _ _ => trivial
  next => exact .pure_ fun _ _ => trivial

theorem applyReviewTimeouts_assigns :
    Assigns circle d (fun _ => True)
      (Processor.database fun inputs db => db.applyReviewTimeouts d.config.reviewSlaSeconds
        d.config.maxDispatches inputs.now)
      (fun result db => result.1 = .none → result.2 = db.order) (fun _ => True) := by
  refine withdraws_assigns (fun db _ inputs result db' done => ?_) fun _ _ => trivial
  exact applyReviewTimeouts_withdraws done

theorem processOrder_spares : Spares circle d (Processor.processOrder d) := by
  refine .bind_ applyReviewTimeouts_assigns fun result => ?_
  obtain ⟨action, order⟩ := result
  cases action with
  | expired =>
    exact Spares.anywhere refund_spares
  | redispatched => exact .pure_ fun _ _ => trivial
  | none =>
    refine .bind_ (read_assigns (P := fun db => Database.TimeoutAction.none = .none → order = db.order)
      (Q := fun _ db => order = db.order) (fun _ here _ => here rfl) fun _ _ => trivial)
      fun exhausted => ?_
    -- only the first offer depends on the state of the rows
    suffices spares : order.state ≠ .paid → Spares circle d _ by
      by_cases paid : order.state = .paid
      · split
        next => exact .pure_ fun _ _ => trivial
        next =>
          simp only [paid]
          refine (dispatch_assigns order).weaken (fun s here => ?_) (fun _ _ after => after)
            (fun _ _ failed => failed)
          change s.db.order.state = .paid
          rw [← here]
          exact paid
      · exact Spares.anywhere (spares paid)
    intro unpaid
    split
    next => exact pure_spares ()
    next =>
      split
      next paid => exact absurd paid unpaid
      next state => exact payReviewer_spares (by simp [state]) (by simp [state])
      next state => exact payReviewer_spares (by simp [state]) (by simp [state])
      next => exact settle_spares order
      next => exact settle_spares order
      next => exact refund_spares
      all_goals exact pure_spares ()

end Rounds

section Service

variable {circle : Circle} {d : Dependencies} {opening : Opening}
  {history earlier later : List (ServiceState × ServiceEvent)} {u v : ServiceState}

theorem offers_spawned (s : Store) (cause : Cause) :
    Safe (host circle d) (offers d) ((host circle d).spawn cause) s := by
  have starts {x : Processor Unit} (spares : Spares circle d x) :
      Safe (host circle d) (offers d) (Routine.start x) s :=
    spares _ _ (fun _ _ _ => .done) (fun _ _ _ => .done) s trivial
  cases cause with
  | sweep => exact starts (.bind_ (read_spares _) fun _ => skipIf_spares processOrder_spares)
  | wake => exact starts processOrder_spares
  | webhook id => exact starts (.bind_ (read_spares _) fun _ => skipIf_spares processOrder_spares)

theorem offers_good (run : ServiceRun circle d opening history v) :
    v.store.db.Assigned d.config ∧ Good (host circle d) (offers d) v :=
  run_good offers_outside (fun s cause _ => offers_spawned s cause) run
    (Assigned.created d.config opening.purchase opening.keys)

/-- The step takes the order from paid to dispatched. -/
def beginsRound (circle : Circle) (d : Dependencies) (entry : ServiceState × ServiceEvent) : Bool :=
  entry.1.store.db.Dispatches ((host circle d).next entry.1 entry.2).store.db

/-- The order counts the rounds of its history. -/
theorem dispatchCount_eq (run : ServiceRun circle d opening history v) :
    v.store.db.order.dispatchCount = history.countP (beginsRound circle d) := by
  refine run.historyInvariant (fun history v => v.store.db.order.dispatchCount =
    history.countP (beginsRound circle d)) rfl ?_
  intro history s t run counted admitted
  obtain ⟨assigned, good⟩ := offers_good run
  obtain ⟨-, -, counts⟩ := step_good offers_outside (fun s cause _ => offers_spawned s cause)
    assigned good admitted
  have step : ((host circle d).system.next s t).store.db.order.dispatchCount =
      s.store.db.order.dispatchCount + if beginsRound circle d (s, t) then 1 else 0 := by
    simp only [beginsRound, decide_eq_true_eq]
    exact counts
  rw [step, counted, List.countP_cons]

variable (circle d) in
/-- Whatever happens around the processor: an assignment is claimed exactly if its reviewer
is the order's, so at most one is; a claimed order has no open offers; the snapshot of the
reviewer stays as it was claimed, and pays none of the parties; and the order counts its
rounds, of which there are at most as many as configured. -/
theorem claim_unique (before : ServiceRun circle d opening earlier u)
    (run : Run (host circle d).system u later v) :
    (∀ first second, v.store.db.assignments first = some .claimed →
      v.store.db.assignments second = some .claimed → first = second) ∧
    (∀ reviewerId, v.store.db.assignments reviewerId = some .claimed ↔
      v.store.db.order.reviewerId = some reviewerId) ∧
    (v.store.db.order.reviewerId ≠ none → ∀ reviewerId,
      v.store.db.assignments reviewerId ≠ some .offered) ∧
    (u.store.db.order.reviewerId ≠ none → u.store.db.order.SameClaim v.store.db.order ∧
      Database.reviewerSnapshot v.store.db.order = Database.reviewerSnapshot u.store.db.order) ∧
    (∀ address ∈ v.store.db.order.reviewerPayoutAddress,
      address ≠ v.store.db.order.purchase.jobClient ∧
      address ≠ v.store.db.order.purchase.jobProvider ∧
      d.config.circleWalletAddress ≠ some address) ∧
    v.store.db.order.dispatchCount = (later ++ earlier).countP (beginsRound circle d) ∧
    v.store.db.order.dispatchCount ≤ d.config.maxDispatches := by
  obtain ⟨assigned, -⟩ := offers_good (before.trans run)
  refine ⟨fun first second claimed claimed' => ?_, assigned.claimant, assigned.withdrawn,
    fun taken => ?_, fun address here => ?_, dispatchCount_eq (before.trans run),
    assigned.bounded⟩
  · -- both are the reviewer of the order
    have here := (assigned.claimant first).mp claimed
    have there := (assigned.claimant second).mp claimed'
    exact Option.some.inj (here.symm.trans there)
  · have remembers : Remembers u.store v.store :=
      service_related Remembers .refl (fun _ _ _ first second => first.trans second)
        (fun _ _ sound _ proceeds => proceeds.remembers sound.phases) before run
    have same := remembers.claim taken
    refine ⟨same, ?_⟩
    simp only [Database.reviewerSnapshot, same.reviewerId, same.reviewerAlias,
      same.reviewerPayoutAddress, same.reviewerTelegramIdentityHash]
  · -- the claim was refused to anyone who is a party of the job or has the paying wallet
    have free := assigned.independent address here
    simp only [Config.Conflicts, not_or] at free
    exact free

/-- The walkthrough has one round, and its reviewer's claim outlasts the settlement. -/
theorem claim_unique_walkthrough :
    Walkthrough.settled.store.db.assignments 5 = some .claimed ∧
      Walkthrough.settled.store.db.order.reviewerPayoutAddress = some 23 ∧
      ((host Walkthrough.circle Walkthrough.dependencies).system.record Walkthrough.retried []
        Walkthrough.settling ++ (host Walkthrough.circle Walkthrough.dependencies).system.record
        Walkthrough.start [] Walkthrough.failing).countP
          (beginsRound Walkthrough.circle Walkthrough.dependencies) = 1 := by
  obtain ⟨-, claimant, -, kept, -, counted, -⟩ := claim_unique Walkthrough.circle
    Walkthrough.dependencies Walkthrough.retried_run Walkthrough.settled_run
  have claimed : Walkthrough.retried.store.db.order.reviewerId = some 5 := by decide +kernel
  have address : Walkthrough.retried.store.db.order.reviewerPayoutAddress = some 23 := by
    decide +kernel
  have count : Walkthrough.settled.store.db.order.dispatchCount = 1 := by decide +kernel
  have same := (kept (by rw [claimed]; simp)).1
  refine ⟨(claimant 5).mpr (same.reviewerId.trans claimed),
    same.reviewerPayoutAddress.trans address, ?_⟩
  rw [← counted, count]

end Service

end VapiArc.Review
