import VapiArc.Review.Payments

/-!
# The processor meets the contract

Dispatch, timeouts and the rest of `processOrder`, and from them what holds in every state
of every run.
-/
namespace VapiArc.Review

open Checked Function Async Transition

section Dispatch

variable {circle : Circle} {d : Dependencies} {s : Store} {db : Database}

/-- Before anything has been requested there are no attempts. -/
theorem Ledger.no_attempts {maxAttempts : Nat} {b : Book} (ledger : Ledger circle maxAttempts b)
    (requested : b.requested = []) : b.attempts = [] := by
  rw [List.eq_nil_iff_forall_not_mem]
  intro a member
  obtain ⟨transaction, here, -⟩ := ledger.truthful a member
  have inside := (ledger.created _ transaction here).1
  rw [requested] at inside
  cases inside

theorem moved_book {order' : ReviewOrder} (assignments : ReviewerId → Option AssignmentStatus)
    (columns : order'.circle = s.db.order.circle) :
    Store.book { s with db := { s.db with order := order', assignments } } = s.book := by
  have key : Database.circleIdempotencyKey { s.db with order := order', assignments } =
      s.db.circleIdempotencyKey :=
    funext fun operation => congrArg CircleColumns.key (congrFun columns operation)
  have id : Database.circleId { s.db with order := order', assignments } = s.db.circleId :=
    funext fun operation => congrArg CircleColumns.id (congrFun columns operation)
  simp only [Store.book, key, id]

/-- No reviewer has given a verdict, or can. -/
theorem Sound.expire {order' : ReviewOrder} (sound : Sound circle d s)
    (assignments : ReviewerId → Option AssignmentStatus) (phase : s.db.order.state.phase = .verdict)
    (state : order'.state = .expired) (terms : s.db.order.SameTerms order')
    (columns : order'.circle = s.db.order.circle)
    (hash : order'.evidenceHash = s.db.order.evidenceHash)
    (json : order'.evidenceJson = s.db.order.evidenceJson) :
    let s' : Store := { s with db := { s.db with order := order', assignments } }
    Sound circle d s' ∧ Proceeds s s' ∧ Ready d s'.db .refund := by
  obtain ⟨requested, ⟨unpaid, unhashed, unwritten⟩, unresolved⟩ :=
    sound.phases.before_verdict phase
  obtain ⟨-, undecided, unaborted⟩ := sound.phases.awaitsVerdict phase
  have book := moved_book assignments columns
  have key := congrArg Book.key book
  have attempts : s.db.attempts = [] := sound.ledger.no_attempts requested
  refine ⟨⟨?_, ?_⟩, .of_terms terms rfl ?_ (absurd unaborted) key rfl (.refl _), .inl state, ?_⟩
  · rw [book]
    exact sound.ledger
  · refine .reviewing requested ?_ ?_ (.inr (.inr ⟨state, terms.decision.trans undecided⟩))
    · exact ⟨terms.paidAt.trans unpaid, hash.trans unhashed, json.trans unwritten⟩
    · have same := congrFun key .resolution
      simp only [Store.book] at same
      simpa only [Database.hasCurrentCircleRequestStarted, same] using unresolved
  · exact .inr (by rw [state]; exact .expire phase)
  · refine .of_permits .refund (.inl state) ?_
    simp [Database.listCircleAttempts, attempts, Database.exhausted]

/-- The order moves between offers. -/
theorem Sound.offer (sound : Sound circle d s) (order' : ReviewOrder)
    (assignments : ReviewerId → Option AssignmentStatus)
    (before : s.db.order.state = .paid ∨ s.db.order.state = .dispatched)
    (after : order'.state = .paid ∨ order'.state = .dispatched)
    (terms : s.db.order.SameTerms order') (columns : order'.circle = s.db.order.circle)
    (abort : order'.settlementAbortCode = s.db.order.settlementAbortCode)
    (hash : order'.evidenceHash = s.db.order.evidenceHash)
    (json : order'.evidenceJson = s.db.order.evidenceJson) :
    let s' : Store := { s with db := { s.db with order := order', assignments } }
    Sound circle d s' ∧ Proceeds s s' := by
  have phase : s.db.order.state.phase = .verdict := by
    rcases before with state | state <;> (rw [state]; rfl)
  have phase' : order'.state.phase = .verdict := by
    rcases after with state | state <;> (rw [state]; rfl)
  have book := moved_book assignments columns
  refine ⟨⟨?_, ?_⟩, .of_terms terms rfl ?_ (fun _ => abort) (congrArg Book.key book) rfl (.refl _)⟩
  · rw [book]
    exact sound.ledger
  · refine sound.phases.moved _ _ terms columns (phase'.trans phase.symm) abort
      (fun _ => sound.phases.unclaimed before) (fun other => ?_) hash json
    rw [other] at phase'
    cases phase'
  · rcases before with state | state <;> rcases after with state' | state' <;> dsimp only <;>
      rw [state, state']
    · exact .inl rfl
    · exact .inr .dispatch
    · exact .inr .redispatch
    · exact .inl rfl

theorem expireAssignments_meets :
    Meets circle d (fun s => s.db = db)
      (Processor.database fun _ db => .ok ((), db.expireAssignments))
      (fun _ s => s.db = db.expireAssignments) (fun _ _ => False) := by
  refine database_at ?_ (fun _ _ _ _ _ failed => by cases failed)
  rintro s rfl sound inputs - ⟨⟩ db' done
  cases done
  have terms : s.db.order.SameTerms s.db.order := .refl s.db.order
  exact ⟨⟨sound.ledger, sound.phases.moved _ _ terms rfl rfl rfl sound.phases.unclaimed id rfl rfl⟩,
    .of_terms terms rfl (.inl rfl) (fun _ => rfl) rfl rfl (.refl _), rfl⟩

/-- The job can never be reviewed: the order expires, and is refunded. -/
theorem unreviewable_meets {code : AbortCode} (state : db.order.state = .paid) :
    Meets circle d (fun s => s.db = db)
      (Processor.updateOrder .expired fun inputs =>
        { settlementAbortCode := some (some code)
          settlementAbortedAt := some (some inputs.now)
          claimExpiresAt := some none
          lastError := some none })
      (fun _ s => Ready d s.db .refund) (fun _ _ => False) := by
  refine update_at (stable_at db) ?_
  rintro s rfl sound inputs
  exact sound.expire s.db.assignments (by rw [state]; rfl) rfl
    (.of_columns rfl rfl) rfl rfl rfl

/-- The order stays as it was, with an error that is noted. -/
theorem undispatched_meets {error : String} (state : db.order.state = .paid) :
    Meets circle d (fun s => s.db = db)
      (Processor.updateOrder .paid fun _ => { lastError := some (some error) })
      (fun _ _ => True) (fun _ _ => False) :=
  noted_meets (by rw [state]) (.inl state.symm) (fun _ => state) (by simp)

theorem reviewableBeforeDispatch_meets (state : db.order.state = .paid) :
    Meets circle d (fun s => s.db = db) (Processor.reviewableBeforeDispatch d db.order)
      (fun reviewable s => reviewable = true → s.db = db) (fun _ _ => False) := by
  unfold Processor.reviewableBeforeDispatch
  split
  next =>
    exact .bind_ (undispatched_meets state) fun _ => .pure_ fun _ _ no => by cases no
  next =>
    refine .tryCatch_ (M := fun _ s => s.db = db) ?_ fun error => ?_
    · refine .bind_ (M := fun _ s => s.db = db) ?_ fun _ => ?_
      · unfold Processor.throwIf
        split
        next => exact .throw_ fun _ here => here
        next => exact .pure_ fun _ here => here
      refine .bind_ (read_at (Q := fun _ s => s.db = db) fun s here _ _ => here) fun now => ?_
      exact .bind_ (perform_at (.of_state (.inl state)) fun _ => rfl) fun _ => .pure_ fun _ here _ => here
    · cases error with
      | error =>
        exact .bind_ (undispatched_meets state) fun _ => .pure_ fun _ _ no => by cases no
      | permanent code =>
        refine .bind_ expireAssignments_meets fun _ => ?_
        refine .bind_ (unreviewable_meets state) fun _ => ?_
        refine .bind_ (meets_rows fun db' ready => refund_meets ready) fun _ => ?_
        exact .pure_ fun _ _ no => by cases no

/-- The first offer is still to be recorded, or the order has been offered. -/
def Offering : Nat → Store → Prop
  | 0, s => s.db.order.state = .paid
  | _ + 1, s => s.db.order.state.UnderReview

theorem perform_offering {request : Request} (silent : ∀ s : Store, s.issue request = s)
    (sent : Nat) : Meets circle d (Offering sent) (Processor.perform request)
      (fun _ => Offering sent) (fun _ => Offering sent) := by
  cases sent with
  | zero =>
    refine meets_rows (F := fun db => db.order.state = .paid)
      fun db state => (perform_at (.of_state (.inl state)) silent).weaken (fun _ here => here) ?_ ?_
    · rintro _ s rfl
      exact state
    · rintro _ s rfl
      exact state
  | succ sent =>
    -- the callbacks may write the rows, but they keep the order under review
    have still (s s' : Store) (here : Offering (sent + 1) s)
        (later : (contract circle d).awaiting ((host circle d).issue request s) s') :
        Offering (sent + 1) s' := by
      have same : (host circle d).issue request s = s := silent s
      rw [same] at later
      exact later.review here
    refine .bind_ (M := fun _ => Offering (sent + 1)) (.await_ ?_ ?_ ?_ ?_ ?_)
      fun _ => .pure_ fun _ here => here
    · intro s s' here later _
      change s'.db.order.state.UnderReview
      rw [later.db]
      exact here
    · intro s _ sound
      change Proceeds s (s.issue request) ∧ Sound circle d (s.issue request)
      rw [silent]
      exact ⟨.refl s, sound⟩
    · exact fun s s' here _ later _ => (still s s' here later).unresumable
    · exact fun s s' here _ later _ _ _ => still s s' here later
    · exact fun s s' here _ later _ _ _ => still s s' here later

theorem recordDispatch_ok {db db' : Database} {reviewerId : ReviewerId} {expiresAt : Timestamp}
    (done : db.recordDispatch reviewerId expiresAt = .ok ((), db')) :
    (db.order.state = .paid ∨ db.order.state = .dispatched) ∧ ∃ dispatchCount assignments,
      db' = { db with
        order := { db.order with
          state := .dispatched, claimExpiresAt := some expiresAt, dispatchCount,
          lastError := none }
        assignments } := by
  simp only [Database.recordDispatch, bind_ok, revertIf_ok, exists_const, pure_ok,
    Prod.mk.injEq, true_and] at done
  obtain ⟨state, rfl⟩ := done
  exact ⟨by tauto, _, _, rfl⟩

theorem recordDispatch_meets {reviewerId : ReviewerId} {expiresAt : Timestamp} {sent : Nat} :
    Meets circle d (Offering sent)
      (Processor.database fun _ db => db.recordDispatch reviewerId expiresAt)
      (fun _ => Offering (sent + 1)) (fun _ => Offering sent) := by
  refine .transaction_ ?_ ?_ ?_
  · intro s s' here later _
    have same : s'.db.order.state = s.db.order.state := by rw [later.db]
    cases sent with
    | zero => exact same.trans here
    | succ sent =>
      change s'.db.order.state.UnderReview
      rw [same]
      exact here
  · intro s _ sound inputs _ u s' done
    cases result : s.db.recordDispatch reviewerId expiresAt with
    | error e => simp [result, Except.map] at done
    | ok pair =>
      obtain ⟨⟨⟩, db'⟩ := pair
      simp only [result, Except.map, Except.ok.injEq, Prod.mk.injEq, true_and] at done
      subst done
      obtain ⟨before, dispatchCount, assignments, rfl⟩ := recordDispatch_ok result
      obtain ⟨sound', proceeds⟩ := sound.offer
        { s.db.order with
          state := .dispatched, claimExpiresAt := some expiresAt, dispatchCount,
          lastError := none } assignments before (.inr rfl)
        (.of_columns rfl rfl) rfl rfl rfl rfl
      exact ⟨proceeds, sound', .dispatched⟩
  · exact fun s here _ _ _ _ _ => here

theorem offerTo_meets (order : ReviewOrder) (expiresAt : Timestamp) (reviewers : List Reviewer)
    (sent : Nat) : Meets circle d (Offering sent)
      (Processor.offerTo order expiresAt reviewers sent) (fun sent => Offering sent)
      (fun _ _ => False) := by
  induction reviewers generalizing sent with
  | nil => exact .pure_ fun _ here => here
  | cons reviewer rest ih =>
    refine .bind_ (.tryCatch_ (M := fun _ => Offering sent) ?_ fun _ => .pure_ fun _ here => here) ih
    refine .bind_ (M := fun _ => Offering sent) ?_ fun _ => .bind_ (perform_offering
      (fun _ => rfl) sent) fun _ => .bind_ recordDispatch_meets fun _ => .pure_ fun _ here => here
    unfold Processor.skipIf
    split
    next => exact .pure_ fun _ here => here
    next => exact perform_offering (fun _ => rfl) sent

theorem telegramDispatch_meets {order : ReviewOrder} {reviewers : List Reviewer}
    (state : db.order.state = .paid) :
    Meets circle d (fun s => s.db = db) (Processor.telegramDispatch d order reviewers)
      (fun sent => Offering sent) (fun _ s => s.db.order.state = .paid) := by
  refine .bind_ (M := fun _ s => s.db.order.state = .paid) ?_ fun _ => ?_
  · unfold Processor.throwIf
    split
    next =>
      refine .throw_ ?_
      rintro s rfl
      exact state
    next =>
      refine .pure_ ?_
      rintro s rfl
      exact state
  · refine meets_rows (F := fun db => db.order.state = .paid) fun db' state' => ?_
    refine .bind_ (M := fun _ => Offering 0) (read_at ?_) fun now => (offerTo_meets _ _ _ _).weaken
      (fun _ here => here) (fun _ _ after => after) (fun _ _ no => no.elim)
    rintro s rfl _ _
    exact state'

theorem dispatch_meets (state : db.order.state = .paid) :
    Meets circle d (fun s => s.db = db) (Processor.dispatch d db.order) (fun _ _ => True)
      (fun _ _ => False) := by
  refine .bind_ (reviewableBeforeDispatch_meets state) fun reviewable => ?_
  split
  next reviewable =>
    refine .bind_ ((read_at (Q := fun _ s => s.db = db) fun s here _ _ => here).weaken
      (fun s here => here reviewable) (fun _ _ after => after) (fun _ _ no => no)) fun pair => ?_
    obtain ⟨telegram, reviewers⟩ := pair
    dsimp only
    split
    next => exact .bind_ (undispatched_meets state) fun _ => .pure_ fun _ _ => trivial
    next =>
      split
      next => exact .bind_ (undispatched_meets state) fun _ => .pure_ fun _ _ => trivial
      next =>
        refine .tryCatch_ (M := fun _ s => s.db.order.state = .paid) ?_ fun error => ?_
        · refine .bind_ (M := Offering) ?_ fun sent => ?_
          · exact telegramDispatch_meets state
          · unfold Processor.throwIf
            split
            next none =>
              obtain rfl := of_decide_eq_true none
              exact .throw_ fun s here => here
            next => exact .pure_ fun _ _ => trivial
        · exact .bind_ (meets_rows fun db' state => undispatched_meets state) fun _ =>
            .pure_ fun _ _ => trivial
  next => exact .pure_ fun _ _ => trivial

/-- What the timeouts leave for the rest of a call to do. -/
def TimedOut (d : Dependencies) (result : Database.TimeoutAction × ReviewOrder)
    (db : Database) : Prop :=
  match result.1 with
  | .expired => Ready d db .refund
  | .redispatched => True
  | .none => result.2 = db.order ∧ (db.order.state.phase = .payout →
      db.hasCurrentCircleRequestStarted .resolution = false)

theorem applyReviewTimeouts_meets {reviewSlaSeconds maxDispatches : Nat} :
    Meets circle d (fun _ => True)
      (Processor.database fun inputs db =>
        db.applyReviewTimeouts reviewSlaSeconds maxDispatches inputs.now)
      (fun result s => TimedOut d result s.db) (fun _ _ => True) := by
  refine meets_rows (F := fun _ => True) fun db _ => database_at ?_ (fun _ _ _ _ _ _ => trivial)
  rintro s rfl sound inputs - result db' done
  simp only [Database.applyReviewTimeouts, bind_ok, revertIf_ok, exists_const] at done
  obtain ⟨-, elapsed, reads, done⟩ := done
  split at done
  next expires =>
    cases done
    refine sound.expire s.db.expireAssignments.assignments ?_ rfl
      (.of_columns rfl rfl) rfl rfl rfl
    rcases s.db.slaElapsed_state (expires ▸ reads) with state | state | state <;> (rw [state]; rfl)
  next =>
    split at done
    next unclaimed =>
      have state := unclaimed.1
      split at done
      next =>
        cases done
        obtain ⟨sound', proceeds⟩ := sound.offer
          { s.db.order with state := .paid, claimExpiresAt := none, lastError := none }
          s.db.expireAssignments.assignments (.inr state) (.inl rfl)
          (.of_columns rfl rfl) rfl rfl rfl rfl
        exact ⟨sound', proceeds, trivial⟩
      next =>
        cases done
        exact sound.expire s.db.expireAssignments.assignments (by rw [state]; rfl)
          rfl (.of_columns rfl rfl) rfl rfl rfl
    next =>
      cases done
      refine ⟨sound, .refl s, rfl, fun phase => ?_⟩
      rw [Bool.eq_false_iff]
      intro started
      have settling := (sound.phases.resolving started).1
      rw [phase] at settling
      simp at settling

theorem processOrder_meets : Meets circle d (fun _ => True) (Processor.processOrder d)
    (fun _ _ => True) (fun _ _ => True) := by
  refine .bind_ applyReviewTimeouts_meets fun result => ?_
  obtain ⟨action, order⟩ := result
  cases action with
  | expired =>
    exact meets_rows fun db ready => (refund_meets ready).weaken (fun _ here => here)
      (fun _ _ after => after) (fun _ _ no => no.elim)
  | redispatched => exact .pure_ fun _ _ => trivial
  | none =>
    refine meets_rows fun db known => ?_
    obtain ⟨rfl, unresolved⟩ := known
    refine .bind_ (read_at (Q := fun exhausted s => s.db = db ∧
      exhausted = Processor.circleRetriesExhausted d db.order db) fun s here _ _ => ⟨here, rfl⟩)
      fun exhausted => ?_
    refine .known (fun _ here => here.2) ?_
    rintro rfl
    suffices meets : Meets circle d (fun s => s.db = db) _ (fun _ _ => True) (fun _ _ => False) from
      meets.weaken (fun _ here => here.1) (fun _ _ after => after) (fun _ _ no => no.elim)
    split
    next => exact .pure_ fun _ _ => trivial
    next going =>
      unfold Processor.circleRetriesExhausted at going
      split
      next state => exact dispatch_meets state
      next state =>
        have phase : db.order.state.phase = .payout := congrArg ReviewOrderState.phase state
        exact payReviewer_meets ⟨phase, .of_state (.inr (.inl state)), unresolved phase⟩
      next state =>
        have phase : db.order.state.phase = .payout := congrArg ReviewOrderState.phase state
        rw [state] at going
        exact payReviewer_meets ⟨phase, .of_permits .payout phase going,
          unresolved phase⟩
      next state => exact settle_meets (congrArg ReviewOrderState.phase state)
      next state => exact settle_meets (congrArg ReviewOrderState.phase state)
      next state =>
        rw [state] at going
        exact refund_meets ⟨.inl state, .of_permits .refund (.inl state) going⟩
      all_goals exact .pure_ fun _ _ => trivial

end Dispatch

section Service

variable (circle : Circle) (d : Dependencies)

theorem Meets.start {circle : Circle} {d : Dependencies} {x : Processor Unit}
    (meets : Meets circle d (fun _ => True) x (fun _ _ => True) (fun _ _ => True)) (s : Store) :
    Safe (host circle d) (contract circle d) (Routine.start x) s :=
  meets _ _ (fun _ _ _ => .done) (fun _ _ _ => .done) s trivial

/-- A call that may find nothing to do. -/
theorem meets_unless {circle : Circle} {d : Dependencies} (skip : Bool) :
    Meets circle d (fun _ => True) (Processor.skipIf skip (Processor.processOrder d))
      (fun _ _ => True) (fun _ _ => True) := by
  unfold Processor.skipIf
  split
  next => exact .pure_ fun _ _ => trivial
  next => exact processOrder_meets

theorem service_spawned (s : Store) (cause : Cause) :
    Safe (host circle d) (contract circle d) ((host circle d).spawn cause) s := by
  have reads {α : Type} (f : Inputs → Database → α) : Meets circle d (fun _ => True)
      (Processor.read f) (fun _ _ => True) (fun _ _ => True) :=
    meets_rows (F := fun _ => True) fun _ _ => read_at fun _ _ _ _ => trivial
  cases cause with
  | sweep => exact Meets.start (.bind_ (reads _) fun listed => meets_unless _) s
  | wake => exact processOrder_meets.start s
  | webhook id => exact Meets.start (.bind_ (reads _) fun found => meets_unless _) s

variable {circle d} {opening : Opening} {history earlier later : List (ServiceState × ServiceEvent)}
  {u v : ServiceState}

theorem Opening.sound (opening : Opening) : Sound circle d opening.store :=
  ⟨opening.ledger circle d.config.circleMaxAttempts_pos, opening.phases⟩

/-- The invariant holds in every state of every run of the service. -/
theorem service_good (run : ServiceRun circle d opening history v) :
    Sound circle d v.store ∧ Good (host circle d) (contract circle d) v :=
  run_good (service_outside circle d) (fun s cause _ => service_spawned circle d s cause) run
    opening.sound

/-- And so does what a step may do. -/
theorem service_proceeds (run : ServiceRun circle d opening history v) {t : ServiceEvent}
    (admitted : (host circle d).admits v t) : Proceeds v.store ((host circle d).next v t).store := by
  obtain ⟨sound, good⟩ := service_good run
  exact (step_good (service_outside circle d) (fun s cause _ => service_spawned circle d s cause)
    sound good admitted).2.2

/-- A preorder that contains what a step may do relates the stores of a run. -/
theorem service_related (R : Store → Store → Prop) (refl : ∀ s, R s s)
    (trans : ∀ a b c, R a b → R b c → R a c)
    (contains : ∀ a b, Sound circle d a → Sound circle d b → Proceeds a b → R a b)
    (before : ServiceRun circle d opening earlier u) (run : Run (host circle d).system u later v) :
    R u.store v.store :=
  run_related (service_outside circle d) (fun s cause _ => service_spawned circle d s cause) R refl
    trans contains before run opening.sound

end Service

end VapiArc.Review
