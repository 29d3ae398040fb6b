import VapiArc.Review.Phases

/-!
# What every step of the service keeps

The invariant, what one step does to the rows of an order, and what the processor may
count on while it awaits a reply: a callback or an operator writes the order only in
some of its states.
-/
namespace VapiArc.Review

open Checked Function Async Transition

/-- No operation can be resumed. -/
structure Database.Unresumable (maxAttempts : Nat) (db : Database) : Prop where
  unexhausted : ∀ operation, db.order.state = recoveryState operation →
    exhausted (db.listCircleAttempts operation) maxAttempts
      (db.circleIdempotencyKey operation) = false

/-- No callback and no operator writes the order. -/
structure Database.Quiet (maxAttempts : Nat) (db : Database) : Prop
    extends db.Unresumable maxAttempts where
  undispatched : db.order.state ≠ .dispatched
  unclaimed : db.order.state ≠ .claimed

/-- The callbacks of a review lead through these states, and not out of them. -/
inductive ReviewOrderState.UnderReview : ReviewOrderState → Prop
  | dispatched : UnderReview .dispatched
  | claimed : UnderReview .claimed
  | verdictSubmitted : UnderReview .verdictSubmitted

theorem ReviewOrderState.UnderReview.unresumable {maxAttempts : Nat} {db : Database}
    (review : db.order.state.UnderReview) : db.Unresumable maxAttempts where
  unexhausted operation recovery := by
    rw [recovery] at review
    cases operation <;> cases review

/-- What one step may do. -/
structure Proceeds (s s' : Store) : Prop where
  purchase : s'.db.order.purchase = s.db.order.purchase
  state : s'.db.order.state = s.db.order.state ∨ s.db.order.state.Next s'.db.order.state
  claim : s.db.order.SameClaim s'.db.order ∨
    s.db.order.state = .dispatched ∧ s'.db.order.state = .claimed
  verdict : s.db.order.SameVerdict s'.db.order ∧ s'.db.votes = s.db.votes ∨
    s.db.order.state = .claimed ∧ s'.db.order.state = .verdictSubmitted ∧
      ∃ vote, s'.db.votes = vote :: s.db.votes
  payout : s.db.order.paidAt ≠ none → s'.db.order.paidAt = s.db.order.paidAt ∧
    (s'.db.order.circle .payout).hash = (s.db.order.circle .payout).hash
  abort : s.db.order.settlementAbortCode ≠ none →
    s'.db.order.settlementAbortCode = s.db.order.settlementAbortCode
  requests : s'.requested = s.requested ∨ ∃ r, s'.requested = r :: s.requested ∧
    s.db.order.Permits r.operation ∧ r.idempotencyKey = s.db.circleIdempotencyKey r.operation
  keys : ∀ operation,
    s'.db.circleIdempotencyKey operation ≠ s.db.circleIdempotencyKey operation →
      ∃ a ∈ s'.db.attempts, a.operation = operation ∧
        a.idempotencyKey = s.db.circleIdempotencyKey operation ∧ a.state.terminalFailure = true
  circle : CircleGrows s.circle s'.circle

/-- The columns of the review and of its payout are the same. -/
theorem Proceeds.of_terms {s s' : Store} (terms : s.db.order.SameTerms s'.db.order)
    (votes : s'.db.votes = s.db.votes)
    (state : s'.db.order.state = s.db.order.state ∨ s.db.order.state.Next s'.db.order.state)
    (abort : s.db.order.settlementAbortCode ≠ none →
      s'.db.order.settlementAbortCode = s.db.order.settlementAbortCode)
    (keys : s'.db.circleIdempotencyKey = s.db.circleIdempotencyKey)
    (requested : s'.requested = s.requested) (circle : CircleGrows s.circle s'.circle) :
    Proceeds s s' where
  purchase := terms.purchase
  state := state
  claim := .inl terms.toSameClaim
  verdict := .inl ⟨terms.toSameVerdict, votes⟩
  payout _ := ⟨terms.paidAt, terms.payoutHash⟩
  abort := abort
  requests := .inl requested
  keys operation renewed := absurd (congrFun keys operation) renewed
  circle := circle

theorem Proceeds.refl (s : Store) : Proceeds s s :=
  .of_terms (.refl s.db.order) rfl (.inl rfl)
    (fun _ => rfl) rfl rfl (.refl _)

variable (circle : Circle) (d : Dependencies)

structure Sound (s : Store) : Prop where
  ledger : Ledger circle d.config.circleMaxAttempts s.book
  phases : Phases d.library s

/-- Only Circle has done something. -/
structure Untouched (s s' : Store) : Prop where
  db : s'.db = s.db
  requested : s'.requested = s.requested
  resumes : s'.resumes = s.resumes
  circle : CircleGrows s.circle s'.circle

/-- The order may have been written as well, unless its rows are quiet. -/
structure Awaited (maxAttempts : Nat) (s s' : Store) : Prop where
  requested : s'.requested = s.requested
  circle : CircleGrows s.circle s'.circle
  quiet : s.db.Quiet maxAttempts → s'.db = s.db
  review : s.db.order.state.UnderReview → s'.db.order.state.UnderReview

theorem Awaited.refl (maxAttempts : Nat) (s : Store) : Awaited maxAttempts s s :=
  ⟨rfl, .refl _, fun _ => rfl, id⟩

theorem Untouched.awaited {maxAttempts : Nat} {s s' : Store} (untouched : Untouched s s') :
    Awaited maxAttempts s s' :=
  ⟨untouched.requested, untouched.circle, fun _ => untouched.db, by rw [untouched.db]; exact id⟩

def contract : Contract Store Request where
  invariant := Sound circle d
  pending _ s := s.db.Unresumable d.config.circleMaxAttempts
  guarantee := Proceeds
  awaiting := Awaited d.config.circleMaxAttempts
  anytime := Untouched
  guarantee_refl := .refl
  awaiting_refl := .refl d.config.circleMaxAttempts
  awaiting_trans a b c first second :=
    ⟨second.requested.trans first.requested, first.circle.trans second.circle, fun quiet =>
      (second.quiet (by rw [first.quiet quiet]; exact quiet)).trans (first.quiet quiet),
      fun review => second.review (first.review review)⟩
  anytime_refl s := ⟨rfl, rfl, rfl, .refl _⟩
  anytime_trans a b c first second :=
    ⟨second.db.trans first.db, second.requested.trans first.requested,
      second.resumes.trans first.resumes, first.circle.trans second.circle⟩

section Outside

variable {s : Store} {db' : Database}

/-- What an accepted claim writes. -/
theorem claimOrder_ok {db db' : Database} {reviewerId : ReviewerId} {reviewer : Option Reviewer}
    {identityHash : Nat → Hex} {reviewSlaSeconds : Nat} {conflicts : List Address}
    {now : Timestamp} {order : ReviewOrder}
    (done : db.claimOrder reviewerId reviewer identityHash reviewSlaSeconds conflicts now =
      .ok (order, db')) :
    db' = db ∨ db.order.state = .dispatched ∧ ∃ alias_ address identity assignments,
      db' = { db with
        order := { db.order with
          state := .claimed
          reviewerId := some reviewerId
          reviewerAlias := alias_
          reviewerPayoutAddress := address
          reviewerTelegramIdentityHash := identity
          claimedAt := some now
          claimExpiresAt := none }
        assignments } := by
  unfold Database.claimOrder at done
  split at done
  next => exact .inl (by cases done; rfl)
  next =>
    simp only [bind_ok, revertIf_ok, exists_const, ne_eq, not_not, demand_ok, pure_ok,
      Prod.mk.injEq] at done
    obtain ⟨state, _, -, -, -, -, found, -, -, -, -, rfl⟩ := done
    exact .inr ⟨state, _, _, _, _, rfl⟩

theorem submitVerdict_ok {db db' : Database} {reviewerId : ReviewerId} {decision : ReviewDecision}
    {reasoning : String} {reviewSlaSeconds : Nat} {now : Timestamp} {order : ReviewOrder}
    (done : db.submitVerdict reviewerId decision reasoning reviewSlaSeconds now =
      .ok (order, db')) :
    db' = db ∨ db.order.state = .claimed ∧ db.order.reviewerId = some reviewerId ∧
      db' = { db with
        order := { db.order with
          state := .verdictSubmitted
          decision := some decision
          reasoning := some reasoning
          verdictAt := some now
          lastError := none }
        votes := ⟨reviewerId, decision, reasoning⟩ :: db.votes } := by
  unfold Database.submitVerdict at done
  split at done
  next => exact .inl (by cases done; rfl)
  next =>
    simp only [bind_ok, revertIf_ok, exists_const, ne_eq, not_or, not_not, pure_ok,
      Prod.mk.injEq] at done
    obtain ⟨⟨state, assigned⟩, _, -, -, -, -, rfl⟩ := done
    exact .inr ⟨state, assigned, rfl⟩

variable {circle d}

/-- Nothing has been requested before there is a verdict. -/
theorem Phases.before_verdict {lib : Library} (phases : Phases lib s)
    (phase : s.db.order.state.phase = .verdict) :
    s.requested = [] ∧ (s.db.order.paidAt = none ∧ s.db.order.evidenceHash = none ∧
      s.db.order.evidenceJson = none) ∧
      s.db.hasCurrentCircleRequestStarted .resolution = false := by
  refine ⟨(phases.awaitsVerdict phase).1, phases.unpaid (.inl phase), ?_⟩
  rw [Bool.eq_false_iff]
  intro started
  have settling := (phases.resolving started).1
  rw [phase] at settling
  simp at settling

theorem claimed (sound : Sound circle d s) {reviewerId : ReviewerId} {reviewer : Option Reviewer}
    {identityHash : Nat → Hex} {reviewSlaSeconds : Nat} {conflicts : List Address}
    {now : Timestamp} {order : ReviewOrder}
    (done : s.db.claimOrder reviewerId reviewer identityHash reviewSlaSeconds conflicts now =
      .ok (order, db')) :
    Sound circle d { s with db := db' } ∧ Proceeds s { s with db := db' } ∧
      Awaited d.config.circleMaxAttempts s { s with db := db' } := by
  rcases claimOrder_ok done with rfl | ⟨state, alias_, address, identity, assignments, rfl⟩
  · exact ⟨sound, .refl s, .refl _ s⟩
  · have phase : s.db.order.state.phase = .verdict := by rw [state]; rfl
    obtain ⟨requested, unpaid, unresolved⟩ := sound.phases.before_verdict phase
    obtain ⟨-, undecided, unaborted⟩ := sound.phases.awaitsVerdict phase
    refine ⟨⟨sound.ledger, ?_⟩, ?_, rfl, .refl _, fun quiet => absurd state quiet.undispatched,
      fun _ => .claimed⟩
    · exact .reviewing requested unpaid unresolved (.inl ⟨rfl, undecided, unaborted, by simp⟩)
    · exact {
        purchase := rfl
        state := .inr (by rw [state]; exact .claim)
        claim := .inr ⟨state, rfl⟩
        verdict := .inl ⟨⟨rfl, rfl, rfl⟩, rfl⟩
        payout := fun _ => ⟨rfl, rfl⟩
        abort := fun _ => rfl
        requests := .inl rfl
        keys := fun _ renewed => absurd rfl renewed
        circle := .refl _ }

theorem judged (sound : Sound circle d s) {reviewerId : ReviewerId} {decision : ReviewDecision}
    {reasoning : String} {reviewSlaSeconds : Nat} {now : Timestamp} {order : ReviewOrder}
    (done : s.db.submitVerdict reviewerId decision reasoning reviewSlaSeconds now =
      .ok (order, db')) :
    Sound circle d { s with db := db' } ∧ Proceeds s { s with db := db' } ∧
      Awaited d.config.circleMaxAttempts s { s with db := db' } := by
  rcases submitVerdict_ok done with rfl | ⟨state, assigned, rfl⟩
  · exact ⟨sound, .refl s, .refl _ s⟩
  · have phase : s.db.order.state.phase = .verdict := by rw [state]; rfl
    obtain ⟨requested, unpaid, unresolved⟩ := sound.phases.before_verdict phase
    refine ⟨⟨sound.ledger, ?_⟩, ?_, rfl, .refl _, fun quiet => absurd state quiet.unclaimed,
      fun _ => .verdictSubmitted⟩
    · exact .reviewing requested unpaid unresolved
        (.inr (.inl ⟨rfl, by simp, by simp [assigned]⟩))
    · exact {
        purchase := rfl
        state := .inr (by rw [state]; exact .verdict)
        claim := .inl ⟨rfl, rfl, rfl, rfl, rfl⟩
        verdict := .inr ⟨state, rfl, _, rfl⟩
        payout := fun _ => ⟨rfl, rfl⟩
        abort := fun _ => rfl
        requests := .inl rfl
        keys := fun _ renewed => absurd rfl renewed
        circle := .refl _ }

theorem Database.recoveryState_awaits {order : ReviewOrder} {operation : CircleOperation}
    (state : order.state = Database.recoveryState operation) : order.Awaits operation := by
  cases operation <;> simp [ReviewOrder.Awaits, state, Database.recoveryState, ReviewOrderState.phase]

theorem resumed (sound : Sound circle d s) {operation : CircleOperation} {nextKey : IdempotencyKey}
    (unused : ¬ s.Used nextKey)
    (done : s.db.resumeCircleOperation operation d.config.circleMaxAttempts nextKey =
      .ok ((), db')) :
    let s' : Store :=
      { s with db := db', resumes := update s.resumes operation (s.resumes operation + 1) }
    Sound circle d s' ∧ Proceeds s s' ∧ Awaited d.config.circleMaxAttempts s s' := by
  -- a resumed operation gets an unused key, and the rest of the order stays as it is
  obtain ⟨ledger, state, exhausted, -, -, rfl⟩ := sound.ledger.resume unused done
  have beside := sound.phases.beside (Database.recoveryState_awaits state)
    ⟨{ key := nextKey }, s.db.attempts, s.db.journal, rfl⟩ rfl
    (.inr ⟨nextKey, unused, circleIdempotencyKey_setColumns _ _ _⟩)
  have phases := beside.moved
    { s.db.order with
      circle := update s.db.order.circle operation { key := nextKey }, lastError := none }
    s.db.assignments
    (.of_columns rfl rfl) rfl rfl rfl
    sound.phases.unclaimed id rfl rfl
  refine ⟨⟨ledger, { phases with paid := ?_ }⟩, ?_, rfl, .refl _, fun quiet => ?_, id⟩
  · exact fun decided other => ⟨(phases.paid decided other).completed,
      (phases.paid decided other).hash, (phases.paid decided other).paidAt⟩
  · exact {
      purchase := rfl
      state := .inl rfl
      claim := .inl ⟨rfl, rfl, rfl, rfl, rfl⟩
      verdict := .inl ⟨⟨rfl, rfl, rfl⟩, rfl⟩
      payout := by
        intro paid
        refine ⟨rfl, ?_⟩
        -- the payout is not what is resumed once it has been paid
        have other : CircleOperation.payout ≠ operation := by
          rintro rfl
          exact paid (sound.phases.unpaid (.inr (by rw [state]; rfl))).1
        simp [other]
      abort := fun _ => rfl
      requests := .inl rfl
      keys := by
        intro other renewed
        by_cases same : other = operation
        · subst same
          obtain ⟨latest, last, -, failed, keyed⟩ := Book.exhausted_iff.mp exhausted
          obtain ⟨member, owned⟩ := Book.attempt_of_last last
          exact ⟨latest, member, owned, keyed, failed⟩
        · exact absurd (by simp [Database.circleIdempotencyKey, same]) renewed
      circle := .refl _ }
  · -- an operation is resumed only when its attempts are exhausted
    have unexhausted : s.book.exhausted operation d.config.circleMaxAttempts = false :=
      quiet.unexhausted operation state
    rw [exhausted] at unexhausted
    cases unexhausted

theorem receive_grows (request : CircleRequest) : CircleGrows s.circle (s.receive request).circle := by
  intro key transaction here
  unfold Store.receive
  cases known : s.circle request.idempotencyKey with
  | some _ => exact ⟨transaction, here, rfl, fun _ => rfl⟩
  | none =>
    have other : key ≠ request.idempotencyKey := by
      rintro rfl
      rw [known] at here
      cases here
    exact ⟨transaction, (update_of_ne other _ _).trans here, rfl, fun _ => rfl⟩

theorem progress_grows (key : IdempotencyKey) (state : TransactionState) :
    CircleGrows s.circle (s.progress key state).circle := by
  intro key' transaction here
  unfold Store.progress
  split
  next transaction' known =>
    split
    next => exact ⟨transaction, here, rfl, fun _ => rfl⟩
    next going =>
      by_cases same : key' = key
      · subst same
        cases known.symm.trans here
        exact ⟨_, update_self .., rfl, fun final => absurd final going⟩
      · exact ⟨transaction, (update_of_ne same _ _).trans here, rfl, fun _ => rfl⟩
  next => exact ⟨transaction, here, rfl, fun _ => rfl⟩

/-- Circle goes on with what was requested. -/
theorem Sound.grown (sound : Sound circle d s) {s' : Store} (untouched : Untouched s s')
    (created : ∀ key transaction, s'.circle key = some transaction →
      transaction.request ∈ s.requested ∧ transaction.request.idempotencyKey = key) :
    Sound circle d s' ∧ Proceeds s s' := by
  obtain ⟨db', circle', requested', resumes'⟩ := s'
  obtain ⟨rfl, rfl, rfl, grows⟩ := untouched
  refine ⟨⟨sound.ledger.grown grows created, sound.phases.grown grows⟩, ?_⟩
  exact .of_terms (.of_columns rfl rfl) rfl (.inl rfl)
    (fun _ => rfl) rfl rfl grows

theorem Untouched.receive (s : Store) (request : CircleRequest) :
    Untouched s (s.receive request) := by
  refine ⟨?_, ?_, ?_, receive_grows request⟩ <;> (unfold Store.receive; split <;> rfl)

theorem Untouched.progress (s : Store) (key : IdempotencyKey) (state : TransactionState) :
    Untouched s (s.progress key state) := by
  refine ⟨?_, ?_, ?_, progress_grows key state⟩ <;>
    (unfold Store.progress; split <;> [split; skip] <;> rfl)

theorem received (sound : Sound circle d s) {request : CircleRequest}
    (requested : request ∈ s.requested) :
    Sound circle d (s.receive request) ∧ Proceeds s (s.receive request) := by
  refine sound.grown (.receive s request) fun key transaction here => ?_
  unfold Store.receive at here
  cases known : s.circle request.idempotencyKey with
  | some _ =>
    rw [known] at here
    exact sound.ledger.created key transaction here
  | none =>
    rw [known] at here
    by_cases same : key = request.idempotencyKey
    · subst same
      cases (update_self ..).symm.trans here
      exact ⟨requested, rfl⟩
    · exact sound.ledger.created key transaction ((update_of_ne same _ _).symm.trans here)

theorem progressed (sound : Sound circle d s) (key : IdempotencyKey) (state : TransactionState) :
    Sound circle d (s.progress key state) ∧ Proceeds s (s.progress key state) := by
  refine sound.grown (.progress s key state) fun key' transaction here => ?_
  unfold Store.progress at here
  split at here
  next transaction' known =>
    split at here
    next => exact sound.ledger.created key' transaction here
    next =>
      by_cases same : key' = key
      · subst same
        cases (update_self ..).symm.trans here
        exact sound.ledger.created key' transaction' known
      · exact sound.ledger.created key' transaction ((update_of_ne same _ _).symm.trans here)
  next => exact sound.ledger.created key' transaction here

/-- A refused transaction changes nothing. -/
theorem committed {α : Type} {result : Except Failure (α × Database)} (sound : Sound circle d s)
    (done : ∀ a db', result = .ok (a, db') → Sound circle d { s with db := db' } ∧
      Proceeds s { s with db := db' } ∧
      Awaited d.config.circleMaxAttempts s { s with db := db' }) :
    Sound circle d (s.committed result) ∧ Proceeds s (s.committed result) ∧
      Awaited d.config.circleMaxAttempts s (s.committed result) := by
  cases result with
  | ok pair => exact done pair.1 pair.2 rfl
  | error e => exact ⟨sound, .refl s, .refl _ s⟩

/-- Whatever happens outside of the processor. -/
theorem outside_step (sound : Sound circle d s) (event : Outside)
    (permitted : (host circle d).permits s event) :
    Sound circle d (outside d s event) ∧ Proceeds s (outside d s event) ∧
      Awaited d.config.circleMaxAttempts s (outside d s event) := by
  cases event with
  | claim => exact committed sound fun _ _ done => claimed sound done
  | verdict => exact committed sound fun _ _ done => judged sound done
  | resume operation nextKey =>
    simp only [outside]
    split
    next done => exact resumed sound permitted done
    next => exact ⟨sound, .refl s, .refl _ s⟩
  | creates request =>
    obtain ⟨sound', proceeds⟩ := received sound permitted
    exact ⟨sound', proceeds, (Untouched.receive s request).awaited⟩
  | progresses key state =>
    obtain ⟨sound', proceeds⟩ := progressed sound key state
    exact ⟨sound', proceeds, (Untouched.progress s key state).awaited⟩

end Outside

theorem service_outside : Async.Outside (host circle d) (contract circle d) where
  invariant _ event sound permitted := (outside_step sound event permitted).1
  guarantee _ event sound permitted := (outside_step sound event permitted).2.1
  awaiting _ event sound permitted := (outside_step sound event permitted).2.2
  anytime s event _ _ remote := by
    cases event with
    | claim => cases remote
    | verdict => cases remote
    | resume => cases remote
    | creates request => exact .receive s request
    | progresses key state => exact .progress s key state

end VapiArc.Review
