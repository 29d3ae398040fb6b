import VapiArc.Demo.Actions

/-!
# The capabilities and the actions

An action that is offered is refused when the run's review order is somebody else's, and a
`retry` that is offered is refused as long as the order's Circle operation may still be retried
by itself. An action that changes something is always offered.
-/
namespace VapiArc.Demo

open Checked Function Review DemoProcessor

/-- The call ends in an answer of status 409. -/
def Refused {α : Type} (result : Except DemoError α) : Prop :=
  ∃ error, result = .error error ∧ error.statusCode = some 409

section Refusals

variable {α β : Type}

theorem refused_ok (a : α) : ¬ Refused (.ok a : Except DemoError α) := by
  rintro ⟨error, failed, -⟩
  cases failed

theorem refused_pure (a : α) : ¬ Refused (pure a : Except DemoError α) := refused_ok a

theorem refused_error (error : DemoError) :
    Refused (.error error : Except DemoError α) ↔ error.statusCode = some 409 := by
  constructor
  · rintro ⟨error', same, conflict⟩
    cases same
    exact conflict
  · exact fun conflict => ⟨error, rfl, conflict⟩

theorem refused_bind (x : Except DemoError α) (f : α → Except DemoError β) :
    Refused (x >>= f) ↔ Refused x ∨ ∃ a, x = .ok a ∧ Refused (f a) := by
  simp only [Refused, bind_error, or_and_right, exists_or]
  refine or_congr Iff.rfl ?_
  constructor
  · rintro ⟨error, ⟨a, done, failed⟩, conflict⟩
    exact ⟨a, done, error, failed, conflict⟩
  · rintro ⟨a, done, error, failed, conflict⟩
    exact ⟨error, ⟨a, done, failed⟩, conflict⟩

theorem refused_revertIf (condition : Prop) [Decidable condition] (error : DemoError) :
    Refused (revertIf condition error) ↔ condition ∧ error.statusCode = some 409 := by
  simp only [Refused, revertIf_error]
  constructor
  · rintro ⟨_, ⟨holds, rfl⟩, conflict⟩
    exact ⟨holds, conflict⟩
  · rintro ⟨holds, conflict⟩
    exact ⟨error, ⟨holds, rfl⟩, conflict⟩

theorem refused_demand (error : DemoError) (found : Option α) :
    Refused (demand error found) ↔ found = none ∧ error.statusCode = some 409 := by
  cases found with
  | none => simp [demand, refused_error]
  | some a => simp [demand, refused_ok]

end Refusals

/-- The call writes something, and is not the replay of an earlier one. -/
def Changes (db : DemoDatabase) (result : Except DemoError (DemoRun × DemoDatabase)) : Prop :=
  ∃ run db', result = .ok (run, db') ∧ db' ≠ db

/-- An action that is offered is not refused, and one that changes something is offered. -/
structure CapabilitiesAgree (d : DemoDependencies) (db : DemoDatabase) (run : DemoRun) : Prop where
  purchase : (capabilities d db run).canPurchase = true → ¬ Refused (purchase db run.id)
  retry : (capabilities d db run).canRetry = true → ∀ nextKey, ¬ Refused (retry d db run.id nextKey)
  archive : (capabilities d db run).canArchive = true → ¬ Refused (archive d db run.id)
  purchases : Changes db (DemoProcessor.purchase db run.id) →
    (capabilities d db run).canPurchase = true
  retries : ∀ nextKey, Changes db (DemoProcessor.retry d db run.id nextKey) →
    (capabilities d db run).canRetry = true
  archives : Changes db (DemoProcessor.archive d db run.id) →
    (capabilities d db run).canArchive = true

section Actions

variable {d : DemoDependencies} {db : DemoDatabase} {run : DemoRun} {nextKey : IdempotencyKey}

/-- No write of the runs is refused with a conflict. -/
theorem refused_patch (repository : DemoRepository) (runId : RunId) (change : DemoRun → DemoRun) :
    ¬ Refused (repository.patch runId change) := by
  simp only [DemoRepository.patch, refused_bind, refused_revertIf, refused_demand, refused_pure,
    DemoRepository.notFound, DemoRepository.unique]
  simp

theorem refused_clearTransaction (repository : DemoRepository) (runId : RunId)
    (key : DemoTransactionKey) : ¬ Refused (repository.clearTransaction runId key) :=
  refused_patch repository runId _

theorem refused_transition (repository : DemoRepository) (runId : RunId) (state : DemoRunState)
    (operation : Option DemoOperation) :
    ¬ Refused (writes db (repository.transition runId state operation)) := by
  intro refused
  obtain ⟨failure, failed, conflict⟩ := refused
  cases result : repository.transition runId state operation with
  | ok pair =>
    rw [result] at failed
    cases failed
  | error failure' =>
    rw [result] at failed
    cases failed
    exact refused_patch _ _ _ ⟨failure, result, conflict⟩

theorem requireRun_ok (found : db.repository.get run.id = some run) :
    requireRun db run.id = .ok run := by
  rw [requireRun, found]
  rfl

theorem purchase_refused (found : db.repository.get run.id = some run) :
    Refused (purchase db run.id) ↔ run.state ≠ .purchasingReview ∧ run.state ≠ .reviewActive ∧
      run.state ≠ .awaitingPurchase := by
  simp only [purchase, requireRun_ok found, refused_bind, refused_ok, false_or, Except.ok.injEq,
    exists_eq_left']
  split
  next replay => simp only [refused_pure, false_iff]; tauto
  next fresh =>
    simp only [refused_bind, refused_revertIf, refused_transition, and_false, exists_false, or_false,
      demoPurchaseNotAvailable, and_true]
    tauto

theorem purchase_changes (found : db.repository.get run.id = some run)
    (changes : Changes db (purchase db run.id)) : run.state = .awaitingPurchase := by
  obtain ⟨run', db', done, different⟩ := changes
  simp only [purchase, requireRun_ok found, bind_ok, Except.ok.injEq, exists_eq_left'] at done
  split at done
  next =>
    cases done
    exact absurd rfl different
  next =>
    simp only [bind_ok, revertIf_ok, not_not, exists_const] at done
    exact done.1

theorem refused_matches (order : OrderRow) :
    Refused (assertReviewOrderMatchesRun d run order) ↔ reviewOrderMatchesRun d run order = false := by
  simp [assertReviewOrderMatchesRun, refused_revertIf, demoOrderConflict]

theorem matches_ok (order : OrderRow) (u : Unit) :
    assertReviewOrderMatchesRun d run order = .ok u ↔ reviewOrderMatchesRun d run order = true := by
  simp [assertReviewOrderMatchesRun]

/-- An operation whose retries are exhausted can be resumed. -/
theorem resume_ok (nextKey : IdempotencyKey) {order : OrderRow} {operation : CircleOperation}
    (retryable : retryableCircleOperation order = some operation)
    (exhausted : circleRetriesExhausted d order operation = true) :
    ∃ rows, order.rows.resumeCircleOperation operation d.config.circleMaxAttempts nextKey =
      .ok ((), rows) := by
  have state : order.rows.order.state = Database.recoveryState operation := by
    unfold retryableCircleOperation at retryable
    split at retryable <;> cases retryable <;> assumption
  have positive := d.config.circleMaxAttempts_pos
  simp only [Database.resumeCircleOperation, bind_ok, revertIf_ok, exists_const, pure_ok,
    Prod.mk.injEq, true_and]
  exact ⟨_, by omega, by simp [state], by simpa [circleRetriesExhausted] using exhausted, rfl⟩

theorem recoverRun_refused (attached : Bool) :
    Refused (recoverRun db run attached) ↔ run.state ≠ .failed := by
  have clears : ¬ Refused (cleared db run) := by
    unfold cleared
    split
    · exact refused_clearTransaction _ _ _
    · exact refused_pure _
  simp only [recoverRun, refused_bind, refused_revertIf, clears, refused_transition, and_false,
    exists_false, or_false, demoRetryNotAvailable, and_true]

theorem resumeOrder_refused {order : OrderRow} {operation : CircleOperation}
    (retryable : retryableCircleOperation order = some operation) :
    Refused (resumeOrder d db run order operation nextKey) ↔
      circleRetriesExhausted d order operation = false := by
  cases exhausted : circleRetriesExhausted d order operation with
  | false => simp [resumeOrder, exhausted, refused_bind, refused_revertIf, demoRetryNotAvailable]
  | true =>
    obtain ⟨rows, done⟩ := resume_ok nextKey retryable exhausted
    simp [resumeOrder, exhausted, refused_bind, refused_revertIf, done, Except.mapError, refused_ok]

theorem retry_refused (found : db.repository.get run.id = some run) :
    Refused (retry d db run.id nextKey) ↔
      match db.attachedOrder run with
      | none => run.state ≠ .failed
      | some order => reviewOrderMatchesRun d run order = false ∨
        match retryableCircleOperation order with
        | some operation => circleRetriesExhausted d order operation = false
        | none => run.state ≠ .failed := by
  simp only [retry, requireRun_ok found, refused_bind, refused_ok, false_or, Except.ok.injEq,
    exists_eq_left']
  cases attached : db.attachedOrder run with
  | none => exact recoverRun_refused false
  | some order =>
    simp only [refused_bind, refused_matches, matches_ok, exists_const]
    cases reviewOrderMatchesRun d run order with
    | false => simp
    | true =>
      simp only [Bool.true_eq_false, false_or, true_and]
      cases retryable : retryableCircleOperation order with
      | none => exact recoverRun_refused true
      | some operation => exact resumeOrder_refused retryable

theorem archive_refused (found : db.repository.get run.id = some run) :
    Refused (archive d db run.id) ↔
      run.state ≠ .finalized ∧ run.state ≠ .archivedRefunded ∧ run.state ≠ .archivedRefundPending ∧
        ((run.state ≠ .failed ∧ run.state ≠ .awaitingPurchase) ∨ db.attachedOrder run ≠ none) := by
  simp only [archive, requireRun_ok found, refused_bind, refused_ok, false_or, Except.ok.injEq,
    exists_eq_left']
  split
  next replay => simp only [refused_pure, false_iff]; tauto
  next fresh =>
    simp only [refused_bind, refused_revertIf, revertIf_ok, exists_const, demoArchiveNotAvailable,
      and_true]
    have other : run.state ≠ .finalized ∧ run.state ≠ .archivedRefunded ∧
        run.state ≠ .archivedRefundPending := by tauto
    cases attached : db.attachedOrder run with
    | none =>
      simp only [ne_eq, not_true_eq_false, or_false]
      split <;> simp [refused_transition, other]
    | some order =>
      have conflict (error : DemoError) (status : error.statusCode = some 409) :
          Refused (throw error : Except DemoError (DemoRun × DemoDatabase)) := ⟨error, rfl, status⟩
      simp only [refused_bind, refused_matches, matches_ok, conflict, and_true, exists_const]
      cases reviewOrderMatchesRun d run order with
      | false | true =>
        simp [other]
        tauto

/-- A `retry` that succeeds has resumed an exhausted operation, or moved a failed run back. -/
theorem retry_changes (found : db.repository.get run.id = some run)
    (changes : Changes db (retry d db run.id nextKey)) :
    run.state = .failed ∨ ∃ order operation, db.attachedOrder run = some order ∧
      reviewOrderMatchesRun d run order = true ∧ retryableCircleOperation order = some operation ∧
      circleRetriesExhausted d order operation = true := by
  have recovers {attached : Bool} {result : DemoRun × DemoDatabase}
      (done : recoverRun db run attached = .ok result) : run.state = .failed := by
    simp only [recoverRun, bind_ok, revertIf_ok, not_not, exists_const] at done
    exact done.1
  obtain ⟨run', db', done, -⟩ := changes
  simp only [retry, requireRun_ok found, bind_ok, Except.ok.injEq, exists_eq_left'] at done
  cases attached : db.attachedOrder run with
  | none =>
    rw [attached] at done
    exact .inl (recovers done)
  | some order =>
    simp only [attached, bind_ok, matches_ok, exists_const] at done
    obtain ⟨same, done⟩ := done
    split at done
    next operation retryable =>
      simp only [resumeOrder, bind_ok, revertIf_ok, exists_const, Bool.not_eq_false] at done
      exact .inr ⟨order, operation, rfl, same, retryable, done.1⟩
    next => exact .inl (recovers done)

theorem archive_changes (found : db.repository.get run.id = some run)
    (changes : Changes db (archive d db run.id)) :
    db.attachedOrder run = none ∧ (run.state = .failed ∨ run.state = .awaitingPurchase) := by
  obtain ⟨run', db', done, different⟩ := changes
  simp only [archive, requireRun_ok found, bind_ok, Except.ok.injEq, exists_eq_left'] at done
  split at done
  next =>
    cases done
    exact absurd rfl different
  next =>
    simp only [bind_ok, revertIf_ok, exists_const] at done
    obtain ⟨allowed, done⟩ := done
    refine ⟨?_, by tauto⟩
    cases attached : db.attachedOrder run with
    | none => rfl
    | some order =>
      simp only [attached, bind_ok] at done
      obtain ⟨_, -, failed⟩ := done
      cases failed

/-- The order belongs to the run, or the run is in neither of the states that are offered
something for their own sake; and the order's retries are exhausted if a `retry` is offered. -/
def Offerable (d : DemoDependencies) (run : DemoRun) (order : OrderRow) : Prop :=
  (reviewOrderMatchesRun d run order = true ∨
    run.state ≠ .failed ∧ run.state ≠ .awaitingPurchase) ∧
  (reviewOrderMatchesRun d run order = true → ∀ operation,
    retryableCircleOperation order = some operation → (operation = .refund → run.state = .failed) →
      circleRetriesExhausted d order operation = true)

/-- What is offered, in the terms of the run and its order. -/
theorem capabilities_of (found : db.repository.get run.id = some run) :
    let order := (db.attachedOrder run).filter (reviewOrderMatchesRun d run)
    ((capabilities d db run).canPurchase = true ↔ run.state = .awaitingPurchase) ∧
    ((capabilities d db run).canRetry = true ↔ run.state = .failed ∨ ∃ o operation, order = some o ∧
      retryableCircleOperation o = some operation ∧
        (operation = .refund → circleRetriesExhausted d o operation = true)) ∧
    ((capabilities d db run).canArchive = true ↔ order = none ∧
      (run.state = .failed ∨ run.state = .awaitingPurchase)) := by
  intro order
  refine ⟨by simp [capabilities, found], ?_, ?_⟩
  · simp only [capabilities, found, Option.getD_some]
    cases here : (db.attachedOrder run).filter (reviewOrderMatchesRun d run) with
    | none => simp [order, here]
    | some o =>
      simp only [order, here, Option.some.injEq, exists_and_left, exists_eq_left']
      cases state : o.rows.order.state <;> simp [retryableCircleOperation, state]
  · simp only [capabilities, found, Option.getD_some, Bool.and_eq_true, Option.isNone_iff_eq_none,
      Bool.or_eq_true, decide_eq_true_eq, Bool.not_eq_true']
    constructor
    · exact fun ⟨⟨none_, _⟩, state⟩ => ⟨none_, state⟩
    · rintro ⟨none_, (state | state)⟩
      · exact ⟨⟨none_, by simp [state, DemoRunState.terminal]⟩, .inl state⟩
      · exact ⟨⟨none_, by simp [state, DemoRunState.terminal]⟩, .inr state⟩

end Actions

section Agreement

variable {d : DemoDependencies} {db : DemoDatabase} {run : DemoRun}

/-- An order that is in the way makes an action fail that is offered. -/
theorem offerable_of_agree (found : db.repository.get run.id = some run)
    (agrees : CapabilitiesAgree d db run) {order : OrderRow}
    (attached : db.attachedOrder run = some order) : Offerable d run order := by
  obtain ⟨-, canRetry, canArchive⟩ := capabilities_of (d := d) found
  constructor
  · by_contra other
    simp only [not_or, Bool.not_eq_true, not_and_or, not_not] at other
    obtain ⟨foreign, state⟩ := other
    have offered : (capabilities d db run).canArchive = true :=
      canArchive.mpr ⟨by simp [attached, foreign], state⟩
    refine agrees.archive offered ((archive_refused found).mpr ?_)
    rcases state with state | state <;> simp [state, attached]
  · intro same operation retryable refund
    by_contra unexhausted
    have offered : (capabilities d db run).canRetry = true := by
      refine canRetry.mpr ?_
      by_cases refunds : operation = .refund
      · exact .inl (refund refunds)
      · exact .inr ⟨order, operation, by simp [attached, same], retryable,
          fun refunds' => absurd refunds' refunds⟩
    refine agrees.retry offered 0 ((retry_refused found).mpr ?_)
    simpa [attached, same, retryable] using unexhausted

theorem agree_of_offerable (found : db.repository.get run.id = some run)
    (offerable : ∀ order, db.attachedOrder run = some order → Offerable d run order) :
    CapabilitiesAgree d db run := by
  obtain ⟨canPurchase, canRetry, canArchive⟩ := capabilities_of (d := d) found
  refine ⟨?_, ?_, ?_, ?_, ?_, ?_⟩
  · -- purchase: the button and the call test the same
    intro offered refused
    exact ((purchase_refused found).mp refused).2.2 (canPurchase.mp offered)
  · -- retry: a matching order decides alone, otherwise the run must have failed
    intro offered nextKey refused
    have offered := canRetry.mp offered
    rw [retry_refused found] at refused
    cases attached : db.attachedOrder run with
    | none => simp_all
    | some order =>
      obtain ⟨own, exhausted⟩ := offerable order attached
      cases same : reviewOrderMatchesRun d run order with
      | false =>
        -- nothing of a foreign order is offered, and the run has not failed
        simp only [same, Bool.false_eq_true, false_or] at own
        simp [attached, same, own.1] at offered
      | true =>
        simp only [attached, same, Option.filter_some, if_true, Option.some.injEq, exists_and_left,
          exists_eq_left'] at offered
        simp only [attached, same, Bool.true_eq_false, false_or] at refused
        cases retryable : retryableCircleOperation order with
        | none =>
          rw [retryable] at refused
          simp [retryable, refused] at offered
        | some operation =>
          rw [retryable] at refused
          have spent : circleRetriesExhausted d order operation = true := by
            by_cases refunds : operation = .refund
            · rcases offered with failed | ⟨other, found', spent⟩
              · exact exhausted same operation retryable fun _ => failed
              · cases retryable.symm.trans found'
                exact spent refunds
            · exact exhausted same operation retryable fun refunds' => absurd refunds' refunds
          simp [spent] at refused
  · -- archive: an attached order that matches the run stands in the way
    intro offered refused
    obtain ⟨none_, state⟩ := canArchive.mp offered
    obtain ⟨-, -, -, refused⟩ := (archive_refused found).mp refused
    cases attached : db.attachedOrder run with
    | none =>
      simp only [attached, ne_eq, not_true_eq_false, or_false] at refused
      exact state.elim refused.1 refused.2
    | some order =>
      have foreign : reviewOrderMatchesRun d run order = false := by simpa [attached] using none_
      have own := (offerable order attached).1
      simp only [foreign, Bool.false_eq_true, false_or] at own
      exact state.elim own.1 own.2
  · -- the other way round, a call that changes something is offered
    exact fun changes => canPurchase.mpr (purchase_changes found changes)
  · intro nextKey changes
    refine canRetry.mpr ((retry_changes found changes).imp_right ?_)
    rintro ⟨order, operation, attached, same, retryable, exhausted⟩
    exact ⟨order, operation, by simp [attached, same], retryable, fun _ => exhausted⟩
  · intro changes
    obtain ⟨none_, state⟩ := archive_changes found changes
    exact canArchive.mpr ⟨by simp [none_], state⟩

end Agreement

/-- The capabilities agree with the actions exactly when no order stands in the way. -/
theorem capabilities_agree_iff (d : DemoDependencies) (db : DemoDatabase) (run : DemoRun)
    (found : db.repository.get run.id = some run) :
    CapabilitiesAgree d db run ↔ ∀ order, db.attachedOrder run = some order →
      Offerable d run order :=
  ⟨fun agrees _ attached => offerable_of_agree found agrees attached, agree_of_offerable found⟩

namespace StuckPayout

theorem maxAttempts_pos : 0 < 3 := Nat.succ_pos 2

def config : DemoConfig :=
  { gatewayNetwork := "eip155:5042002", circleMaxAttempts := 3
    circleMaxAttempts_pos := maxAttempts_pos, demoMaxRunsPerHour := 3 }

def d : DemoDependencies :=
  { config
    library := { keccak256 := String.length, addressText := fun address => toString address }
    jobColumns := fun _ => { jobDescription := "demo", jobBudget := 1000000 }
    chain := true }

def input : CreateDemoRunInput :=
  { runId := 1, requestId := "request", description := "demo", deliverableContent := "content"
    deliverableHash := 2, clientAddress := 3, providerAddress := 4, budget := 1000000
    reviewPrice := 100000, reward := 50000, expiresAt := 90000 }

/-- A run whose review is under way. -/
def run : DemoRun :=
  { input, state := .reviewActive, currentOperation := some .waitForReview, jobId := some 7
    orderId := some 9, createdAt := 1000 }

def keys : CircleOperation → IdempotencyKey
  | .payout => 11
  | .resolution => 12
  | .refund => 13

def order : OrderRow :=
  { requestId := "request", paymentSignatureHash := none, paymentAuthorizationKey := none
    rows := .created
      { id := 9, jobId := 7, payer := 3, reviewPrice := 100000, network := "eip155:5042002"
        gatewayTransaction := some "transfer", jobClient := 3, jobProvider := 4
        jobExpiredAt := 90000, deliverableHash := 2, deliverableContent := "content"
        escalationReasonHash := 5, escalationCause := some "cause", reward := 50000
        createdAt := 2000 }
      keys }

/-- Its order, as a first failure of the payout leaves it. -/
def failedOrder : OrderRow :=
  { order with rows :=
    { order.rows with order := order.rows.updatedOrder .payoutFailed {} } }

def stuck : DemoDatabase :=
  { repository := { runs := [run] }, reviews := { orders := [failedOrder] } }

def fine : DemoDatabase :=
  { repository := { runs := [run] }, reviews := { orders := [order] } }

end StuckPayout

open StuckPayout in
/-- `retry` is offered after the first failure of a payout, and refused. -/
theorem payout_retry_refused : ¬ CapabilitiesAgree d stuck run := by
  intro agrees
  have offered : (capabilities d stuck run).canRetry = true := by decide
  exact agrees.retry offered 0 ⟨_, rfl, rfl⟩

open StuckPayout in
theorem capabilities_agree_fine : CapabilitiesAgree d fine run := by
  refine (capabilities_agree_iff d fine run rfl).mpr fun other attached => ?_
  have same : fine.attachedOrder run = some order := rfl
  cases same.symm.trans attached
  refine ⟨.inr ⟨by decide, by decide⟩, fun _ operation retryable => ?_⟩
  have none_ : retryableCircleOperation order = none := rfl
  rw [none_] at retryable
  cases retryable

end VapiArc.Demo
