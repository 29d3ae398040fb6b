import VapiArc.Review.Soundness

/-!
# Circle's operations happen at most once

At most one transaction of an operation completes, its key is replaced only after a
failure that is on record, and an operator's resumption opens exactly one attempt, while
nothing is under way.
-/
namespace VapiArc.Review

open Checked Function Async Transition

section Completion

variable {circle : Circle} {maxAttempts : Nat} {b : Book}

/-- Only the transaction of the current key can have completed. -/
theorem Ledger.completed_current (ledger : Ledger circle maxAttempts b) {key : IdempotencyKey}
    {transaction : CircleTransaction} (here : b.circle key = some transaction)
    (complete : transaction.state = .complete) : key = b.key transaction.request.operation := by
  obtain ⟨member, keyed⟩ := ledger.created key transaction here
  rcases ledger.requested _ member with current | ⟨a, inside, owned, same⟩
  · exact keyed.symm.trans current
  · by_contra other
    have retired : a.idempotencyKey ≠ b.key a.operation := by
      rw [same, owned, keyed]
      exact other
    have failed := ledger.retired a inside retired
    obtain ⟨transaction', there, kept⟩ := ledger.truthful a inside
    rw [same, keyed, here] at there
    cases there
    have state := kept (TransactionState.final_of_terminalFailure failed)
    rw [complete] at state
    rw [← state] at failed
    cases failed

/-- The keys under which Circle was asked for an operation. -/
def Store.requestedKeys (s : Store) (operation : CircleOperation) : List IdempotencyKey :=
  ((s.requested.filter (·.operation = operation)).map (·.idempotencyKey)).dedup

/-- The number of attempts that an operation has had, or may make by now. -/
def Store.opened (s : Store) (operation : CircleOperation) : Nat := s.book.opened operation

theorem Ledger.requestedKeys_le {s : Store} (ledger : Ledger circle maxAttempts s.book)
    (operation : CircleOperation) : (s.requestedKeys operation).length ≤ s.opened operation := by
  let keys := (s.book.attemptsOf operation).map (·.idempotencyKey) ++
    if s.book.id operation = none then [s.book.key operation] else []
  have recorded {a : CircleAttempt} (member : a ∈ s.book.attempts) (owned : a.operation = operation) :
      a.idempotencyKey ∈ keys :=
    List.mem_append_left _ (List.mem_map_of_mem (List.mem_filter.mpr ⟨member, by simp [owned]⟩))
  have inside : s.requestedKeys operation ⊆ keys := by
    intro key member
    simp only [Store.requestedKeys, List.mem_dedup, List.mem_map, List.mem_filter,
      decide_eq_true_eq] at member
    obtain ⟨r, ⟨asked, same⟩, rfl⟩ := member
    rcases ledger.requested r asked with current | ⟨a, member, owned, keyed⟩
    · rw [current, same]
      cases linked : s.book.id operation with
      | none => exact List.mem_append_right _ (by simp [linked])
      | some id =>
        obtain ⟨a, member, owned, keyed, -⟩ := ledger.linked operation id linked
        rw [← keyed]
        exact recorded member owned
    · rw [← keyed]
      exact recorded member (owned.trans same)
  calc (s.requestedKeys operation).length ≤ keys.length :=
        ((List.nodup_dedup _).subperm inside).length_le
    _ = s.opened operation := by
        simp only [keys, Store.opened, Book.opened, List.length_append, List.length_map]
        split <;> rfl

end Completion

section Resume

variable {circle : Circle} {d : Dependencies} {s : Store} {operation : CircleOperation}

theorem read_silent {α : Type} {f : Inputs → Database → α}
    {ok : α → Program Store Inputs Request Reply Failure}
    {error : Failure → Program Store Inputs Request Reply Failure}
    (rest : ∀ s', Untouched s s' → ∀ inputs,
      Silent (host circle d) (contract circle d) (ok (f inputs s'.db)) s') :
    Silent (host circle d) (contract circle d) (Processor.read f ok error) s := by
  change Silent _ _ (Routine.transaction _ ok error) s
  refine Silent.transaction ?_ ?_
  · intro s' later inputs _ a s'' done
    cases done
    exact rest s' later inputs
  · intro _ _ _ _ _ failed
    cases failed

/-- Where an operation can be resumed, the review has been over for long. -/
theorem applyReviewTimeouts_resumable {db db' : Database} {reviewSlaSeconds maxDispatches : Nat}
    {now : Timestamp} {result : Database.TimeoutAction × ReviewOrder}
    (state : db.order.state = Database.recoveryState operation)
    (done : db.applyReviewTimeouts reviewSlaSeconds maxDispatches now = .ok (result, db')) :
    result = (.none, db.order) ∧ db' = db := by
  simp only [Database.applyReviewTimeouts, Database.slaElapsed, bind_ok, revertIf_ok, exists_const,
    state] at done
  cases operation <;> simp [Database.recoveryState] at done <;> exact ⟨done.2.1.symm, done.2.2.symm⟩

/-- And `processOrder` asks nobody for anything. -/
theorem resumable_silent (state : s.db.order.state = Database.recoveryState operation)
    (exhausted : s.book.exhausted operation d.config.circleMaxAttempts = true) :
    Silent (host circle d) (contract circle d) (Routine.start (Processor.processOrder d)) s := by
  refine .bind_ (.transaction (fun s₁ later inputs _ result s₂ done => ?_)
    fun _ _ _ _ _ _ => .done)
  have rows : s₁.db = s.db := later.db
  cases timeouts : s₁.db.applyReviewTimeouts d.config.reviewSlaSeconds d.config.maxDispatches
    inputs.now with
  | error e => simp [timeouts, Except.map] at done
  | ok pair =>
    simp only [timeouts, Except.map, Except.ok.injEq, Prod.mk.injEq] at done
    obtain ⟨rfl, rfl⟩ := done
    rw [rows] at timeouts
    obtain ⟨same, same'⟩ := applyReviewTimeouts_resumable state timeouts
    rw [same, same']
    refine .bind_ (read_silent fun s₃ later' _ => ?_)
    have rows' : s₃.db = s.db := later'.db
    have skipped : Processor.circleRetriesExhausted d s.db.order s₃.db = true := by
      rw [rows']
      unfold Processor.circleRetriesExhausted
      rw [state]
      cases operation <;> exact exhausted
    rw [if_pos skipped]
    exact .done

/-- No call is under way when a resumption is accepted. -/
theorem resumable_idle {v : ServiceState} (sound : Sound circle d v.store)
    (good : Good (host circle d) (contract circle d) v)
    (free : ∀ program, v.activity ≠ .running program)
    (state : v.store.db.order.state = Database.recoveryState operation)
    (exhausted : v.store.book.exhausted operation d.config.circleMaxAttempts = true) :
    v.activity = .idle := by
  cases activity : v.activity with
  | idle => rfl
  | running program => exact absurd activity (free program)
  | waiting message rest =>
    have unresumable : v.store.db.Unresumable d.config.circleMaxAttempts :=
      good.pending sound activity
    have unexhausted : v.store.book.exhausted operation d.config.circleMaxAttempts = false :=
      unresumable.unexhausted operation state
    rw [exhausted] at unexhausted
    cases unexhausted

end Resume

section Claim

variable (circle : Circle) (d : Dependencies)

/-- Whatever calls, deliveries, resumptions, crashes and failures there are: at most one
transaction of an operation ever completes; a key is replaced only when its transaction
has failed for good on record; there are no more attempts than are permitted and one for
each resumption; and a resumption is accepted only when no call is under way and the next
one would make no request. -/
theorem circle_atMostOnce {opening : Opening} {earlier later : List (ServiceState × ServiceEvent)}
    {u v : ServiceState} (before : ServiceRun circle d opening earlier u)
    (run : Run (host circle d).system u later v) (operation : CircleOperation) :
    (∀ key key' transaction transaction', u.store.circle key = some transaction →
      v.store.circle key' = some transaction' → transaction.request.operation = operation →
      transaction'.request.operation = operation → transaction.state = .complete →
      transaction'.state = .complete → key = key') ∧
    (∀ event, (host circle d).admits v event →
      let v' := (host circle d).next v event
      v'.store.db.circleIdempotencyKey operation ≠ v.store.db.circleIdempotencyKey operation →
      ∃ a ∈ v'.store.db.attempts, a.operation = operation ∧
        a.idempotencyKey = v.store.db.circleIdempotencyKey operation ∧
        a.state.terminalFailure = true ∧ ∃ transaction,
          v'.store.circle a.idempotencyKey = some transaction ∧ transaction.state = a.state) ∧
    ((v.store.db.listCircleAttempts operation).length ≤
        d.config.circleMaxAttempts + v.store.resumes operation ∧
      (v.store.requestedKeys operation).length ≤
        d.config.circleMaxAttempts + v.store.resumes operation) ∧
    ∀ nextKey db', (host circle d).admits v (.outside (.resume operation nextKey)) →
      v.store.db.resumeCircleOperation operation d.config.circleMaxAttempts nextKey = .ok ((), db') →
      let v' := (host circle d).next v (.outside (.resume operation nextKey))
      v'.store.resumes operation = v.store.resumes operation + 1 ∧
      v.store.opened operation = d.config.circleMaxAttempts + v.store.resumes operation ∧
      v'.store.opened operation = v.store.opened operation + 1 ∧
      v.activity = .idle ∧
      Silent (host circle d) (contract circle d) (Routine.start (Processor.processOrder d)) v.store := by
  obtain ⟨sound, good⟩ := service_good (before.trans run)
  have within := sound.ledger.budget operation
  refine ⟨?_, ?_, ⟨?_, ?_⟩, ?_⟩
  · intro key key' transaction transaction' here there owned owned' complete complete'
    have grows : CircleGrows u.store.circle v.store.circle :=
      service_related (fun a b => CircleGrows a.circle b.circle) (fun s => .refl s.circle)
        (fun _ _ _ first second => first.trans second) (fun _ _ _ _ proceeds => proceeds.circle)
        before run
    -- the transaction that was complete before is so still, and both belong to the current key
    obtain ⟨still, here', same, kept⟩ := grows key transaction here
    have complete'' : still.state = .complete := by
      rw [← complete]
      exact kept (by rw [complete]; rfl)
    have first := sound.ledger.completed_current here' complete''
    have second := sound.ledger.completed_current there complete'
    rw [same, owned] at first
    rw [owned'] at second
    exact first.trans second.symm
  · intro event admitted v' renewed
    obtain ⟨sound', -⟩ := service_good ((before.trans run).step event admitted)
    obtain ⟨a, member, owned, keyed, failed⟩ :=
      (service_proceeds (before.trans run) admitted).keys operation renewed
    -- the attempt under the old key was recorded as Circle told it
    obtain ⟨transaction, here, kept⟩ := sound'.ledger.truthful a member
    exact ⟨a, member, owned, keyed, failed, transaction, here,
      kept (TransactionState.final_of_terminalFailure failed)⟩
  · exact (Nat.le_add_right _ _).trans within
  · exact (sound.ledger.requestedKeys_le operation).trans within
  · intro nextKey db' admitted accepted v'
    obtain ⟨unused, free⟩ := admitted
    -- the operator's call is no part of Circle's, so nobody is at work meanwhile
    have free := free.resolve_left fun remote => by cases remote
    obtain ⟨-, state, exhausted, all, more, -⟩ := sound.ledger.resume unused accepted
    have step : v'.store = { v.store with
        db := db', resumes := update v.store.resumes operation (v.store.resumes operation + 1) } := by
      simp only [v', Host.next, host, outside, accepted]
    have counted : v'.store.resumes operation = v.store.resumes operation + 1 := by
      rw [step]
      exact update_self ..
    have opens : v'.store.opened operation = v.store.opened operation + 1 := by
      rw [Store.opened, step]
      exact more
    exact ⟨counted, all, opens, resumable_idle sound good free state exhausted,
      resumable_silent state exhausted⟩

end Claim

namespace Walkthrough

def accepted : ServiceEvent := .reply (.ok .accepted)

/-- The offer, the claim and the verdict. -/
def reviewing : List ServiceEvent :=
  [.start .wake, advance 1000 9, advance 1000 9, advance 1000 9, advance 1000 9, accepted,
    advance 1000 9, advance 1000 9, advance 1000 9, accepted, advance 1000 9, advance 1000 9,
    .outside (.claim 5 (some reviewer) (· + 1000) 2000),
    .outside (.verdict 5 .approve "well done" 3000)]

def payload : CircleOperation → Payload
  | .payout => .transfer 23 60
  | .refund => .transfer 20 100
  | .resolution => .humanResolve 7 23 true 60 77 88

/-- An operation under a key, up to the record of the end of its transaction. -/
def requesting (operation : CircleOperation) (key : IdempotencyKey) (state : TransactionState) :
    List ServiceEvent :=
  [advance 4000 9, advance 4000 9,
    .outside (.creates { operation, idempotencyKey := key, payload := payload operation }),
    .reply (.ok (.created key)), advance 4000 9, advance 4000 9,
    .outside (.progresses key state), .reply (.ok (.transaction state (some 88))), advance 4000 9]

def paying (key : IdempotencyKey) (state : TransactionState) : List ServiceEvent :=
  [.start .wake, advance 4000 9, advance 4000 9, advance 4000 9, accepted, advance 4000 9,
    advance 4000 9, accepted] ++ requesting .payout key state

/-- The first payout fails, and its key is replaced by the fourth. -/
def failing : List ServiceEvent :=
  reviewing ++ paying 1 .failed ++ [advance 4000 4, advance 4000 9, advance 4000 9]

/-- The second one completes, and so does the resolution. -/
def settling : List ServiceEvent :=
  paying 4 .complete ++ List.replicate 6 (advance 5000 9) ++ [accepted, advance 5000 9, accepted] ++
    requesting .resolution 2 .complete ++ [advance 5000 9, advance 5000 9]

def retried : ServiceState := (host circle dependencies).system.replay start failing

def settled : ServiceState := (host circle dependencies).system.replay retried settling

theorem retried_run : ServiceRun circle dependencies opening
    ((host circle dependencies).system.record start [] failing) retried :=
  System.replay_run _ .refl failing (admitsAll_of_admittedAll (by decide +kernel))

theorem settled_run : Run (host circle dependencies).system retried
    ((host circle dependencies).system.record retried [] settling) settled :=
  System.replay_run _ .refl settling (admitsAll_of_admittedAll (by decide +kernel))

end Walkthrough

/-- The first payout fails, the second one completes. -/
theorem circle_atMostOnce_walkthrough :
    Walkthrough.settled.store.requestedKeys .payout = [4, 1] ∧
      (Walkthrough.settled.store.requestedKeys .payout).length ≤
        Walkthrough.dependencies.config.circleMaxAttempts +
          Walkthrough.settled.store.resumes .payout :=
  ⟨by decide +kernel,
    (circle_atMostOnce Walkthrough.circle Walkthrough.dependencies Walkthrough.retried_run
      Walkthrough.settled_run .payout).2.2.1.2⟩

end VapiArc.Review
