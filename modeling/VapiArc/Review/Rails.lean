import VapiArc.Review.Contract

/-!
# Circle operations meet the contract

Rules for the processor's steps from known rows, and what the part that payout,
resolution and refund share leaves behind.
-/
namespace VapiArc.Review

open Checked Function Async Transition

section Rules

variable (circle : Circle) (d : Dependencies)

/-- The routine meets the service's contract. -/
abbrev Meets {α : Type} (P : Store → Prop) (x : Processor α) (Q : α → Store → Prop)
    (E : Failure → Store → Prop) : Prop :=
  Triple (host circle d) (contract circle d) P x Q E

variable {circle d} {α β : Type} {db : Database} {Q : α → Store → Prop}
  {E : Failure → Store → Prop}

theorem Store.Completed.stable {operation : CircleOperation} :
    Stable (contract circle d) fun s => s.Completed operation := by
  intro s s' completed later _
  obtain ⟨transaction, here, same, complete⟩ := completed
  obtain ⟨transaction', there, request, final⟩ := later.circle _ _ here
  refine ⟨transaction', by rw [later.db]; exact there, by rw [request, same], ?_⟩
  rw [← complete]
  exact final (by rw [complete]; rfl)

theorem stable_at (db : Database) : Stable (contract circle d) fun s => s.db = db :=
  fun _ _ here later _ => later.db.trans here

theorem database_at {t : Inputs → Database → Except Failure (α × Database)}
    (committed : ∀ s, s.db = db → Sound circle d s → ∀ inputs, ¬ s.Used inputs.randomUUID →
      ∀ a db', t inputs db = .ok (a, db') → Sound circle d { s with db := db' } ∧
        Proceeds s { s with db := db' } ∧ Q a { s with db := db' })
    (refused : ∀ s, s.db = db → Sound circle d s → ∀ inputs e, t inputs db = .error e → E e s) :
    Meets circle d (fun s => s.db = db) (Processor.database t) Q E := by
  refine .transaction_ (stable_at db) ?_ ?_
  · intro s here sound inputs fresh a s' done
    subst here
    cases result : t inputs s.db with
    | error e => simp [result, Except.map] at done
    | ok pair =>
      simp only [result, Except.map, Except.ok.injEq, Prod.mk.injEq] at done
      obtain ⟨rfl, rfl⟩ := done
      obtain ⟨sound', proceeds, holds⟩ := committed s rfl sound inputs fresh pair.1 pair.2 result
      exact ⟨proceeds, sound', holds⟩
  · intro s here sound inputs _ e done
    subst here
    cases result : t inputs s.db with
    | error e' =>
      simp only [result, Except.map, Except.error.injEq] at done
      exact refused s rfl sound inputs e (by rw [result, done])
    | ok pair => simp [result, Except.map] at done

theorem read_at {f : Inputs → Database → α} (holds : ∀ s, s.db = db → Sound circle d s →
      ∀ inputs, Q (f inputs db) s) :
    Meets circle d (fun s => s.db = db) (Processor.read f) Q E := by
  refine database_at ?_ (fun _ _ _ _ _ failed => by cases failed)
  intro s here sound inputs _ a db' done
  cases done
  subst here
  exact ⟨sound, .refl s, holds s rfl sound inputs⟩

theorem update_at {state : ReviewOrderState} {fields : Inputs → Database.OrderUpdate}
    {P : Store → Prop} {Q : ReviewOrder → Store → Prop} (stable : Stable (contract circle d) P)
    (committed : ∀ s, P s → Sound circle d s → ∀ inputs,
      let order' := s.db.updatedOrder state (fields inputs)
      let s' := { s with db := { s.db with order := order' } }
      Sound circle d s' ∧ Proceeds s s' ∧ Q order' s') :
    Meets circle d P (Processor.updateOrder state fields) Q E := by
  refine .transaction_ stable ?_ ?_
  · intro s here sound inputs _ a s' done
    cases done
    obtain ⟨sound', proceeds, holds⟩ := committed s here sound inputs
    exact ⟨proceeds, sound', holds⟩
  · intro s here sound inputs _ e failed
    cases failed

/-- Nothing but Circle's transactions changes while a reply is awaited in a quiet state. -/
theorem await_at {request : Request} {Q : Reply → Store → Prop}
    (quiet : db.Quiet d.config.circleMaxAttempts)
    (issued : ∀ s, s.db = db → Sound circle d s →
      Sound circle d (s.issue request) ∧ Proceeds s (s.issue request))
    (answered : ∀ s, s.db = db → Sound circle d s → ∀ reply,
      answers circle request s (.ok reply) → Q reply s) :
    Meets circle d (fun s => s.db = db) (.await request) Q (fun _ s => s.db = db) := by
  have same (s : Store) : (s.issue request).db = s.db := by cases request <;> rfl
  have still (s s' : Store) (here : s.db = db) (later : (contract circle d).awaiting
      (s.issue request) s') : s'.db = db := by
    have quiet' : (s.issue request).db.Quiet d.config.circleMaxAttempts := by rwa [same, here]
    rw [later.quiet quiet', same, here]
  refine .await_ (stable_at db) ?_ ?_ ?_ ?_
  · exact fun s here sound => ⟨(issued s here sound).2, (issued s here sound).1⟩
  · intro s s' here _ later _
    change s'.db.Unresumable _
    rw [still s s' here later]
    exact quiet.toUnresumable
  · exact fun s s' here _ later sound' reply => answered s' (still s s' here later) sound' reply
  · exact fun s s' here _ later _ _ _ => still s s' here later

theorem perform_at {request : Request} (quiet : db.Quiet d.config.circleMaxAttempts)
    (silent : ∀ s : Store, s.issue request = s) :
    Meets circle d (fun s => s.db = db) (Processor.perform request) (fun _ s => s.db = db)
      (fun _ s => s.db = db) := by
  refine .bind_ (await_at (Q := fun _ s => s.db = db) quiet ?_ ?_) ?_
  · intro s _ sound
    rw [silent]
    exact ⟨sound, .refl s⟩
  · exact fun _ here _ _ _ => here
  · exact fun _ => .pure_ fun _ here => here

/-- What is known of the rows is known of these rows. -/
theorem meets_rows {F : Database → Prop} {x : Processor α}
    (each : ∀ db, F db → Meets circle d (fun s => s.db = db) x Q E) :
    Meets circle d (fun s => F s.db) x Q E :=
  fun ok error okSafe errorSafe s here => each s.db here ok error okSafe errorSafe s rfl

/-- The same, with something that is known of the rest of the store. -/
theorem meets_rows_and {F : Database → Prop} {R : Store → Prop} {x : Processor α}
    (each : ∀ db, F db → Meets circle d (fun s => s.db = db ∧ R s) x Q E) :
    Meets circle d (fun s => F s.db ∧ R s) x Q E :=
  fun ok error okSafe errorSafe s here =>
    each s.db here.1 ok error okSafe errorSafe s ⟨rfl, here.2⟩

end Rules

section Records

variable {circle : Circle} {d : Dependencies} {s : Store} {db : Database}
  {operation : CircleOperation} {transaction : CircleTransactionResult}

/-- Requests under the current key of an operation are requests for it. -/
theorem Ledger.current_operation {maxAttempts : Nat} {b : Book} {r : CircleRequest}
    (ledger : Ledger circle maxAttempts b) (member : r ∈ b.requested)
    (current : r.idempotencyKey = b.key operation) : r.operation = operation := by
  rcases ledger.requested r member with own | ⟨a, inside, owned, keyed⟩
  · exact ledger.apart (own.symm.trans current)
  · exact owned.symm.trans (ledger.owned a inside operation (keyed.trans current))

theorem Sound.completed (sound : Sound circle d s) (reports : s.book.Reports circle operation transaction)
    (complete : transaction.state = .complete) : s.Completed operation := by
  obtain ⟨known, here, kept⟩ := reports.2
  rw [complete] at kept
  obtain ⟨member, keyed⟩ := sound.ledger.created _ known here
  exact ⟨known, here, sound.ledger.current_operation member keyed, kept rfl⟩

/-- Circle's answer about the recorded transaction is one about the current key's. -/
theorem Sound.reports {id : TransactionId} {state : TransactionState} {txHash : Option Hex}
    (sound : Sound circle d s) (linked : s.db.circleId operation = some id)
    (answer : ∃ key transaction, id = circle.transactionId key ∧ s.circle key = some transaction ∧
      (state.final = true → transaction.state = state)) :
    s.book.Reports circle operation { id, state, txHash } := by
  obtain ⟨key, transaction, same, here, kept⟩ := answer
  obtain ⟨a, member, owned, keyed, identical⟩ := sound.ledger.linked operation id linked
  have current : key = s.book.key operation := by
    apply circle.injective
    rw [← same, ← identical, sound.ledger.identified a member, keyed]
  subst current
  exact ⟨same, transaction, here, kept⟩

theorem Book.Reports.same {b : Book} (reports : b.Reports circle operation transaction) (b' : Book)
    (circle_ : b'.circle = b.circle) (key : b'.key operation = b.key operation) :
    b'.Reports circle operation transaction := by
  refine ⟨by rw [key]; exact reports.1, ?_⟩
  obtain ⟨known, here, kept⟩ := reports.2
  exact ⟨known, by rw [circle_, key]; exact here, kept⟩

theorem Book.Reports.stable : Stable (contract circle d) fun s =>
    s.book.Reports circle operation transaction := by
  intro s s' reports later _
  obtain ⟨db', circle', requested', resumes'⟩ := s'
  obtain ⟨rfl, rfl, rfl, grows⟩ := later
  exact ⟨reports.1, reports.2.grow grows⟩

theorem ReviewOrder.Permits.recovery {order : ReviewOrder} {other : CircleOperation}
    (permitted : order.Permits operation) (state : order.state = Database.recoveryState other) :
    other = operation := by
  cases operation with
  | payout =>
    have phase : order.state.phase = .payout := permitted
    rw [state] at phase
    cases other <;> first | rfl | cases phase
  | resolution =>
    rw [permitted.1] at state
    cases other <;> cases state
  | refund =>
    rcases permitted with now | ⟨now, -⟩ <;> rw [now] at state <;>
      cases other <;> first | rfl | cases state

/-- Only the operation that is permitted can make the rows unquiet. -/
theorem Database.Quiet.of_permits (operation : CircleOperation) (permitted : db.order.Permits operation)
    (unexhausted : Database.exhausted (db.listCircleAttempts operation) d.config.circleMaxAttempts
      (db.circleIdempotencyKey operation) ≠ true) : db.Quiet d.config.circleMaxAttempts where
  undispatched state := permitted.not_verdict (by rw [state]; rfl)
  unclaimed state := permitted.not_verdict (by rw [state]; rfl)
  unexhausted other state := by
    rw [permitted.recovery state, ← Bool.not_eq_true]
    exact unexhausted

theorem Database.Beside.permits {db' : Database} {other : CircleOperation}
    (beside : db.Beside operation db') (permitted : db.order.Permits other) :
    db'.order.Permits other := by
  obtain ⟨_, _, _, rfl⟩ := beside
  cases other <;> exact permitted

/-- Recording an answer, or replacing the key after a failure, is one step of the service. -/
theorem Proceeds.beside {db' : Database} (phases : Phases d.library s)
    (permitted : s.db.order.Permits operation) (beside : s.db.Beside operation db')
    (keys : db'.circleIdempotencyKey = s.db.circleIdempotencyKey ∨
      (∃ nextKey, db'.circleIdempotencyKey =
        update s.db.circleIdempotencyKey operation nextKey) ∧
      ∃ a ∈ db'.attempts, a.operation = operation ∧
        a.idempotencyKey = s.db.circleIdempotencyKey operation ∧
        a.state.terminalFailure = true) : Proceeds s { s with db := db' } := by
  obtain ⟨columns, attempts, journal, rfl⟩ := beside
  exact {
    purchase := rfl
    state := .inl rfl
    claim := .inl ⟨rfl, rfl, rfl, rfl, rfl⟩
    verdict := .inl ⟨⟨rfl, rfl, rfl⟩, rfl⟩
    payout := by
      intro paid
      refine ⟨rfl, ?_⟩
      have other : CircleOperation.payout ≠ operation := by
        rintro rfl
        exact paid (phases.unpaid (.inr permitted)).1
      simp [Database.setColumns, other]
    abort := fun _ => rfl
    requests := .inl rfl
    keys := by
      intro other renewed
      rcases keys with same | ⟨⟨nextKey, renewal⟩, a, member, owned, keyed, failed⟩
      · exact absurd (congrFun same other) renewed
      · by_cases same : other = operation
        · subst same
          exact ⟨a, member, owned, keyed, failed⟩
        · exact absurd ((congrFun renewal other).trans (update_of_ne same _ _)) renewed
    circle := .refl _ }

/-- What holds when Circle has answered for an operation. -/
def Answered (circle : Circle) (db : Database) (operation : CircleOperation)
    (transaction : CircleTransactionResult) (s : Store) : Prop :=
  db.Beside operation s.db ∧ s.book.Reports circle operation transaction

theorem Answered.stable :
    Stable (contract circle d) (Answered circle db operation transaction) := by
  intro s s' here later sound
  refine ⟨?_, Book.Reports.stable s s' here.2 later sound⟩
  rw [later.db]
  exact here.1

/-- What holds when that answer has been recorded. -/
structure Recorded (circle : Circle) (d : Dependencies) (db : Database)
    (operation : CircleOperation) (transaction : CircleTransactionResult) (s : Store) : Prop where
  answered : Answered circle db operation transaction s
  linked : s.db.circleId operation = some transaction.id
  quiet : transaction.state.terminalFailure = false → s.db.Quiet d.config.circleMaxAttempts
  completed : transaction.state = .complete → s.Completed operation

variable (permitted : db.order.Permits operation)
include permitted

theorem record_meets : Meets circle d (Answered circle db operation transaction)
    (Processor.recordCircleTransaction operation transaction)
    (fun _ => Recorded circle d db operation transaction) (fun _ s => db.Beside operation s.db) := by
  refine .transaction_ Answered.stable ?_ ?_
  · rintro s ⟨before, reports⟩ sound inputs - ⟨⟩ s' done
    cases result : s.db.recordCircleTransaction operation transaction with
    | error e => simp [result, Except.map] at done
    | ok pair =>
      obtain ⟨⟨⟩, db'⟩ := pair
      simp only [result, Except.map, Except.ok.injEq, Prod.mk.injEq, true_and] at done
      subst done
      simp only [Database.recordCircleTransaction, bind_ok, pure_ok, Prod.mk.injEq, true_and,
        exists_eq_right] at result
      obtain ⟨ledger, beside, journal, key, linked, records⟩ := sound.ledger.record reports result
      have permitted' := before.permits permitted
      have sound' : Sound circle d { s with db := db' } :=
        ⟨ledger, sound.phases.beside permitted'.awaits beside journal (.inl key)⟩
      have reports' := reports.same (Store.book { s with db := db' }) rfl
        (congrFun key operation)
      refine ⟨.beside sound.phases permitted' beside (.inl key), sound',
        ⟨before.trans beside, reports'⟩, linked, fun going => ?_, sound'.completed reports'⟩
      refine .of_permits operation (beside.permits permitted') fun exhausted => ?_
      have exhausted : Book.exhausted { s with db := db' }.book operation
        d.config.circleMaxAttempts = true := exhausted
      obtain ⟨latest, last, -, failed, keyed⟩ := Book.exhausted_iff.mp exhausted
      rcases records.members latest (Book.attempt_of_last last).1 with ⟨-, other⟩ | ⟨-, -, -, state⟩
      · exact other (keyed.trans (congrFun key operation))
      · rw [state, going] at failed
        cases failed
  · rintro s ⟨before, -⟩ - inputs - e -
    exact before

/-- A failed transaction has its key replaced, as long as there are attempts left. -/
theorem rotate_meets (failed : transaction.state.terminalFailure = true) :
    Meets circle d (Answered circle db operation transaction)
      (Processor.database fun inputs db => db.rotateCircleAttempt operation transaction
        d.config.circleMaxAttempts inputs.randomUUID)
      (fun _ s => db.Beside operation s.db) (fun _ s => db.Beside operation s.db) := by
  refine .transaction_ Answered.stable ?_ ?_
  · rintro s ⟨before, reports⟩ sound inputs fresh rotation s' done
    cases result : s.db.rotateCircleAttempt operation transaction d.config.circleMaxAttempts
      inputs.randomUUID with
    | error e => simp [result, Except.map] at done
    | ok pair =>
      simp only [result, Except.map, Except.ok.injEq, Prod.mk.injEq] at done
      obtain ⟨-, rfl⟩ := done
      obtain ⟨ledger, beside, journal, key, a, member, keyed, owned, -, state⟩ :=
        sound.ledger.rotate reports failed fresh result
      have permitted' := before.permits permitted
      refine ⟨.beside sound.phases permitted' beside ?_,
        ⟨ledger, sound.phases.beside permitted'.awaits beside journal ?_⟩, before.trans beside⟩
      · exact key.imp id fun renewed =>
          ⟨⟨_, renewed⟩, a, member, owned, keyed, by rw [state]; exact failed⟩
      · exact key.imp id fun renewed => ⟨_, fresh, renewed⟩
  · rintro s ⟨before, -⟩ - inputs - e -
    exact before

theorem requireCompleted_meets :
    Meets circle d (Recorded circle d db operation transaction)
      (Processor.requireCompletedCircleTransaction d operation transaction)
      (fun _ s => db.Beside operation s.db ∧ s.db.circleId operation = some transaction.id ∧
        s.Completed operation)
      (fun _ s => db.Beside operation s.db) := by
  unfold Processor.requireCompletedCircleTransaction
  split
  next complete _ =>
    exact .pure_ fun s here => ⟨here.answered.1, here.linked, here.completed complete⟩
  next =>
    dsimp only
    split
    next failed =>
      refine .bind_ ((rotate_meets permitted failed).weaken (fun _ here => here.answered)
        (fun _ _ after => after) (fun _ _ after => after)) fun rotation => ?_
      exact .throw_ fun _ beside => beside
    next => exact .throw_ fun _ here => here.answered.1

end Records

section Operations

variable {circle : Circle} {d : Dependencies} {db : Database} {operation : CircleOperation}

/-- Rows under which an answer about the recorded transaction is awaited. -/
structure Awaiting (d : Dependencies) (db : Database) (operation : CircleOperation)
    (id : TransactionId) (db' : Database) : Prop where
  beside : db.Beside operation db'
  linked : db'.circleId operation = some id
  quiet : db'.Quiet d.config.circleMaxAttempts

/-- An answer about the recorded transaction. -/
theorem answer_meets {request : Request} {id : TransactionId} {db' : Database}
    (awaiting : Awaiting d db operation id db')
    (asks : request = .getTransaction id ∨ request = .waitForComplete id) :
    Meets circle d (fun s => s.db = db') (.await request)
      (fun reply s => db.Beside operation s.db ∧ ∀ state txHash,
        reply = .transaction state txHash → Answered circle db operation { id, state, txHash } s)
      (fun _ s => db.Beside operation s.db) := by
  refine (await_at awaiting.quiet ?_ ?_).weaken (fun _ here => here) (fun _ _ after => after) ?_
  · rintro s rfl sound
    rcases asks with rfl | rfl <;> exact ⟨sound, .refl s⟩
  · rintro s rfl sound reply answer
    refine ⟨awaiting.beside, ?_⟩
    rintro state txHash rfl
    refine ⟨awaiting.beside, sound.reports awaiting.linked ?_⟩
    rcases asks with rfl | rfl <;> exact answer
  · rintro _ s rfl
    exact awaiting.beside

theorem getTransaction_meets {id : TransactionId} {db' : Database}
    (awaiting : Awaiting d db operation id db') :
    Meets circle d (fun s => s.db = db') (Processor.getTransaction id)
      (fun transaction => Answered circle db operation transaction)
      (fun _ s => db.Beside operation s.db) := by
  refine .bind_ (answer_meets awaiting (.inl rfl)) fun reply => ?_
  cases reply with
  | transaction state txHash => exact .pure_ fun s after => after.2 state txHash rfl
  | accepted => exact .throw_ fun s after => after.1
  | created => exact .throw_ fun s after => after.1

theorem waitForComplete_meets {id : TransactionId} {db' : Database}
    (awaiting : Awaiting d db operation id db') :
    Meets circle d (fun s => s.db = db') (Processor.waitForComplete id)
      (fun transaction => Answered circle db operation transaction)
      (fun _ s => db.Beside operation s.db) := by
  refine .bind_ (answer_meets awaiting (.inr rfl)) fun reply => ?_
  cases reply with
  | transaction state txHash =>
    cases txHash with
    | none => exact .throw_ fun s after => after.1
    | some txHash => exact .pure_ fun s after => after.2 state (some txHash) rfl
  | accepted => exact .throw_ fun s after => after.1
  | created => exact .throw_ fun s after => after.1

/-- Rows under which Circle may be asked for an operation. -/
structure Ready (d : Dependencies) (db : Database) (operation : CircleOperation) : Prop where
  permitted : db.order.Permits operation
  quiet : db.Quiet d.config.circleMaxAttempts

/-- A request that suits the rows, once the journal knows of it. -/
structure Suits (d : Dependencies) (db : Database) (request : CircleRequest) : Prop where
  current : request.idempotencyKey = db.circleIdempotencyKey request.operation
  asks : db.order.Asks d.library request.operation request.payload

theorem Proceeds.asked {s : Store} {request : CircleRequest}
    (permitted : s.db.order.Permits request.operation)
    (current : request.idempotencyKey = s.db.circleIdempotencyKey request.operation) :
    Proceeds s { s with requested := request :: s.requested } where
  purchase := rfl
  state := .inl rfl
  claim := .inl ⟨rfl, rfl, rfl, rfl, rfl⟩
  verdict := .inl ⟨⟨rfl, rfl, rfl⟩, rfl⟩
  payout _ := ⟨rfl, rfl⟩
  abort _ := rfl
  requests := .inr ⟨request, rfl, permitted, current⟩
  keys _ renewed := absurd rfl renewed
  circle := .refl _

section Execute

variable (request : CircleRequest) (ready : Ready d db request.operation)
  (suits : Suits d db request)
  (started : db.hasCurrentCircleRequestStarted request.operation = true)
include ready suits started

theorem createTransaction_meets :
    Meets circle d (fun s => s.db = db) (Processor.createTransaction request)
      (fun id => Answered circle db request.operation { id, state := .initiated, txHash := none })
      (fun _ s => db.Beside request.operation s.db) := by
  have journaled : ⟨request.operation, request.idempotencyKey⟩ ∈ db.journal := by
    rw [suits.current]
    exact List.contains_iff_mem.mp started
  refine .bind_ ((await_at ready.quiet ?_ ?_
    (Q := fun reply s => s.db = db ∧ answers circle (.createTransaction request) s (.ok reply))
    ).weaken (fun _ here => here) (fun _ _ after => after) ?_) ?_
  · rintro s rfl sound
    exact ⟨⟨sound.ledger.asked suits.current journaled,
      sound.phases.asked ready.permitted suits.asks⟩, .asked ready.permitted suits.current⟩
  · exact fun s here _ reply answer => ⟨here, answer⟩
  · rintro _ s rfl
    exact .refl _ _
  · intro reply
    cases reply with
    | created id =>
      refine .pure_ ?_
      rintro s ⟨rfl, known, same⟩
      refine ⟨.refl _ _, ?_⟩
      rw [suits.current] at known same
      obtain ⟨transaction, here⟩ := Option.isSome_iff_exists.mp known
      exact ⟨same, transaction, here, fun final => by cases final⟩
    | accepted =>
      refine .throw_ ?_
      rintro s ⟨rfl, -⟩
      exact .refl _ _
    | transaction =>
      refine .throw_ ?_
      rintro s ⟨rfl, -⟩
      exact .refl _ _

/-- A transaction is created, recorded and watched. -/
theorem execute_meets :
    Meets circle d (fun s => s.db = db)
      (Processor.execute request (Processor.recordCircleTransaction request.operation))
      (fun transaction => Answered circle db request.operation transaction)
      (fun _ s => db.Beside request.operation s.db) := by
  refine .bind_ (createTransaction_meets request ready suits started) fun id => ?_
  refine .bind_ (record_meets ready.permitted) fun _ => ?_
  refine (meets_rows (F := Awaiting d db request.operation id) fun db' awaiting =>
    waitForComplete_meets awaiting).weaken ?_ (fun _ _ after => after) (fun _ _ after => after)
  exact fun s recorded => ⟨recorded.answered.1, recorded.linked, recorded.quiet rfl⟩

end Execute

/-- The rows once a request is about to be sent. -/
structure Started (d : Dependencies) (db : Database) (operation : CircleOperation)
    (db' : Database) : Prop where
  order : db'.order = db.order
  ready : Ready d db' operation
  beside : db.Beside operation db'
  started : db'.hasCurrentCircleRequestStarted operation = true

theorem mark_meets (ready : Ready d db operation) :
    Meets circle d (fun s => s.db = db)
      (Processor.database fun _ db => db.markCircleRequestStarted operation)
      (fun _ s => Started d db operation s.db) (fun _ s => db.Beside operation s.db) := by
  refine database_at ?_ ?_
  · rintro s rfl sound inputs - new db' done
    unfold Database.markCircleRequestStarted at done
    dsimp only at done
    split at done
    next =>
      cases done
      refine ⟨⟨sound.ledger.marked _, sound.phases.marked ready.permitted⟩, ?_, rfl, ?_,
        .journal _ _ _, ?_⟩
      · exact .of_terms (.of_columns rfl rfl) rfl (.inl rfl)
          (fun _ => rfl) rfl rfl (.refl _)
      · exact ⟨ready.permitted, ⟨ready.quiet.unexhausted⟩, ready.quiet.undispatched,
          ready.quiet.unclaimed⟩
      · exact List.contains_iff_mem.mpr (.head _)
    next existing found =>
      simp only [bind_ok, revertIf_ok, exists_const, ne_eq, not_not, pure_ok, Prod.mk.injEq] at done
      obtain ⟨same, -, rfl⟩ := done
      refine ⟨sound, .refl s, rfl, ready, .refl _ _, List.contains_iff_mem.mpr ?_⟩
      have member := List.mem_of_find?_eq_some found
      have keyed : existing.idempotencyKey = s.db.circleIdempotencyKey operation := by
        simpa using List.find?_some found
      rwa [← keyed, ← same]
  · rintro s rfl - - e -
    exact .refl _ _

/-- What the three operations share: the transaction is recorded, and it has completed. -/
theorem circleOperation_meets {send : Processor CircleTransactionResult}
    (ready : Ready d db operation)
    (sends : ∀ db', Started d db operation db' → Meets circle d (fun s => s.db = db') send
      (fun transaction => Answered circle db' operation transaction)
      (fun _ s => db'.Beside operation s.db)) :
    Meets circle d (fun s => s.db = db)
      (Processor.circleOperation d operation (db.order.circle operation) send)
      (fun result s => db.Beside operation s.db ∧ s.db.circleId operation = some result.1.id ∧
        s.Completed operation)
      (fun _ s => db.Beside operation s.db) := by
  have answered : Meets circle d (fun s => s.db = db)
      (Processor.recordedOrSent operation (db.order.circle operation) send)
      (fun transaction => Answered circle db operation transaction)
      (fun _ s => db.Beside operation s.db) := by
    unfold Processor.recordedOrSent
    split
    next id linked => exact getTransaction_meets ⟨.refl _ _, linked, ready.quiet⟩
    next =>
      refine .bind_ (mark_meets ready) fun _ => ?_
      refine meets_rows fun db' started => (sends db' started).weaken (fun _ here => here) ?_ ?_
      · exact fun _ s after => ⟨started.beside.trans after.1, after.2⟩
      · exact fun _ s after => started.beside.trans after
  refine .bind_ answered fun transaction => ?_
  refine .bind_ (record_meets ready.permitted) fun _ => ?_
  refine .bind_ (requireCompleted_meets ready.permitted) fun txHash => ?_
  exact .pure_ fun s after => after

/-- A transfer that the rows ask for. -/
theorem transfer_meets (operation : CircleOperation) {destination : Address} {amount : Nat}
    (asks : db.order.Asks d.library operation (.transfer destination amount)) (db' : Database)
    (started : Started d db operation db') :
    Meets circle d (fun s => s.db = db')
      (Processor.transfer operation destination amount (db.order.circle operation).key
        (Processor.recordCircleTransaction operation))
      (fun transaction => Answered circle db' operation transaction)
      (fun _ s => db'.Beside operation s.db) := by
  rw [← started.order] at asks ⊢
  exact execute_meets ⟨operation, _, .transfer destination amount⟩ started.ready
    ⟨rfl, asks⟩ started.started

/-- The resolution that the rows ask for. -/
theorem resolve_meets {reviewer : ReviewerSnapshot} {decision : ReviewDecision}
    {evidenceHash payoutTransactionHash : Hex} (decided : db.order.decision = some decision)
    (asks : db.order.Asks d.library .resolution (.humanResolve db.order.purchase.jobId
      reviewer.payoutAddress (decision = .approve) db.order.purchase.reward evidenceHash
      payoutTransactionHash)) (db' : Database) (started : Started d db .resolution db') :
    Meets circle d (fun s => s.db = db')
      (Processor.resolve db.order reviewer evidenceHash payoutTransactionHash
        (Processor.recordCircleTransaction .resolution))
      (fun transaction => Answered circle db' .resolution transaction)
      (fun _ s => db'.Beside .resolution s.db) := by
  rw [← started.order] at asks decided ⊢
  unfold Processor.resolve
  rw [decided]
  exact execute_meets ⟨.resolution, _, .humanResolve _ _ _ _ _ _⟩ started.ready
    ⟨rfl, asks⟩ started.started

end Operations

end VapiArc.Review
