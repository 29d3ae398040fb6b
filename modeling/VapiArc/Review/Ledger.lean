import VapiArc.Review.Service

/-!
# Keys, attempts, requests and transactions

What the attempts of an order say about Circle is true, every key but the current one
of an operation belongs to a failed transaction, and nothing was requested that the
journal does not know of.
-/
namespace VapiArc.Review

open Checked Function Async Transition

/-- The part of a store that the operations with Circle are about. -/
structure Book where
  key : CircleOperation → IdempotencyKey
  id : CircleOperation → Option TransactionId
  attempts : List CircleAttempt
  journal : List JournalEntry
  circle : IdempotencyKey → Option CircleTransaction
  requested : List CircleRequest
  resumes : CircleOperation → Nat

def Database.circleId (db : Database) (operation : CircleOperation) : Option TransactionId :=
  (db.order.circle operation).id

def Store.book (s : Store) : Book where
  key := s.db.circleIdempotencyKey
  id := s.db.circleId
  attempts := s.db.attempts
  journal := s.db.journal
  circle := s.circle
  requested := s.requested
  resumes := s.resumes

namespace Book

variable (b : Book) (operation : CircleOperation)

def attemptsOf : List CircleAttempt := b.attempts.filter (·.operation = operation)

/-- The number of attempts of an operation, the one that is still to be recorded included. -/
def opened : Nat := (b.attemptsOf operation).length + if b.id operation = none then 1 else 0

/-- The operation may have its key replaced by an operator. -/
def exhausted (maxAttempts : Nat) : Bool :=
  Database.exhausted (b.attemptsOf operation) maxAttempts (b.key operation)

/-- Circle has a transaction for the key, and it is in this state if the state is final. -/
def Shows (key : IdempotencyKey) (state : TransactionState) : Prop :=
  ∃ transaction, b.circle key = some transaction ∧
    (state.final = true → transaction.state = state)

end Book

/-- Circle's transactions are added and go on, but the final ones stay as they are. -/
def CircleGrows (before after : IdempotencyKey → Option CircleTransaction) : Prop :=
  ∀ key transaction, before key = some transaction → ∃ transaction',
    after key = some transaction' ∧ transaction'.request = transaction.request ∧
      (transaction.state.final = true → transaction'.state = transaction.state)

namespace CircleGrows

variable {a b c : IdempotencyKey → Option CircleTransaction}

theorem refl (a : IdempotencyKey → Option CircleTransaction) : CircleGrows a a :=
  fun _ transaction here => ⟨transaction, here, rfl, fun _ => rfl⟩

theorem trans (first : CircleGrows a b) (second : CircleGrows b c) : CircleGrows a c := by
  intro key transaction here
  obtain ⟨transaction', there, same, kept⟩ := first key transaction here
  obtain ⟨transaction'', there', same', kept'⟩ := second key transaction' there
  refine ⟨transaction'', there', same'.trans same, fun final => ?_⟩
  have still := kept final
  have final' : transaction'.state.final = true := by rw [still]; exact final
  exact (kept' final').trans still

end CircleGrows

theorem TransactionState.final_of_terminalFailure {state : TransactionState}
    (failed : state.terminalFailure = true) : state.final = true := by
  cases state <;> first | rfl | cases failed

theorem Book.Shows.grow {b b' : Book} {key : IdempotencyKey} {state : TransactionState}
    (shows : b.Shows key state) (grows : CircleGrows b.circle b'.circle) : b'.Shows key state := by
  obtain ⟨transaction, here, kept⟩ := shows
  obtain ⟨transaction', there, -, kept'⟩ := grows key transaction here
  refine ⟨transaction', there, fun final => ?_⟩
  have same := kept final
  rw [← same] at final ⊢
  exact kept' final

structure Ledger (circle : Circle) (maxAttempts : Nat) (b : Book) : Prop where
  identified : ∀ a ∈ b.attempts, a.circleTransactionId = circle.transactionId a.idempotencyKey
  distinct : (b.attempts.map (·.idempotencyKey)).Nodup
  truthful : ∀ a ∈ b.attempts, b.Shows a.idempotencyKey a.state
  retired : ∀ a ∈ b.attempts, a.idempotencyKey ≠ b.key a.operation →
    a.state.terminalFailure = true
  owned : ∀ a ∈ b.attempts, ∀ operation, a.idempotencyKey = b.key operation →
    a.operation = operation
  apart : Injective b.key
  linked : ∀ operation id, b.id operation = some id → ∃ a ∈ b.attempts,
    a.operation = operation ∧ a.idempotencyKey = b.key operation ∧ a.circleTransactionId = id
  unlinked : ∀ operation, b.id operation = none → ∀ a ∈ b.attempts,
    a.idempotencyKey ≠ b.key operation
  requested : ∀ r ∈ b.requested, r.idempotencyKey = b.key r.operation ∨
    ∃ a ∈ b.attempts, a.operation = r.operation ∧ a.idempotencyKey = r.idempotencyKey
  journaled : ∀ r ∈ b.requested, ⟨r.operation, r.idempotencyKey⟩ ∈ b.journal
  created : ∀ key transaction, b.circle key = some transaction →
    transaction.request ∈ b.requested ∧ transaction.request.idempotencyKey = key
  budget : ∀ operation, b.opened operation ≤ maxAttempts + b.resumes operation
  resumed : ∀ operation, 0 < b.resumes operation →
    b.opened operation = maxAttempts + b.resumes operation

theorem Opening.ledger (circle : Circle) {maxAttempts : Nat} (positive : 0 < maxAttempts)
    (opening : Opening) : Ledger circle maxAttempts opening.store.book := by
  constructor
  case apart => exact opening.distinct
  case budget =>
    intro operation
    change 0 + 1 ≤ maxAttempts + 0
    omega
  all_goals simp [Opening.store, Store.book, Database.created, Database.circleId]

section Record

variable {key : IdempotencyKey} {operation : CircleOperation} {transaction : CircleTransactionResult}
  {attempts attempts' : List CircleAttempt}

/-- An attempt that a transaction has been recorded in. -/
def CircleAttempt.Reports (a : CircleAttempt) (key : IdempotencyKey) (operation : CircleOperation)
    (transaction : CircleTransactionResult) : Prop :=
  a.idempotencyKey = key ∧ a.operation = operation ∧ a.circleTransactionId = transaction.id ∧
    a.state = transaction.state

/-- What recording a transaction under the current key of an operation does. -/
structure Records (key : IdempotencyKey) (operation : CircleOperation)
    (transaction : CircleTransactionResult) (attempts attempts' : List CircleAttempt) : Prop where
  members : ∀ a ∈ attempts', (a ∈ attempts ∧ a.idempotencyKey ≠ key) ∨
    a.Reports key operation transaction
  others : ∀ a ∈ attempts, a.idempotencyKey ≠ key → a ∈ attempts'
  current : ∃ a ∈ attempts', a.Reports key operation transaction
  distinct : (attempts.map (·.idempotencyKey)).Nodup → (attempts'.map (·.idempotencyKey)).Nodup
  count : ∀ other, (attempts'.filter (·.operation = other)).length =
    (attempts.filter (·.operation = other)).length +
      if other = operation ∧ ∀ a ∈ attempts, a.idempotencyKey ≠ key then 1 else 0

/-- The attempt exists: it is updated in its place. -/
theorem Records.updated {existing : CircleAttempt} (inside : existing ∈ attempts)
    (keyed : existing.idempotencyKey = key) (same : existing.circleTransactionId = transaction.id)
    (distinct : (attempts.map (·.idempotencyKey)).Nodup)
    (owned : ∀ a ∈ attempts, a.idempotencyKey = key → a.operation = operation) :
    Records key operation transaction attempts (attempts.map fun a =>
      if a.idempotencyKey = key then
        { a with
          state := transaction.state
          txHash := coalesce transaction.txHash a.txHash }
      else a) := by
  have unique : ∀ a ∈ attempts, a.idempotencyKey = key → a = existing := fun a member here =>
    List.inj_on_of_nodup_map distinct member inside (here.trans keyed.symm)
  constructor
  · intro a' member
    obtain ⟨a, old, rfl⟩ := List.mem_map.mp member
    by_cases here : a.idempotencyKey = key
    · rw [if_pos here]
      right
      refine ⟨here, owned a old here, ?_, rfl⟩
      rw [← same, unique a old here]
    · rw [if_neg here]
      exact .inl ⟨old, here⟩
  · intro a old apart
    exact List.mem_map.mpr ⟨a, old, if_neg apart⟩
  · refine ⟨_, List.mem_map.mpr ⟨existing, inside, rfl⟩, ?_⟩
    rw [if_pos keyed]
    exact ⟨keyed, owned existing inside keyed, same, rfl⟩
  · intro _
    rw [List.map_map]
    convert distinct using 2
    funext a
    simp only [comp_apply]
    split <;> rfl
  · intro other
    have known : ¬ (other = operation ∧ ∀ a ∈ attempts, a.idempotencyKey ≠ key) :=
      fun absent => absent.2 existing inside keyed
    rw [if_neg known, List.filter_map, List.length_map, Nat.add_zero]
    congr 2
    funext a
    simp only [comp_apply]
    split <;> rfl

theorem Records.inserted (absent : ∀ a ∈ attempts, a.idempotencyKey ≠ key) :
    Records key operation transaction attempts (attempts ++ [{
      operation, idempotencyKey := key, circleTransactionId := transaction.id,
      state := transaction.state, txHash := transaction.txHash }]) := by
  constructor
  · intro a member
    rcases List.mem_append.mp member with old | new
    · exact .inl ⟨old, absent a old⟩
    · rw [List.mem_singleton.mp new]
      exact .inr ⟨rfl, rfl, rfl, rfl⟩
  · intro a old _
    exact List.mem_append_left _ old
  · exact ⟨_, List.mem_append_right _ (List.mem_singleton.mpr rfl), rfl, rfl, rfl, rfl⟩
  · intro distinct
    rw [List.map_append, List.map_singleton, List.nodup_append]
    refine ⟨distinct, List.nodup_singleton _, ?_⟩
    intro k old k' new
    obtain ⟨a, member, rfl⟩ := List.mem_map.mp old
    rw [List.mem_singleton.mp new]
    exact absent a member
  · intro other
    rw [List.filter_append, List.length_append]
    by_cases same : operation = other
    · subst same
      rw [if_pos ⟨rfl, absent⟩]
      simp
    · simp [same, Ne.symm same]

theorem recordCircleTransactionUnsafe_ok {db db' : Database}
    (distinct : (db.attempts.map (·.idempotencyKey)).Nodup)
    (owned : ∀ a ∈ db.attempts, a.idempotencyKey = db.circleIdempotencyKey operation → a.operation = operation)
    (done : db.recordCircleTransactionUnsafe operation transaction = .ok db') :
    ∃ attempts', Records (db.circleIdempotencyKey operation) operation transaction db.attempts attempts' ∧
      db' = { db with attempts := attempts' }.setColumns operation
        { db.order.circle operation with
          id := some transaction.id
          hash := coalesce transaction.txHash (db.order.circle operation).hash } := by
  simp only [Database.recordCircleTransactionUnsafe, bind_ok, pure_ok] at done
  obtain ⟨attempts', recorded, rfl⟩ := done
  refine ⟨attempts', ?_, rfl⟩
  simp only [Database.recordedAttempts] at recorded
  split at recorded
  next existing found =>
    simp only [bind_ok, revertIf_ok, exists_const, ne_eq, not_not, pure_ok] at recorded
    obtain ⟨same, rfl⟩ := recorded
    have keyed : existing.idempotencyKey = db.circleIdempotencyKey operation := by
      simpa using List.find?_some found
    exact .updated (List.mem_of_find?_eq_some found) keyed same distinct owned
  next missing =>
    simp only [bind_ok, revertIf_ok, exists_const, pure_ok] at recorded
    obtain ⟨-, rfl⟩ := recorded
    have absent : ∀ a ∈ db.attempts, a.idempotencyKey ≠ db.circleIdempotencyKey operation := by
      simpa using missing
    exact .inserted absent

end Record

namespace Ledger

variable {circle : Circle} {maxAttempts : Nat} {b : Book}
  (ledger : Ledger circle maxAttempts b)
include ledger

/-- Circle goes on with what was requested. -/
theorem grown {circle' : IdempotencyKey → Option CircleTransaction}
    (grows : CircleGrows b.circle circle')
    (created : ∀ key transaction, circle' key = some transaction →
      transaction.request ∈ b.requested ∧ transaction.request.idempotencyKey = key) :
    Ledger circle maxAttempts { b with circle := circle' } :=
  { ledger with
    truthful := fun a member => (ledger.truthful a member).grow grows
    created }

/-- A request under the current key of its operation, which the journal knows of. -/
theorem asked {request : CircleRequest} (current : request.idempotencyKey = b.key request.operation)
    (known : ⟨request.operation, request.idempotencyKey⟩ ∈ b.journal) :
    Ledger circle maxAttempts { b with requested := request :: b.requested } := by
  refine { ledger with requested := ?_, journaled := ?_, created := ?_ }
  · intro r member
    rcases List.mem_cons.mp member with rfl | old
    · exact .inl current
    · exact ledger.requested r old
  · intro r member
    rcases List.mem_cons.mp member with rfl | old
    · exact known
    · exact ledger.journaled r old
  · intro key transaction here
    obtain ⟨old, keyed⟩ := ledger.created key transaction here
    exact ⟨List.mem_cons_of_mem _ old, keyed⟩

theorem marked (entry : JournalEntry) :
    Ledger circle maxAttempts { b with journal := entry :: b.journal } :=
  { ledger with journaled := fun r member => List.mem_cons_of_mem _ (ledger.journaled r member) }

theorem recorded {operation : CircleOperation} {transaction : CircleTransactionResult}
    {attempts : List CircleAttempt}
    (records : Records (b.key operation) operation transaction b.attempts attempts)
    (identified : transaction.id = circle.transactionId (b.key operation))
    (shows : b.Shows (b.key operation) transaction.state) :
    Ledger circle maxAttempts
      { b with attempts, id := update b.id operation (some transaction.id) } := by
  -- an attempt that is on record already is not counted again
  have opened (other : CircleOperation) :
      Book.opened { b with attempts, id := update b.id operation (some transaction.id) } other =
        b.opened other := by
    have count := records.count other
    simp only [Book.opened, Book.attemptsOf, count]
    by_cases same : other = operation
    · subst same
      -- no attempt has the key yet: this one opens
      cases linked : b.id other with
      | none =>
        have absent := ledger.unlinked other linked
        rw [if_pos ⟨rfl, absent⟩]
        simp
      -- the key's attempt is there, and is only updated
      | some id =>
        obtain ⟨a, member, -, keyed, -⟩ := ledger.linked other id linked
        have known : ¬ ∀ a ∈ b.attempts, a.idempotencyKey ≠ b.key other :=
          fun absent => absent a member keyed
        simp only [true_and, if_neg known]
        simp
    · simp [same]
  constructor
  case apart => exact ledger.apart
  case journaled => exact ledger.journaled
  case created => exact ledger.created
  case budget => exact fun other => (opened other).trans_le (ledger.budget other)
  case resumed => exact fun other more => (opened other).trans (ledger.resumed other more)
  case distinct => exact records.distinct ledger.distinct
  case identified =>
    intro a member
    rcases records.members a member with ⟨old, -⟩ | ⟨keyed, -, same, -⟩
    · exact ledger.identified a old
    · rw [same, keyed, identified]
  case truthful =>
    intro a member
    rcases records.members a member with ⟨old, -⟩ | ⟨keyed, -, -, same⟩
    · exact ledger.truthful a old
    · rw [keyed, same]
      exact shows
  case retired =>
    intro a member other
    rcases records.members a member with ⟨old, -⟩ | ⟨keyed, same, -, -⟩
    · exact ledger.retired a old other
    · rw [same] at other
      exact absurd keyed other
  case owned =>
    intro a member other keyed
    rcases records.members a member with ⟨old, -⟩ | ⟨keyed', same, -, -⟩
    · exact ledger.owned a old other keyed
    · exact same.trans (ledger.apart (keyed'.symm.trans keyed))
  case linked =>
    -- the operation itself has its attempt on record now; another one keeps the attempt that it had
    intro other id linked
    dsimp only at linked
    by_cases same : other = operation
    · subst same
      obtain ⟨a, member, keyed, owned, identical, -⟩ := records.current
      rw [update_self] at linked
      cases linked
      exact ⟨a, member, owned, keyed, identical⟩
    · rw [update_of_ne same] at linked
      obtain ⟨a, member, owned, keyed, identical⟩ := ledger.linked other id linked
      refine ⟨a, records.others a member ?_, owned, keyed, identical⟩
      rw [keyed]
      exact fun alike => same (ledger.apart alike)
  case unlinked =>
    intro other none a member keyed
    dsimp only at none
    by_cases same : other = operation
    · subst same
      rw [update_self] at none
      cases none
    · rw [update_of_ne same] at none
      rcases records.members a member with ⟨old, -⟩ | ⟨keyed', -, -, -⟩
      · exact ledger.unlinked other none a old keyed
      · exact same (ledger.apart (keyed.symm.trans keyed'))
  -- the request whose attempt was replaced is the one of the current key
  case requested =>
    intro r member
    rcases ledger.requested r member with current | ⟨a, old, owned, keyed⟩
    · exact .inl current
    · by_cases current : a.idempotencyKey = b.key operation
      · left
        rw [← keyed, current, ← owned, ledger.owned a old operation current]
      · exact .inr ⟨a, records.others a old current, owned, keyed⟩

/-- The recorded transaction has failed for good, and the operation gets a fresh key. -/
theorem renewed {operation : CircleOperation} {a : CircleAttempt} {nextKey : IdempotencyKey}
    (resumes : CircleOperation → Nat) (member : a ∈ b.attempts) (owned : a.operation = operation)
    (current : a.idempotencyKey = b.key operation) (failed : a.state.terminalFailure = true)
    (unused : (∀ other, b.key other ≠ nextKey) ∧ ∀ a ∈ b.attempts, a.idempotencyKey ≠ nextKey)
    (budget : ∀ other, Book.opened { b with id := update b.id operation none } other ≤
      maxAttempts + resumes other)
    (resumed : ∀ other, 0 < resumes other →
      Book.opened { b with id := update b.id operation none } other = maxAttempts + resumes other) :
    Ledger circle maxAttempts
      { b with
        key := update b.key operation nextKey
        id := update b.id operation none
        resumes } := by
  constructor
  case identified => exact ledger.identified
  case distinct => exact ledger.distinct
  case truthful => exact ledger.truthful
  case journaled => exact ledger.journaled
  case created => exact ledger.created
  case budget => exact budget
  case resumed => exact resumed
  case apart =>
    intro first second same
    change update b.key operation nextKey first = update b.key operation nextKey second at same
    -- the new key is nobody else's
    by_cases here : first = operation <;> by_cases there : second = operation
    · rw [here, there]
    · rw [here, update_self, update_of_ne there] at same
      exact absurd same.symm (unused.1 second)
    · rw [there, update_self, update_of_ne here] at same
      exact absurd same (unused.1 first)
    · rw [update_of_ne here, update_of_ne there] at same
      exact ledger.apart same
  case retired =>
    intro a' member' other
    dsimp only at other
    -- the attempt that is given up is the failed one
    by_cases same : a'.operation = operation
    · by_cases keyed : a'.idempotencyKey = b.key operation
      · have alike := List.inj_on_of_nodup_map ledger.distinct member' member
          (keyed.trans current.symm)
        rw [alike]
        exact failed
      · exact ledger.retired a' member' (by rw [same]; exact keyed)
    · refine ledger.retired a' member' ?_
      rwa [update_of_ne same] at other
  case owned =>
    intro a' member' other keyed
    dsimp only at keyed
    by_cases same : other = operation
    · rw [same, update_self] at keyed
      exact absurd keyed (unused.2 a' member')
    · rw [update_of_ne same] at keyed
      exact ledger.owned a' member' other keyed
  case linked =>
    intro other id linked
    dsimp only at linked ⊢
    by_cases same : other = operation
    · rw [same, update_self] at linked
      cases linked
    · rw [update_of_ne same] at linked ⊢
      exact ledger.linked other id linked
  case unlinked =>
    intro other none a' member'
    dsimp only at none ⊢
    by_cases same : other = operation
    · rw [same, update_self]
      exact unused.2 a' member'
    · rw [update_of_ne same] at none ⊢
      exact ledger.unlinked other none a' member'
  -- what was requested under the old key has its attempt on record
  case requested =>
    intro r member'
    dsimp only
    rcases ledger.requested r member' with keyed | old
    · by_cases same : r.operation = operation
      · refine .inr ⟨a, member, owned.trans same.symm, ?_⟩
        rw [current, keyed, same]
      · left
        rw [update_of_ne same]
        exact keyed
    · exact .inr old

end Ledger

section Transactions

variable {circle : Circle} {maxAttempts : Nat} {s : Store} {operation : CircleOperation}
  {transaction : CircleTransactionResult} {db' : Database}

@[simp] theorem circleIdempotencyKey_setColumns (operation : CircleOperation) (db : Database)
    (columns : CircleColumns) :
    (db.setColumns operation columns).circleIdempotencyKey =
      update db.circleIdempotencyKey operation columns.key := by
  funext other
  by_cases same : other = operation
  · subst same
    simp [Database.circleIdempotencyKey, Database.setColumns]
  · simp [Database.circleIdempotencyKey, Database.setColumns, same]

@[simp] theorem circleId_setColumns (operation : CircleOperation) (db : Database)
    (columns : CircleColumns) :
    (db.setColumns operation columns).circleId = update db.circleId operation columns.id := by
  funext other
  by_cases same : other = operation
  · subst same
    simp [Database.circleId, Database.setColumns]
  · simp [Database.circleId, Database.setColumns, same]

/-- Circle's answer about the transaction of the current key of an operation. -/
def Book.Reports (b : Book) (circle : Circle) (operation : CircleOperation)
    (transaction : CircleTransactionResult) : Prop :=
  transaction.id = circle.transactionId (b.key operation) ∧
    b.Shows (b.key operation) transaction.state

/-- Nothing has changed but the records of the operation with Circle. -/
def Database.Beside (db : Database) (operation : CircleOperation) (db' : Database) : Prop :=
  ∃ columns attempts journal, db' = { db with attempts, journal }.setColumns operation columns

theorem Database.Beside.journal (db : Database) (operation : CircleOperation)
    (journal : List JournalEntry) : db.Beside operation { db with journal } := by
  refine ⟨db.order.circle operation, db.attempts, journal, ?_⟩
  simp [Database.setColumns]

theorem Database.Beside.refl (db : Database) (operation : CircleOperation) :
    db.Beside operation db := .journal db operation db.journal

theorem Database.Beside.trans {a b c : Database} (first : a.Beside operation b)
    (second : b.Beside operation c) : a.Beside operation c := by
  obtain ⟨_, _, _, rfl⟩ := first
  obtain ⟨columns, attempts, journal, rfl⟩ := second
  refine ⟨columns, attempts, journal, ?_⟩
  simp [Database.setColumns]

theorem Database.Beside.setColumns {db db' : Database} {columns : CircleColumns}
    (beside : db.Beside operation db') : db.Beside operation (db'.setColumns operation columns) :=
  beside.trans ⟨columns, db'.attempts, db'.journal, rfl⟩

theorem Records.used {attempts : List CircleAttempt} {nextKey : IdempotencyKey} {a : CircleAttempt}
    (records : Records (s.db.circleIdempotencyKey operation) operation transaction s.db.attempts
      attempts) (member : a ∈ attempts) (same : a.idempotencyKey = nextKey) : s.Used nextKey := by
  rcases records.members a member with ⟨old, -⟩ | ⟨keyed, -⟩
  · exact .inr (.inl ⟨a, old, same⟩)
  · exact .inl ⟨operation, keyed.symm.trans same⟩

theorem Book.opened_cleared (b : Book) (operation other : CircleOperation) :
    Book.opened { b with id := update b.id operation none } other =
      if other = operation then (b.attemptsOf operation).length + 1 else b.opened other := by
  by_cases same : other = operation
  · subst same
    simp [Book.opened, Book.attemptsOf]
  · simp [Book.opened, Book.attemptsOf, same]

theorem Ledger.record (ledger : Ledger circle maxAttempts s.book)
    (reports : s.book.Reports circle operation transaction)
    (done : s.db.recordCircleTransactionUnsafe operation transaction = .ok db') :
    Ledger circle maxAttempts { s with db := db' }.book ∧ s.db.Beside operation db' ∧
      db'.journal = s.db.journal ∧ db'.circleIdempotencyKey = s.db.circleIdempotencyKey ∧
      db'.circleId operation = some transaction.id ∧
      Records (s.db.circleIdempotencyKey operation) operation transaction s.db.attempts
        db'.attempts := by
  obtain ⟨attempts, records, rfl⟩ := recordCircleTransactionUnsafe_ok ledger.distinct
    (fun a member keyed => ledger.owned a member operation keyed) done
  have key : ({ s.db with attempts }.setColumns operation
      { s.db.order.circle operation with
        id := some transaction.id
        hash := coalesce transaction.txHash (s.db.order.circle operation).hash
        }).circleIdempotencyKey = s.db.circleIdempotencyKey := by
    rw [circleIdempotencyKey_setColumns]
    exact update_eq_self operation s.db.circleIdempotencyKey
  refine ⟨?_, ⟨_, _, _, rfl⟩, rfl, key, ?_, records⟩
  · have recorded := ledger.recorded records reports.1 reports.2
    simp only [Store.book, key, circleId_setColumns]
    exact recorded
  · rw [circleId_setColumns, update_self]

theorem Ledger.rotate {nextKey : IdempotencyKey} {rotation : Database.Rotation}
    (ledger : Ledger circle maxAttempts s.book)
    (reports : s.book.Reports circle operation transaction)
    (failed : transaction.state.terminalFailure = true) (unused : ¬ s.Used nextKey)
    (done : s.db.rotateCircleAttempt operation transaction maxAttempts nextKey =
      .ok (rotation, db')) :
    Ledger circle maxAttempts { s with db := db' }.book ∧ s.db.Beside operation db' ∧
      db'.journal = s.db.journal ∧
      (db'.circleIdempotencyKey = s.db.circleIdempotencyKey ∨
        db'.circleIdempotencyKey = update s.db.circleIdempotencyKey operation nextKey) ∧
      ∃ a ∈ db'.attempts, a.Reports (s.db.circleIdempotencyKey operation) operation transaction := by
  simp only [Database.rotateCircleAttempt, bind_ok] at done
  obtain ⟨db, recorded, done⟩ := done
  -- the failed attempt is put on record first, then its successor takes the new key
  obtain ⟨ledger', beside, journal, key, id, records⟩ := ledger.record reports recorded
  split at done
  next =>
    cases done
    exact ⟨ledger', beside, journal, .inl key, records.current⟩
  next few =>
    simp only [bind_ok, revertIf_ok, exists_const, pure_ok, Prod.mk.injEq] at done
    obtain ⟨-, -, rfl⟩ := done
    obtain ⟨a, member, keyed, owned, identical, state⟩ := records.current
    have unused' : (∀ other, db.circleIdempotencyKey other ≠ nextKey) ∧
        ∀ a ∈ db.attempts, a.idempotencyKey ≠ nextKey := by
      rw [key]
      exact ⟨fun other same => unused (.inl ⟨other, same⟩), fun a member same =>
        unused (records.used member same)⟩
    -- the counter of the operation alone starts anew
    have cleared (other : CircleOperation) := Book.opened_cleared { s with db }.book operation other
    have current : Book.opened { s with db }.book operation =
        (db.listCircleAttempts operation).length := by
      simp [Book.opened, Store.book, id, Book.attemptsOf, Database.listCircleAttempts]
    have renewed := ledger'.renewed s.resumes member owned
      (keyed.trans (congrFun key operation).symm) (by rw [state]; exact failed) unused' ?_ ?_
    · refine ⟨?_, beside.setColumns, journal, .inr ?_, a, member, keyed, owned, identical, state⟩
      · simp only [Store.book, circleIdempotencyKey_setColumns, circleId_setColumns]
        exact renewed
      · rw [circleIdempotencyKey_setColumns, key]
    · intro other
      rw [cleared]
      by_cases same : other = operation
      · subst same
        rw [if_pos rfl]
        change (db.listCircleAttempts other).length + 1 ≤ _
        omega
      · rw [if_neg same]
        exact ledger'.budget other
    · intro other more
      rw [cleared]
      by_cases same : other = operation
      · subst same
        have exact := ledger'.resumed other more
        rw [current] at exact
        omega
      · rw [if_neg same]
        exact ledger'.resumed other more

/-- The last permitted attempt of an operation has failed for good. -/
theorem Book.exhausted_iff {b : Book} : b.exhausted operation maxAttempts = true ↔
    ∃ latest, (b.attemptsOf operation).getLast? = some latest ∧
      maxAttempts ≤ (b.attemptsOf operation).length ∧ latest.state.terminalFailure = true ∧
      latest.idempotencyKey = b.key operation := by
  simp only [Book.exhausted, Database.exhausted]
  cases (b.attemptsOf operation).getLast? with
  | none => simp
  | some latest => simp [and_assoc]

theorem Book.attempt_of_last {b : Book} {latest : CircleAttempt}
    (last : (b.attemptsOf operation).getLast? = some latest) :
    latest ∈ b.attempts ∧ latest.operation = operation := by
  have member := List.mem_of_getLast? last
  simpa [Book.attemptsOf] using member

/-- What an accepted resumption found and what it leaves. -/
theorem Ledger.resume {nextKey : IdempotencyKey} (ledger : Ledger circle maxAttempts s.book)
    (unused : ¬ s.Used nextKey)
    (done : s.db.resumeCircleOperation operation maxAttempts nextKey = .ok ((), db')) :
    let s' : Store :=
      { s with db := db', resumes := update s.resumes operation (s.resumes operation + 1) }
    Ledger circle maxAttempts s'.book ∧
      s.db.order.state = Database.recoveryState operation ∧
      s.book.exhausted operation maxAttempts = true ∧
      s.book.opened operation = maxAttempts + s.resumes operation ∧
      s'.book.opened operation = s.book.opened operation + 1 ∧
      db' = { s.db with order := { s.db.order with
        circle := update s.db.order.circle operation { key := nextKey }, lastError := none } } := by
  simp only [Database.resumeCircleOperation, bind_ok, revertIf_ok, exists_const, ne_eq, not_not,
    pure_ok, Prod.mk.injEq, true_and, not_lt, Bool.not_eq_false] at done
  obtain ⟨positive, state, exhausted, rfl⟩ := done
  have exhausted : s.book.exhausted operation maxAttempts = true := exhausted
  obtain ⟨latest, last, many, failed, keyed⟩ := Book.exhausted_iff.mp exhausted
  obtain ⟨member, owned⟩ := Book.attempt_of_last last
  have linked : s.book.id operation ≠ none := fun absent =>
    ledger.unlinked operation absent latest member keyed
  -- every attempt that was opened has been recorded, as the current key has its transaction
  have current : s.book.opened operation = (s.book.attemptsOf operation).length := by
    simp [Book.opened, linked]
  -- the budget is spent exactly, because an operation is only resumed once it is
  have all : s.book.opened operation = maxAttempts + s.resumes operation := by
    by_cases before : 0 < s.resumes operation
    · exact ledger.resumed operation before
    · have few := ledger.budget operation
      change _ ≤ maxAttempts + s.resumes operation at few
      omega
  have cleared (other : CircleOperation) := Book.opened_cleared s.book operation other
  have book : Store.book { s with
      db := { s.db.setColumns operation { key := nextKey } with
        order := { (s.db.setColumns operation { key := nextKey }).order with lastError := none } }
      resumes := update s.resumes operation (s.resumes operation + 1) } =
      { s.book with
        key := update s.book.key operation nextKey
        id := update s.book.id operation none
        resumes := update s.resumes operation (s.resumes operation + 1) } := by
    have key := circleIdempotencyKey_setColumns operation s.db { key := nextKey }
    have id := circleId_setColumns operation s.db { key := nextKey }
    simp only [Store.book]
    congr 1
  have renewed := ledger.renewed
    (update s.resumes operation (s.resumes operation + 1)) member owned keyed failed
    ⟨fun other same => unused (.inl ⟨other, same⟩), fun a inside same =>
      unused (.inr (.inl ⟨a, inside, same⟩))⟩ ?_ ?_
  · refine ⟨?_, state, exhausted, all, ?_, rfl⟩
    · rw [book]
      exact renewed
    · rw [book]
      change Book.opened { s.book with id := update s.book.id operation none } operation = _
      rw [cleared, if_pos rfl, current]
  · intro other
    rw [cleared]
    by_cases same : other = operation
    · subst same
      rw [if_pos rfl, update_self]
      omega
    · rw [if_neg same, update_of_ne same]
      exact ledger.budget other
  · intro other more
    rw [cleared]
    by_cases same : other = operation
    · subst same
      rw [if_pos rfl, update_self]
      omega
    · rw [if_neg same, update_of_ne same]
      rw [update_of_ne same] at more
      exact ledger.resumed other more

end Transactions

end VapiArc.Review
