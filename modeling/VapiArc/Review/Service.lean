import VapiArc.Review.Processor

/-!
# The service around one order

One process works on an order at a time: a second `processOrder` returns at once while
the first one is under way. Telegram callbacks and operators write the same rows
between its awaits, and Circle works on what it was asked for at any time. Circle keeps
one transaction for each idempotency key, and the final states of a transaction do not
change.
-/
namespace VapiArc.Review

open Checked Function Async Transition

def TransactionState.final : TransactionState → Bool
  | .complete | .failed | .denied | .cancelled => true
  | _ => false

/-- The identifiers that Circle gives to the transactions of the keys. -/
structure Circle where
  transactionId : IdempotencyKey → TransactionId
  injective : Injective transactionId

/-- What happens outside of the processor. -/
inductive Outside where
  | claim (reviewerId : ReviewerId) (reviewer : Option Reviewer) (identityHash : Nat → Hex)
      (now : Timestamp)
  | verdict (reviewerId : ReviewerId) (decision : ReviewDecision) (reasoning : String)
      (now : Timestamp)
  | resume (operation : CircleOperation) (randomUUID : IdempotencyKey)
  /-- Circle receives a request, perhaps once more. -/
  | creates (request : CircleRequest)
  | progresses (key : IdempotencyKey) (state : TransactionState)

inductive Cause where
  | sweep
  | wake
  | webhook (transactionId : TransactionId)
  deriving DecidableEq, Repr

namespace Store

variable (s : Store)

/-- The key is one that the service has generated before. -/
def Used (key : IdempotencyKey) : Prop :=
  (∃ operation, (s.db.order.circle operation).key = key) ∨
    (∃ attempt ∈ s.db.attempts, attempt.idempotencyKey = key) ∨
    (∃ entry ∈ s.db.journal, entry.idempotencyKey = key) ∨
    ∃ request ∈ s.requested, request.idempotencyKey = key

/-- The rest of an outside event whose transaction may be refused. -/
def committed {α : Type} (result : Except Failure (α × Database)) : Store :=
  match result with
  | .ok (_, db) => { s with db }
  | .error _ => s

def issue : Request → Store
  | .createTransaction request => { s with requested := request :: s.requested }
  | _ => s

def receive (request : CircleRequest) : Store :=
  match s.circle request.idempotencyKey with
  | none => { s with
      circle := update s.circle request.idempotencyKey (some { request, state := .initiated }) }
  | some _ => s

def progress (key : IdempotencyKey) (state : TransactionState) : Store :=
  match s.circle key with
  | some transaction =>
    if transaction.state.final then s
    else { s with circle := update s.circle key (some { transaction with state }) }
  | none => s

end Store

/-- What a reply says about Circle was true, and still is if it is final. -/
def answers (circle : Circle) (request : Request) (s : Store) : Except Failure Reply → Prop
  | .error _ => True
  | .ok reply =>
    match request, reply with
    | .createTransaction request, .created id =>
      (s.circle request.idempotencyKey).isSome ∧ id = circle.transactionId request.idempotencyKey
    | .waitForComplete id, .transaction state _ | .getTransaction id, .transaction state _ =>
      ∃ key transaction, id = circle.transactionId key ∧ s.circle key = some transaction ∧
        (state.final = true → transaction.state = state)
    | .validateEscalatedReview _, .accepted => True
    | .preflightHumanResolve _ _, .accepted => True
    | .sendDocument _, .accepted => True
    | .sendMessage _, .accepted => True
    | _, _ => False

section Service

variable (circle : Circle) (d : Dependencies)

/-- `processAll` for this order. -/
def Processor.processAll : Processor Unit := do
  let listed ← read fun _ db => (db.order.state ≠ .settled ∧ db.order.state ≠ .refunded : Bool)
  Processor.skipIf (!listed) (processOrder d)

/-- `reconcileCircleNotification` -/
def Processor.reconcileCircleNotification (id : TransactionId) : Processor Unit := do
  let found ← read fun _ db => ((db.order.circle .payout).id = some id ∨
    (db.order.circle .resolution).id = some id ∨ (db.order.circle .refund).id = some id : Bool)
  Processor.skipIf (!found) (processOrder d)

def outside (s : Store) : Outside → Store
  | .claim reviewerId reviewer identityHash now => s.committed
      (s.db.claimOrder reviewerId reviewer identityHash d.config.reviewSlaSeconds
        d.config.circleWalletAddress.toList now)
  | .verdict reviewerId decision reasoning now => s.committed
      (s.db.submitVerdict reviewerId decision reasoning d.config.reviewSlaSeconds now)
  | .resume operation randomUUID =>
    match s.db.resumeCircleOperation operation d.config.circleMaxAttempts randomUUID with
    | .ok (_, db) => { s with db, resumes := update s.resumes operation (s.resumes operation + 1) }
    | .error _ => s
  | .creates request => s.receive request
  | .progresses key state => s.progress key state

def host : Host Store Inputs Request Reply Failure Outside Cause where
  inputs s inputs := ¬ s.Used inputs.randomUUID
  issue request s := s.issue request
  answers := answers circle
  spawn
    | .sweep => (Processor.processAll d).start
    | .wake => (Processor.processOrder d).start
    | .webhook id => (Processor.reconcileCircleNotification d id).start
  outside := outside d
  permits s
    | .resume _ randomUUID => ¬ s.Used randomUUID
    | .creates request => request ∈ s.requested
    | _ => True
  remote
    | .creates _ | .progresses _ _ => True
    | _ => False

abbrev ServiceState := State Store Inputs Request Reply Failure
abbrev ServiceEvent := Event Inputs Reply Failure Outside Cause

/-- The store that `createOrder` leaves, with three different random keys. -/
structure Opening where
  purchase : Purchase
  keys : CircleOperation → IdempotencyKey
  distinct : Injective keys

def Opening.store (opening : Opening) : Store :=
  { db := .created opening.purchase opening.keys }

abbrev ServiceRun (opening : Opening) (history : List (ServiceState × ServiceEvent))
    (v : ServiceState) : Prop :=
  Run (host circle d).system ⟨opening.store, .idle⟩ history v

end Service

/-! ### An installation

A concrete order, a service that works on it, and a check of what the service admits that can be
evaluated.
-/

namespace Walkthrough

def circle : Circle := ⟨id, injective_id⟩

def config : Config where
  reviewSlaSeconds := 86400
  maxDispatches := 2
  claimTtlSeconds := 3600
  circleMaxAttempts := 2
  transactionPollTimeoutMs := 60000
  circleWalletAddress := none
  circleMaxAttempts_pos := by decide
  maxDispatches_pos := by decide

def dependencies : Dependencies where
  config := config
  library := { keccak256 := fun _ => 77, addressText := fun address => toString address }
  chain := true
  circle := true

def opening : Opening where
  purchase := {
    id := 1
    jobId := 7
    payer := 20
    reviewPrice := 100
    network := "arc"
    gatewayTransaction := some "settlement"
    jobClient := 21
    jobProvider := 22
    jobExpiredAt := 1000000
    deliverableHash := 30
    deliverableContent := "report"
    escalationReasonHash := 31
    escalationCause := some "low confidence"
    reward := 60
    createdAt := 0 }
  keys
    | .payout => 1
    | .resolution => 2
    | .refund => 3
  distinct first second same := by
    cases first <;> cases second <;> first | rfl | cases same

def reviewer : Reviewer := ⟨5, 50, 51, "reviewer", 23, true⟩

/-- A step at some time; the key is the one that a rotation would take. -/
def advance (now : Timestamp) (randomUUID : IdempotencyKey) : ServiceEvent :=
  .advance { now, randomUUID, reviewers := [reviewer], telegram := true }

/-- The keys that the service has generated. -/
def used (s : Store) : List IdempotencyKey :=
  [.payout, .resolution, .refund].map s.db.circleIdempotencyKey ++
    s.db.attempts.map (·.idempotencyKey) ++ s.db.journal.map (·.idempotencyKey) ++
    s.requested.map (·.idempotencyKey)

theorem mem_used {s : Store} {key : IdempotencyKey} (used_ : s.Used key) : key ∈ used s := by
  rcases used_ with ⟨operation, rfl⟩ | ⟨a, member, rfl⟩ | ⟨entry, member, rfl⟩ | ⟨r, member, rfl⟩
  · cases operation <;> simp [used, Database.circleIdempotencyKey]
  · exact List.mem_append_left _ (List.mem_append_left _ (List.mem_append_right _
      (List.mem_map_of_mem member)))
  · exact List.mem_append_left _ (List.mem_append_right _ (List.mem_map_of_mem member))
  · exact List.mem_append_right _ (List.mem_map_of_mem member)

def answered (request : Request) (s : Store) : Except Failure Reply → Bool
  | .error _ => true
  | .ok reply =>
    match request, reply with
    | .createTransaction request, .created id =>
      (s.circle request.idempotencyKey).isSome && id = request.idempotencyKey
    | .waitForComplete id, .transaction state _ | .getTransaction id, .transaction state _ =>
      match s.circle id with
      | some transaction => !state.final || transaction.state = state
      | none => false
    | .validateEscalatedReview _, .accepted => true
    | .preflightHumanResolve _ _, .accepted => true
    | .sendDocument _, .accepted => true
    | .sendMessage _, .accepted => true
    | _, _ => false

theorem answers_of_answered {request : Request} {s : Store} {answer : Except Failure Reply}
    (given : answered request s answer = true) : answers circle request s answer := by
  cases answer with
  | error e => trivial
  | ok reply =>
    have known {id : TransactionId} {state : TransactionState}
        (given : (match s.circle id with
          | some transaction => !state.final || decide (transaction.state = state)
          | none => false) = true) :
        ∃ key transaction, id = circle.transactionId key ∧ s.circle key = some transaction ∧
          (state.final = true → transaction.state = state) := by
      split at given
      next transaction here =>
        refine ⟨id, transaction, rfl, here, fun final => ?_⟩
        simpa [final] using given
      next => cases given
    cases request <;> cases reply <;> first | trivial | cases given | skip
    · simpa [answers, answered, circle] using given
    · exact known given
    · exact known given

def idleOrWaiting (v : ServiceState) : Bool :=
  match v.activity with
  | .running _ => false
  | _ => true

theorem free_of_idleOrWaiting {v : ServiceState} (free : idleOrWaiting v = true)
    (program : Program Store Inputs Request Reply Failure) : v.activity ≠ .running program := by
  intro running
  simp [idleOrWaiting, running] at free

def admitted (v : ServiceState) : ServiceEvent → Bool
  | .start _ => idleOrWaiting v
  | .advance inputs => !(used v.store).contains inputs.randomUUID
  | .reply answer =>
    match v.activity with
    | .waiting message _ => answered message v.store answer
    | _ => false
  | .crash => true
  | .outside (.resume _ randomUUID) => !(used v.store).contains randomUUID && idleOrWaiting v
  | .outside (.creates request) => v.store.requested.contains request
  | .outside (.progresses _ _) => true
  | .outside _ => idleOrWaiting v

theorem admits_of_admitted {v : ServiceState} {event : ServiceEvent}
    (given : admitted v event = true) : (host circle dependencies).admits v event := by
  have unused {key : IdempotencyKey} (given : (!(used v.store).contains key) = true) :
      ¬ v.store.Used key := by
    intro used_
    simp [mem_used used_] at given
  cases event with
  | start => exact free_of_idleOrWaiting given
  | advance inputs => exact unused given
  | reply answer =>
    simp only [admitted] at given
    split at given
    next message rest waiting => exact ⟨message, rest, waiting, answers_of_answered given⟩
    next => cases given
  | crash => trivial
  | outside event =>
    cases event with
    | resume operation key =>
      simp only [admitted, Bool.and_eq_true] at given
      exact ⟨unused given.1, .inr (free_of_idleOrWaiting given.2)⟩
    | creates request => exact ⟨List.contains_iff_mem.mp given, .inl trivial⟩
    | progresses => exact ⟨trivial, .inl trivial⟩
    | claim => exact ⟨trivial, .inr (free_of_idleOrWaiting given)⟩
    | verdict => exact ⟨trivial, .inr (free_of_idleOrWaiting given)⟩

def start : ServiceState := ⟨opening.store, .idle⟩

def admittedAll (v : ServiceState) : List ServiceEvent → Bool
  | [] => true
  | event :: rest => admitted v event && admittedAll ((host circle dependencies).next v event) rest

theorem admitsAll_of_admittedAll {v : ServiceState} {events : List ServiceEvent}
    (given : admittedAll v events = true) :
    (host circle dependencies).system.AdmitsAll v events := by
  induction events generalizing v with
  | nil => trivial
  | cons event rest ih =>
    simp only [admittedAll, Bool.and_eq_true] at given
    exact ⟨admits_of_admitted given.1, ih given.2⟩

end Walkthrough

end VapiArc.Review
