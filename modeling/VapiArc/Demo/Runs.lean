import VapiArc.Review.Purchases

/-!
# Demo runs and their table

The rows of `demo_runs` and the transactions of `DemoRepository` on them. Rows are listed in
the order of their insertion. The log of events, which nothing else depends on, is left out.
-/
namespace VapiArc.Demo

open Checked Function Review

abbrev RunId := Nat

inductive DemoRunState where
  | queued
  | preparingEscrow
  | awaitingEscalation
  | awaitingPurchase
  | purchasingReview
  | reviewActive
  | finalized
  | failed
  | archivedRefundPending
  | archivedRefunded
  deriving DecidableEq, Repr

/-- The states of which `createRun` allows one run only. -/
def DemoRunState.active : DemoRunState → Bool
  | .queued | .preparingEscrow | .awaitingEscalation | .awaitingPurchase | .purchasingReview
  | .reviewActive => true
  | _ => false

/-- The states that `processRun` acts on. -/
def DemoRunState.processable : DemoRunState → Bool
  | .queued | .preparingEscrow | .awaitingEscalation | .purchasingReview | .reviewActive
  | .archivedRefundPending => true
  | _ => false

/-- `TERMINAL_STATES` -/
def DemoRunState.terminal : DemoRunState → Bool
  | .finalized | .archivedRefunded => true
  | _ => false

/-- The values of `currentOperation`; the first ones are also completed steps. -/
inductive DemoOperation where
  | initialize_
  | createJob
  | setHumanLane
  | setBudget
  | approveUsdc
  | fundEscrow
  | submitDeliverable
  | waitForEscalation
  | purchaseReview
  | waitForReview
  | waitForRefundEligibility
  deriving DecidableEq, Repr

def DemoOperation.name : DemoOperation → String
  | .initialize_ => "initialize"
  | .createJob => "create_job"
  | .setHumanLane => "set_human_lane"
  | .setBudget => "set_budget"
  | .approveUsdc => "approve_usdc"
  | .fundEscrow => "fund_escrow"
  | .submitDeliverable => "submit_deliverable"
  | .waitForEscalation => "wait_for_escalation"
  | .purchaseReview => "purchase_review"
  | .waitForReview => "wait_for_review"
  | .waitForRefundEligibility => "wait_for_refund_eligibility"

inductive DemoTransactionKey where
  | createJob
  | setLane
  | setBudget
  | approval
  | fund
  | submit
  | escalation
  | payment
  | payout
  | resolution
  | reviewRefund
  | escrowRefund
  deriving DecidableEq, Repr

/-- What a transaction column holds: a hash on Arc, or the identifier of a Gateway transfer. -/
inductive Reference where
  | hash (value : Hex)
  | transfer (id : String)
  deriving DecidableEq, Repr

def Reference.text : Reference → String
  | hash value => hashText value
  | transfer id => id

structure CreateDemoRunInput where
  runId : RunId
  requestId : String
  description : String
  deliverableContent : String
  deliverableHash : Hex
  clientAddress : Address
  providerAddress : Address
  budget : Nat
  reviewPrice : Nat
  reward : Nat
  expiresAt : Nat
  deriving DecidableEq, Repr

structure DemoRun where
  input : CreateDemoRunInput
  state : DemoRunState := .queued
  currentOperation : Option DemoOperation := some .initialize_
  recoveryState : Option DemoRunState := none
  jobId : Option Nat := none
  orderId : Option Token := none
  chainStartBlock : Option Nat := none
  completedSteps : List DemoOperation := []
  transactions : DemoTransactionKey → Option Reference := fun _ => none
  createdAt : Timestamp
  onChainVerified : Bool := false
  lastError : Option String := none

namespace DemoRun

variable (run : DemoRun)

def id : RunId := run.input.runId

def requestId : String := run.input.requestId

end DemoRun

/-- An error as a rail rejects with it or the service throws it. What is not an `Error` has
no name, and its text is the message. -/
structure DemoError where
  name : String := "Error"
  message : String
  code : Option String := none
  statusCode : Option Nat := none
  deriving DecidableEq, Repr

section Texts

/-- `String.prototype.toLowerCase`, as far as its result has letters from `a` to `z`. -/
def toLowerCase (text : String) : List Char :=
  text.toList.map fun c => if c.toNat = 0x212A then 'k' else c.toLower

def includes (text : List Char) (pattern : String) : Bool := pattern.toList <:+: text

def isWordChar (c : Char) : Bool := c.isAlphanum || c = '_'

/-- `/\bhttp (?:5\d\d)\b/` matches at the head of a text, after the given character. -/
def serverErrorAt (before : Option Char) : List Char → Bool
  | 'h' :: 't' :: 't' :: 'p' :: ' ' :: '5' :: c :: d :: rest =>
    !before.any isWordChar && c.isDigit && d.isDigit && !rest.head?.any isWordChar
  | _ => false

def matchesServerError (before : Option Char) : List Char → Bool
  | [] => false
  | c :: rest => serverErrorAt before (c :: rest) || matchesServerError (some c) rest

def isTransientDemoError (error : DemoError) : Bool :=
  let name := toLowerCase error.name
  let message := toLowerCase error.message
  ["timeout", "abort", "httprequest", "socket"].any (includes name) ||
    ["timed out", "timeout", "fetch failed", "network error", "socket hang up", "econnreset",
      "econnrefused", "rate limit", "too many requests", "http 429"].any (includes message) ||
    matchesServerError none message || includes message "rpc request failed"

def isRetryableTransactionFailure (message : Option String) : Bool :=
  includes (toLowerCase (message.getD "")) "arc transaction reverted"

/-- `message.slice(0, length)`; a character of which only a half would be left is left out. -/
def slice (length : Nat) (text : String) : String := String.ofList (go length text.toList)
where
  go : Nat → List Char → List Char
  | _, [] => []
  | length, c :: rest =>
    let units := (Json.codeUnits c).length
    if units ≤ length then c :: go (length - units) rest else []

end Texts

structure DemoRepository where
  runs : List DemoRun := []

namespace DemoRepository

variable (repository : DemoRepository)

def get (runId : RunId) : Option DemoRun := repository.runs.find? (·.id = runId)

def getByRequestId (requestId : String) : Option DemoRun :=
  repository.runs.find? (·.requestId = requestId)

def notFound : DemoError where
  message := "Demo run was not found"
  code := some "demo_run_not_found"
  statusCode := some 404

def conflict (active : RunId) : DemoError where
  message := s!"Demo run {active} is already active"
  code := some "demo_run_conflict"
  statusCode := some 409

def rateLimited (maxRunsPerHour : Nat) : DemoError where
  message := s!"At most {maxRunsPerHour} demo runs may be started per hour"
  code := some "demo_rate_limited"
  statusCode := some 429

def unique (column : String) : DemoError where
  name := "SqliteError"
  message := "UNIQUE constraint failed: demo_runs." ++ column

/-- The clock is read for the limit and for the row. -/
def createRun (input : CreateDemoRunInput) (maxRunsPerHour : Nat) (now timestamp : Timestamp) :
    Except DemoError ((DemoRun × Bool) × DemoRepository) :=
  match repository.getByRequestId input.requestId with
  | some existing => return ((existing, false), repository)
  | none =>
    match repository.runs.find? (·.state.active) with
    | some active => throw (conflict active.id)
    | none => do
      let recent := repository.runs.countP fun run => now ≤ run.createdAt + 60 * 60000
      revertIf (recent ≥ maxRunsPerHour) (rateLimited maxRunsPerHour)
      revertIf ((repository.get input.runId).isSome = true) (unique "id")
      let run : DemoRun := { input, createdAt := timestamp }
      return ((run, true), { runs := repository.runs ++ [run] })

/-- An `UPDATE` of one row, whose new values are those of `change`. -/
def patch (runId : RunId) (change : DemoRun → DemoRun) :
    Except DemoError (DemoRun × DemoRepository) := do
  let run ← demand notFound (repository.get runId)
  let others := repository.runs.filter (·.id ≠ runId)
  revertIf (others.any (fun other => sameKey other.jobId (change run).jobId) = true)
    (unique "job_id")
  revertIf (others.any (fun other => sameKey other.orderId (change run).orderId) = true)
    (unique "order_id")
  return (change run,
    { runs := repository.runs.map fun run => if run.id = runId then change run else run })

/-- `completedAt` is left out. -/
def transition (runId : RunId) (state : DemoRunState) (currentOperation : Option DemoOperation) :
    Except DemoError (DemoRun × DemoRepository) :=
  repository.patch runId fun run => { run with state, currentOperation, lastError := none }

def fail (runId : RunId) (error : DemoError) : Except DemoError (DemoRun × DemoRepository) :=
  repository.patch runId fun run =>
    { run with
      state := .failed
      recoveryState := some (if run.state = .failed then run.recoveryState.getD .preparingEscrow
        else run.state)
      lastError := some (slice 1000 error.message) }

def noteTransientFailure (runId : RunId) (error : DemoError) :
    Except DemoError (DemoRun × DemoRepository) :=
  repository.patch runId fun run => { run with lastError := some (slice 1000 error.message) }

def recordTransaction (runId : RunId) (key : DemoTransactionKey) (transaction : Reference) :
    Except DemoError (DemoRun × DemoRepository) :=
  repository.patch runId fun run =>
    { run with transactions := update run.transactions key (some transaction) }

def clearTransaction (runId : RunId) (key : DemoTransactionKey) :
    Except DemoError (DemoRun × DemoRepository) :=
  repository.patch runId fun run => { run with transactions := update run.transactions key none }

/-- `change` sets the columns of the last argument. -/
def completeStep (runId : RunId) (step : DemoOperation) (nextOperation : Option DemoOperation)
    (change : DemoRun → DemoRun) : Except DemoError (DemoRun × DemoRepository) :=
  repository.patch runId fun run =>
    change { run with
      completedSteps := if step ∈ run.completedSteps then run.completedSteps
        else run.completedSteps ++ [step]
      currentOperation := nextOperation
      lastError := none }

end DemoRepository

section Updates

variable {repository repository' : DemoRepository} {runId other : RunId} {run updated : DemoRun}
  {change : DemoRun → DemoRun}

theorem DemoRepository.get_id (found : repository.get runId = some run) : run.id = runId := by
  simpa using List.find?_some found

theorem DemoRepository.get_mem (found : repository.get runId = some run) : run ∈ repository.runs :=
  List.mem_of_find?_eq_some found

/-- An update that keeps identifiers changes the row of its run, and no other one. -/
theorem DemoRepository.patch_ok
    (done : repository.patch runId change = .ok (updated, repository'))
    (keeps : ∀ run, (change run).id = run.id) :
    ∃ run, repository.get runId = some run ∧ updated = change run ∧
      repository'.get runId = some (change run) ∧
      ∀ other, other ≠ runId → repository'.get other = repository.get other := by
  simp only [patch, bind_ok, demand_ok, revertIf_ok, exists_const, pure_ok, Prod.mk.injEq] at done
  obtain ⟨run, found, -, -, rfl, rfl⟩ := done
  have same (id : RunId) : (((fun run : DemoRun => decide (run.id = id)) ∘ fun run =>
      if run.id = runId then change run else run)) = fun run => decide (run.id = id) := by
    funext run
    simp only [comp_apply]
    split <;> simp [keeps]
  refine ⟨run, found, rfl, ?_, fun other different => ?_⟩
  · have here := get_id found
    simp only [get] at found ⊢
    rw [List.find?_map, same, found]
    simp [here]
  · simp only [get]
    rw [List.find?_map, same]
    cases there : repository.runs.find? fun run => decide (run.id = other) with
    | none => rfl
    | some row =>
      have := get_id there
      simp [this, different]

theorem DemoRepository.patch_ids
    (done : repository.patch runId change = .ok (updated, repository'))
    (keeps : ∀ run, (change run).id = run.id) :
    repository'.runs.map (·.id) = repository.runs.map (·.id) := by
  simp only [patch, bind_ok, demand_ok, revertIf_ok, exists_const, pure_ok, Prod.mk.injEq] at done
  obtain ⟨run, found, -, -, rfl, rfl⟩ := done
  simp only [List.map_map]
  refine List.map_congr_left fun run _ => ?_
  simp only [comp_apply]
  split
  · exact keeps run
  · rfl

end Updates

end VapiArc.Demo
