import VapiArc.Judge.Evidence
import VapiArc.Judge.WatcherCoverage
import VapiArc.Lib.Outcome

/-!
# The worker's process

The process makes one pass after the other until a signal tells it to stop. Meanwhile it answers
whoever asks for its health: it is ready if a pass has succeeded lately.
-/
namespace VapiArc.Judge

open Async Checked Transition
open Review (Failure Timestamp toISOString trim)

section Configuration

structure JudgeWorkerConfig where
  port : Nat
  readinessMaxAgeMs : Nat
  deriving DecidableEq, Repr

variable (lib : JudgeLibrary) (environment : ProcessEnv)

/-- A setting that is not empty. -/
def setting (name : String) : Option String := ((environment name).map trim).filter (· ≠ "")

/-- The number of a text of digits, if it lies between two bounds. -/
def numberWithin (least most : Nat) (raw : String) : Option Nat :=
  (unsigned raw).filter fun n => least ≤ n ∧ n ≤ most

def readPort : Except String Nat :=
  match setting environment "PORT" <|> setting environment "JUDGE_PORT" with
  | none => .error "PORT/JUDGE_PORT is required"
  | some raw => demand "PORT/JUDGE_PORT must be an integer from 1 to 65535" (numberWithin 1 65535 raw)

def defaultJudgeReadinessMaxAgeMs : Nat := 5 * 60000

def readReadinessMaxAge : Except String Nat :=
  match setting environment "JUDGE_HEALTH_MAX_STALENESS_MS" with
  | none => .ok defaultJudgeReadinessMaxAgeMs
  | some raw =>
    demand "JUDGE_HEALTH_MAX_STALENESS_MS must be an integer from 1000 to 1800000"
      (numberWithin 1000 (30 * 60000) raw)

def issuesOf : Except String Nat → List String
  | .ok _ => []
  | .error issue => [issue]

def loadJudgeWorkerConfig : Except Failure JudgeWorkerConfig := do
  validateLiveJudgeEnvironment lib environment
  match readPort environment, readReadinessMaxAge environment with
  | .ok port, .ok readinessMaxAgeMs => return { port, readinessMaxAgeMs }
  | port, readinessMaxAge =>
    throw (.error ("Judge configuration invalid: " ++
      "; ".intercalate (issuesOf port ++ issuesOf readinessMaxAge)))

end Configuration

section Readiness

structure JudgeReadiness where
  maxAgeMs : Nat
  lastSuccessfulPollAt : Option Timestamp := none
  shuttingDown : Bool := false
  deriving DecidableEq, Repr

structure JudgeReadinessSnapshot where
  ready : Bool
  reason : String
  lastSuccessfulPollAt : Option String
  ageMs : Option Nat
  deriving DecidableEq, Repr

namespace JudgeReadiness

def create (maxAgeMs : Nat) : Except Failure JudgeReadiness := do
  revertIf (maxAgeMs < 1) (.error "Judge readiness max age must be a positive integer")
  return { maxAgeMs }

variable (readiness : JudgeReadiness)

def markPollSucceeded (now : Timestamp) : JudgeReadiness :=
  { readiness with lastSuccessfulPollAt := some now }

def markShuttingDown : JudgeReadiness := { readiness with shuttingDown := true }

/-- The age is `Math.max(0, now - lastSuccessfulPollAt)`: the clock may have been set back. -/
def snapshot (now : Timestamp) : JudgeReadinessSnapshot :=
  let timestamp := readiness.lastSuccessfulPollAt.map toISOString
  let age := readiness.lastSuccessfulPollAt.map (now - ·)
  if readiness.shuttingDown then
    { ready := false, reason := "shutting_down", lastSuccessfulPollAt := timestamp, ageMs := age }
  else
    match age with
    | none =>
      { ready := false, reason := "no_successful_poll", lastSuccessfulPollAt := none, ageMs := none }
    | some ageMs =>
      { ready := decide (ageMs ≤ readiness.maxAgeMs)
        reason := if ageMs ≤ readiness.maxAgeMs then "ready" else "stale"
        lastSuccessfulPollAt := timestamp
        ageMs := some ageMs }

end JudgeReadiness

structure HealthResponse where
  statusCode : Nat
  allow : Option String := none
  body : Review.JsonValue
  /-- The body is left out, but not its length. -/
  headOnly : Bool := false

def healthBody (snapshot : JudgeReadinessSnapshot) : Review.JsonValue :=
  .object [("status", .string (if snapshot.ready then "ok" else "unavailable")),
    ("service", .string "vapi-judge"), ("reason", .string snapshot.reason),
    ("lastSuccessfulPollAt", snapshot.lastSuccessfulPollAt.elim .null .string),
    ("pollAgeMs", snapshot.ageMs.elim .null .number)]

def refusal (status : String) : Review.JsonValue :=
  .object [("status", .string status), ("service", .string "vapi-judge")]

/-- The answer to a request for a path, of which the part behind a question mark is ignored. -/
def handleHealthRequest (readiness : JudgeReadiness) (now : Timestamp) (url : Option String)
    (method : String) : HealthResponse :=
  if (url.getD "/").toList.takeWhile (· ≠ '?') ≠ "/health".toList then
    { statusCode := 404, body := refusal "not_found" }
  else if method ≠ "GET" ∧ method ≠ "HEAD" then
    { statusCode := 405, allow := some "GET, HEAD", body := refusal "method_not_allowed" }
  else
    let snapshot := readiness.snapshot now
    { statusCode := if snapshot.ready then 200 else 503
      body := healthBody snapshot
      headOnly := decide (method = "HEAD") }

end Readiness

/-- Where the loop of `main` is. -/
inductive Phase where
  | polling
  | waiting
  /-- The loop has been left. -/
  | stopped
  deriving DecidableEq, Repr

/-- The variables of `main`. -/
structure JudgeProcess where
  port : Nat
  readiness : JudgeReadiness
  stopping : Bool := false
  phase : Phase := .polling
  deriving DecidableEq, Repr

namespace JudgeProcess

def boot (lib : JudgeLibrary) (environment : ProcessEnv) : Except Failure JudgeProcess := do
  let config ← loadJudgeWorkerConfig lib environment
  let readiness ← JudgeReadiness.create config.readinessMaxAgeMs
  return { port := config.port, readiness }

variable (process : JudgeProcess)

/-- On `SIGINT` and `SIGTERM`. -/
def requestShutdown : JudgeProcess :=
  if process.stopping then process
  else { process with stopping := true, readiness := process.readiness.markShuttingDown }

/-- `processAvailableJobs` has returned, or thrown what is only logged. -/
def polled (succeeded : Except Failure Bool) (now : Timestamp) : JudgeProcess :=
  { process with
    phase := .waiting
    readiness :=
      match succeeded with
      | .ok true => process.readiness.markPollSucceeded now
      | _ => process.readiness }

/-- `waitForNextPoll` is over: after its interval, or at once when the process is to stop. -/
def woken : JudgeProcess :=
  if process.stopping then
    { process with phase := .stopped, readiness := process.readiness.markShuttingDown }
  else { process with phase := .polling }

end JudgeProcess

/-- The files outlive the process. -/
structure JudgeWorker where
  files : WatcherStore
  process : Option JudgeProcess := none

inductive WorkerEvent where
  | boot (environment : ProcessEnv)
  | signal
  /-- A pass ends and leaves these files. -/
  | polled (succeeded : Except Failure Bool) (files : WatcherStore) (now : Timestamp)
  | woken
  /-- The process ends in any way, wherever it is in a pass. -/
  | killed (files : WatcherStore)

namespace JudgeWorker

/-- The process is in this place of its loop. -/
def In (phase : Phase) (w : JudgeWorker) : Prop := ∃ process ∈ w.process, process.phase = phase

variable (w : JudgeWorker)

def step (lib : JudgeLibrary) : WorkerEvent → JudgeWorker
  | .boot environment =>
    match w.process, JudgeProcess.boot lib environment with
    | none, .ok process => { w with process := some process }
    | _, _ => w
  | .signal => { w with process := w.process.map JudgeProcess.requestShutdown }
  | .polled succeeded files now => { files, process := w.process.map (·.polled succeeded now) }
  | .woken => { w with process := w.process.map JudgeProcess.woken }
  | .killed files => { files }

/-- What is answered to a request for the health, if there is a process that answers. -/
def health (now : Timestamp) (url : Option String) (method : String) : Option HealthResponse :=
  w.process.map fun process => handleHealthRequest process.readiness now url method

end JudgeWorker

/-- One process at a time has the files of the watcher for itself. -/
def judgeWorker (lib : JudgeLibrary) (options : WatcherOptions) : System JudgeWorker WorkerEvent where
  admits w
    | .boot _ => w.process = none
    | .signal => True
    | .polled succeeded files _ => w.In .polling ∧
        Ends (worker options) (Watcher.processAvailableJobs options) w.files succeeded files
    | .woken => w.In .waiting
    | .killed files => files = w.files ∨ w.In .polling ∧
        CutOff (worker options) (Watcher.processAvailableJobs options) w.files files
  next w := w.step lib

end VapiArc.Judge
