import VapiArc.Lib.Async
import VapiArc.Review.Chain

/-!
# The watcher of submitted jobs

`pollSubmittedJobs` scans blocks in ranges and yields the jobs that are to be judged; its
consumer stops at the first job that it fails to process. The file `state.json` holds the
block at which the next pass starts, once a range was gone through.
-/
namespace VapiArc.Judge

open Async Transition
open Review (Address Hex Failure JobSubmitted RawJob)

structure SubmittedJob extends RawJob where
  deliverable : Hex
  submittedAtBlock : ℤ
  deriving DecidableEq, Repr

/-- A record of one pass: the head it was given and the cursor that it found, the ranges that
it asked the logs of, the block up to which it has saved its cursor, and the job that it was
processing when it ended. -/
structure Pass where
  latestBlock : ℤ
  found : Option ℤ
  queried : List (ℤ × ℤ) := []
  reached : ℤ
  failed : Option SubmittedJob := none
  deriving DecidableEq, Repr

/-- The cursor file, and a record of the passes with the newest first. -/
structure WatcherStore where
  nextBlock : Option ℤ := none
  passes : List Pass := []
  deriving DecidableEq, Repr

namespace WatcherStore

variable (s : WatcherStore)

def noted (f : Pass → Pass) : WatcherStore := { s with passes := s.passes.modifyHead f }

def started (latestBlock : ℤ) : WatcherStore :=
  let pass : Pass := {
    latestBlock
    found := s.nextBlock
    reached := s.nextBlock.getD latestBlock }
  { s with passes := pass :: s.passes }

def checkpoint (nextBlock : ℤ) : WatcherStore :=
  { s.noted fun pass => { pass with reached := nextBlock, failed := none } with
    nextBlock := some nextBlock }

end WatcherStore

inductive WatcherRequest where
  | getBlockNumber
  | getLogs (fromBlock toBlock : ℤ)
  | getJob (jobId : Nat)
  | resolutions (jobId : Nat)
  | processJob (job : SubmittedJob)
  deriving DecidableEq, Repr

inductive WatcherReply where
  | blockNumber (latest : ℤ)
  | logs (logs : List JobSubmitted)
  | job (raw : RawJob)
  | resolution (value : Nat)
  | processed
  deriving DecidableEq, Repr

/-- How an access to the cursor file ends. -/
abbrev Disk := Except Failure Unit

abbrev Watcher (α : Type) : Type := Routine WatcherStore Disk WatcherRequest WatcherReply Failure α

structure WatcherOptions where
  routerAddress : Address
  blockRange : ℤ := 2000
  deriving DecidableEq, Repr

namespace Watcher

/-- A call whose reply is of the expected kind. -/
def ask {α : Type} (request : WatcherRequest) (expected : WatcherReply → Option α) : Watcher α := do
  match expected (← (.await request : Watcher WatcherReply)) with
  | some a => pure a
  | none => throw (.error "unexpected reply")

def getBlockNumber : Watcher ℤ :=
  ask .getBlockNumber fun
    | .blockNumber latest => some latest
    | _ => none

/-- The logs of a range, both ends included. -/
def getLogs (fromBlock toBlock : ℤ) : Watcher (List JobSubmitted) :=
  ask (.getLogs fromBlock toBlock) fun
    | .logs logs => some logs
    | _ => none

def getJob (jobId : Nat) : Watcher RawJob :=
  ask (.getJob jobId) fun
    | .job raw => some raw
    | _ => none

def resolutions (jobId : Nat) : Watcher Nat :=
  ask (.resolutions jobId) fun
    | .resolution value => some value
    | _ => none

def processJob (job : SubmittedJob) : Watcher Unit := do
  let _ ← (.await (.processJob job) : Watcher WatcherReply)

/-- A missing file is `none`. -/
def readNextBlock (latestBlock : ℤ) : Watcher (Option ℤ) :=
  .transaction fun disk s => disk.map fun _ => (s.nextBlock, s.started latestBlock)

/-- The file is replaced by a rename. -/
def writeNextBlock (nextBlock : ℤ) : Watcher Unit :=
  .transaction fun disk s => disk.map fun _ => ((), s.checkpoint nextBlock)

def safelyProcessJob (job : SubmittedJob) : Watcher Bool :=
  tryCatch
    (do
      processJob job
      pure true)
    fun _ => pure false

variable (options : WatcherOptions)

/-- The loop over the logs of a range; `false` tells that the consumer has returned. -/
def yieldJobs : List JobSubmitted → Watcher Bool
  | [] => pure true
  | log :: logs => do
    let job ← getJob log.jobId
    if job.evaluator ≠ options.routerAddress then yieldJobs logs
    else if job.status ≠ 2 then yieldJobs logs
    else do
      let resolution ← resolutions log.jobId
      if resolution ≠ 0 then yieldJobs logs
      else if ← safelyProcessJob
          { job with deliverable := log.deliverable, submittedAtBlock := log.blockNumber } then
        yieldJobs logs
      else pure false

/-- The last block of the range that starts with `fromBlock`. -/
def rangeEnd (fromBlock latestBlock : ℤ) : ℤ :=
  if fromBlock + options.blockRange - 1 > latestBlock then latestBlock
  else fromBlock + options.blockRange - 1

variable {options} in
theorem le_rangeEnd {fromBlock latestBlock : ℤ} (positive : 1 ≤ options.blockRange)
    (more : fromBlock ≤ latestBlock) : fromBlock ≤ rangeEnd options fromBlock latestBlock := by
  unfold rangeEnd
  split <;> omega

def scanBlocks (positive : 1 ≤ options.blockRange) (fromBlock latestBlock : ℤ) : Watcher Bool :=
  if _ : fromBlock ≤ latestBlock then do
    let toBlock := rangeEnd options fromBlock latestBlock
    let logs ← getLogs fromBlock toBlock
    if ← yieldJobs options logs then do
      writeNextBlock (toBlock + 1)
      scanBlocks positive (toBlock + 1) latestBlock
    else pure false
  else pure true
termination_by (latestBlock + 1 - fromBlock).toNat
decreasing_by
  have inside := le_rangeEnd positive ‹_›
  omega

/-- `pollSubmittedJobs`, run by the loop of its consumer `processAvailableJobs`. -/
def processAvailableJobs : Watcher Bool :=
  if invalid : options.blockRange < 1 then throw (.error "Watcher blockRange must be positive")
  else do
    let latestBlock ← getBlockNumber
    let found ← readNextBlock latestBlock
    scanBlocks options (Int.not_lt.mp invalid) (found.getD latestBlock) latestBlock

end Watcher

namespace WatcherStore

variable (s : WatcherStore)

/-- A further request of a pass tells that the job before it was processed. -/
def issue : WatcherRequest → WatcherStore
  | .getBlockNumber => s
  | .getLogs fromBlock toBlock => s.noted fun pass =>
    { pass with queried := (fromBlock, toBlock) :: pass.queried, failed := none }
  | .getJob _ => s.noted fun pass => { pass with failed := none }
  | .resolutions _ => s.noted fun pass => { pass with failed := none }
  | .processJob job => s.noted fun pass => { pass with failed := some job }

end WatcherStore

/-- Calls may fail; the logs of a range lie in it. -/
def watcherAnswers (request : WatcherRequest) (_ : WatcherStore) : Except Failure WatcherReply → Prop
  | .error _ => True
  | .ok reply =>
    match request, reply with
    | .getBlockNumber, .blockNumber _ => True
    | .getLogs fromBlock toBlock, .logs logs =>
      ∀ log ∈ logs, fromBlock ≤ log.blockNumber ∧ log.blockNumber ≤ toBlock
    | .getJob _, .job _ => True
    | .resolutions _, .resolution _ => True
    | .processJob _, .processed => True
    | _, _ => False

/-- The judge worker starts its passes one after the other, and may be restarted at any time. -/
def worker (options : WatcherOptions) :
    Host WatcherStore Disk WatcherRequest WatcherReply Failure Empty Unit where
  inputs _ _ := True
  issue request s := s.issue request
  answers := watcherAnswers
  spawn _ := (do let _ ← Watcher.processAvailableJobs options : Watcher Unit).start
  outside s _ := s
  permits _ _ := True
  remote _ := True

abbrev WatcherState := State WatcherStore Disk WatcherRequest WatcherReply Failure

abbrev WatcherEvent := Event Disk WatcherReply Failure Empty Unit

end VapiArc.Judge
