import VapiArc.Lib.Transition
import VapiArc.Review.DashboardSnapshot
import VapiArc.Review.Reservations

/-!
# The life of the dashboard's snapshot

One refresh runs at a time. What it finds is stored, a refresh that fails marks what is stored as
degraded, and a reader gets the stored snapshot with a status that depends on its age. The store
outlives the process.
-/
namespace VapiArc.Dashboard

open Escrow (Address)
open Transition

section Messages

/-- A text has another one in it, in letters of either case. -/
def mentions (detail part : String) : Bool :=
  detail.toLower.toList.tails.any fun rest => part.toLower.toList.isPrefixOf rest

def wordChar (c : Char) : Bool := c.isAlphanum || c = '_'

/-- `\b` between the characters. -/
def boundary (before after : Option Char) : Bool := before.any wordChar != after.any wordChar

/-- `[: ]+\s*` and digits that fit up to a boundary. -/
def codeAfter (digits : List (Char → Bool)) (rest : List Char) : Bool :=
  let spaced := rest.dropWhile fun c => c = ':' || c = ' '
  let code := spaced.dropWhile fun c => Review.blank (String.singleton c)
  rest.head?.any (fun c => c = ':' || c = ' ') &&
    code.length ≥ digits.length && (code.zip digits).all (fun (c, fits) => fits c) &&
      boundary (code.take digits.length).getLast? (code.drop digits.length).head?

/-- `\b(?:status|http)[: ]+\s*` and digits that fit, anywhere in the text. -/
def mentionsCode (digits : List (Char → Bool)) : Option Char → List Char → Bool
  | _, [] => false
  | before, c :: rest =>
    (boundary before c && ["status", "http"].any (fun word =>
      word.toList.isPrefixOf (c :: rest) && codeAfter digits ((c :: rest).drop word.length))) ||
      mentionsCode digits c rest

def rateLimitedError : String := "Arc RPC rate limit reached; the background indexer will retry."

def unavailableError : String :=
  "Arc RPC is temporarily unavailable; the background indexer will retry."

def failedError : String := "Arc evidence refresh failed; the background indexer will retry."

/-- The text that is stored of an error, given the messages of it and of its causes. -/
def dashboardRefreshErrorMessage (messages : List String) : String :=
  let detail := " ".intercalate messages
  let lower := detail.toLower.toList
  if mentions detail "request limit reached" || mentions detail "-32011" ||
      mentionsCode [(· = '4'), (· = '2'), (· = '9')] none lower then
    rateLimitedError
  else if ["timeout", "time out", "timedout", "timed out", "fetch failed", "network error",
        "http request failed", "ECONNRESET", "ENOTFOUND", "ETIMEDOUT", "RPC unavailable"].any
          (mentions detail) ||
      mentionsCode [(· = '5'), Char.isDigit, Char.isDigit] none lower then
    unavailableError
  else failedError

/-- Nothing of an error is stored but which of three kinds it is of. -/
theorem dashboardRefreshErrorMessage_fixed (messages : List String) :
    dashboardRefreshErrorMessage messages ∈ [rateLimitedError, unavailableError, failedError] := by
  simp only [dashboardRefreshErrorMessage]
  split
  · simp
  · split <;> simp

end Messages

inductive SnapshotStatus where
  | syncing
  | ready
  | stale
  | degraded
  deriving DecidableEq, Repr

/-- A snapshot as it is stored and sent, with its times in milliseconds. -/
structure ChainSnapshot where
  configured : Bool
  status : SnapshotStatus
  latestBlock : Option Nat
  indexedAt : Option Nat
  lastAttemptAt : Option Nat
  lastError : Option String
  feed : List DashboardFeedRow
  reviewQueue : List DashboardReviewRecord
  deriving DecidableEq

structure ServiceConfig where
  routerAddress : Option Address
  staleAfterMs : Nat

/-- The stored row, and the variables of the process. -/
structure Service where
  stored : Option ChainSnapshot := none
  running : Bool := false
  /-- When the refresh in flight began. -/
  refreshing : Option Nat := none

inductive ServiceEvent where
  | start (now : Nat)
  /-- The timer of the interval. -/
  | tick (now : Nat)
  | stop
  /-- The refresh in flight has derived a snapshot. -/
  | succeeds (found : DashboardChainSnapshot) (indexedAt : Nat)
  /-- The refresh in flight throws, with the messages of the error and its causes. -/
  | fails (messages : List String)
  /-- The process ends in any way, and another one begins. -/
  | restart

namespace ServiceConfig

variable (config : ServiceConfig)

def initialSnapshot : ChainSnapshot where
  configured := config.routerAddress.isSome
  status := if config.routerAddress.isSome then .syncing else .degraded
  latestBlock := none
  indexedAt := none
  lastAttemptAt := none
  lastError := if config.routerAddress.isSome then none else some "ROUTER_ADDRESS is not configured"
  feed := []
  reviewQueue := []

/-- What `refreshUnsafe` stores. -/
def refreshed (found : DashboardChainSnapshot) (lastAttemptAt indexedAt : Nat) : ChainSnapshot where
  configured := found.configured
  status :=
    match found.status with
    | .syncing => .syncing
    | .ready => .ready
    | .degraded => .degraded
  latestBlock := found.latestBlock
  indexedAt := if config.routerAddress.isSome then some indexedAt else none
  lastAttemptAt := some lastAttemptAt
  lastError := found.lastError
  feed := found.feed
  reviewQueue := found.reviewQueue

/-- What `recordRefreshFailure` stores. -/
def failed (previous : Option ChainSnapshot) (lastAttemptAt : Nat) (messages : List String) :
    ChainSnapshot :=
  { previous.getD config.initialSnapshot with
    status := .degraded
    lastAttemptAt := some lastAttemptAt
    lastError := some (dashboardRefreshErrorMessage messages) }

def deriveStatus (snapshot : ChainSnapshot) (now : Nat) : ChainSnapshot :=
  if snapshot.configured = false ∨ snapshot.status = .degraded then snapshot
  else match snapshot.indexedAt with
    | none => snapshot
    | some indexedAt =>
      -- `ageMs > this.staleAfterMs`, also for an age below zero
      if indexedAt + config.staleAfterMs < now then { snapshot with status := .stale }
      else { snapshot with status := .ready }

def getSnapshot (s : Service) (now : Nat) : ChainSnapshot :=
  config.deriveStatus (s.stored.getD config.initialSnapshot) now

end ServiceConfig

/-- `refresh`, which joins the refresh in flight. -/
def Service.refresh (s : Service) (now : Nat) : Service :=
  if s.refreshing.isSome then s else { s with refreshing := some now }

def serviceStep (config : ServiceConfig) (s : Service) : ServiceEvent → Service
  | .start now => if s.running then s else { s with running := true }.refresh now
  | .tick now => if s.running then s.refresh now else s
  | .stop => { s with running := false }
  | .succeeds found indexedAt =>
    match s.refreshing with
    | some lastAttemptAt =>
      { s with refreshing := none, stored := some (config.refreshed found lastAttemptAt indexedAt) }
    | none => s
  | .fails messages =>
    match s.refreshing with
    | some lastAttemptAt =>
      { s with refreshing := none, stored := some (config.failed s.stored lastAttemptAt messages) }
    | none => s
  | .restart => { stored := s.stored }

/-- A refresh succeeds with what some answers of the chain make of it. -/
def service (config : ServiceConfig) : System Service ServiceEvent where
  admits s
    | .succeeds found _ => s.refreshing.isSome = true ∧ ∃ p : DashboardSnapshotProcessor,
        p.routerAddress = config.routerAddress ∧ p.refreshUnsafe = .ok found
    | .fails _ => s.refreshing.isSome = true
    | _ => True
  next := serviceStep config

/-- A refresh that has ended: when it began, and what it found and when, or why it failed. -/
structure Attempt where
  begun : Nat
  outcome : Except (List String) (DashboardChainSnapshot × Nat)

/-- The refresh that a step ends. -/
def attempt : Service × ServiceEvent → Option Attempt
  | (s, .succeeds found indexedAt) => s.refreshing.map (⟨·, .ok (found, indexedAt)⟩)
  | (s, .fails messages) => s.refreshing.map (⟨·, .error messages⟩)
  | _ => none

/-- The refreshes that have ended, in this process and those before it, the last one first. -/
def attempts (history : List (Service × ServiceEvent)) : List Attempt := history.filterMap attempt

/-- What the last refresh that succeeded found. -/
def lastFound (attempts : List Attempt) : Option (DashboardChainSnapshot × Nat) :=
  attempts.findSome? fun attempt => attempt.outcome.toOption

/-- What is to be shown after the refreshes that have ended: what the last one that succeeded
found, and how the last one went. Without a router nothing is found and nothing is ready. -/
def shown (config : ServiceConfig) (attempts : List Attempt) (now : Nat) : ChainSnapshot :=
  let router := config.routerAddress.isSome
  let last := if router then lastFound attempts else none
  { configured := router
    status :=
      if router then
        match attempts.head?.map Attempt.outcome with
        | none => .syncing
        | some (.error _) => .degraded
        | some (.ok (_, indexedAt)) =>
          if indexedAt + config.staleAfterMs < now then .stale else .ready
      else .degraded
    latestBlock := last.bind (·.1.latestBlock)
    indexedAt := last.map Prod.snd
    lastAttemptAt := attempts.head?.map Attempt.begun
    lastError :=
      match attempts.head?.map Attempt.outcome with
      | some (.error messages) => some (dashboardRefreshErrorMessage messages)
      | _ => if router then none else some "ROUTER_ADDRESS is not configured"
    feed := (last.map (·.1.feed)).getD []
    reviewQueue := (last.map (·.1.reviewQueue)).getD [] }

section Served

variable {config : ServiceConfig} {s : Service} {history : List (Service × ServiceEvent)}
  {event : ServiceEvent}

/-- What a refresh finds with a router that is configured. -/
theorem refreshUnsafe_found {p : DashboardSnapshotProcessor} {found : DashboardChainSnapshot}
    (router : p.routerAddress.isSome = true) (done : p.refreshUnsafe = .ok found) :
    found.configured = true ∧ found.status = .ready ∧ found.lastError = none := by
  obtain ⟨address, configured⟩ := Option.isSome_iff_exists.mp router
  simp only [DashboardSnapshotProcessor.refreshUnsafe, configured] at done
  simp only [Checked.bind_ok, Checked.pure_ok] at done
  obtain ⟨_, -, _, -, _, -, _, -, _, -, _, -, rfl⟩ := done
  exact ⟨rfl, rfl, rfl⟩

/-- Without a router a refresh asks the chain for nothing. -/
theorem refreshUnsafe_unconfigured {p : DashboardSnapshotProcessor} {found : DashboardChainSnapshot}
    (router : p.routerAddress = none) (done : p.refreshUnsafe = .ok found) :
    found = ⟨false, .degraded, none, some "ROUTER_ADDRESS is not configured", [], []⟩ := by
  rw [DashboardSnapshotProcessor.refreshUnsafe, router] at done
  simp only [Checked.pure_ok] at done
  rw [← done, DashboardSnapshotProcessor.initialSnapshot, router]
  rfl

theorem lastFound_ok {begun : Nat} {found : DashboardChainSnapshot × Nat} {rest : List Attempt} :
    lastFound (⟨begun, .ok found⟩ :: rest) = some found := rfl

theorem lastFound_error {begun : Nat} {messages : List String} {rest : List Attempt} :
    lastFound (⟨begun, .error messages⟩ :: rest) = lastFound rest := rfl

variable (config) in
/-- The row that is stored: nothing before a refresh has ended, and then what is shown, with a
status that does not look at the clock. -/
def storedSnapshot : List Attempt → Option ChainSnapshot
  | [] => none
  | ⟨begun, outcome⟩ :: rest => some
    { shown config (⟨begun, outcome⟩ :: rest) 0 with
      status :=
        match outcome with
        | .ok _ => if config.routerAddress.isSome then .ready else .degraded
        | .error _ => .degraded }

/-- A refresh that fails keeps what the row shows of the chain. -/
theorem failed_stored (rest : List Attempt) (begun : Nat) (messages : List String) :
    some (config.failed (storedSnapshot config rest) begun messages) =
      storedSnapshot config (⟨begun, .error messages⟩ :: rest) := by
  cases rest with
  | nil =>
    simp [ServiceConfig.failed, storedSnapshot, ServiceConfig.initialSnapshot, shown, lastFound,
      Except.toOption]
  | cons last rest => simp [ServiceConfig.failed, storedSnapshot, shown, lastFound_error]

/-- A refresh that succeeds leaves nothing of the row. -/
theorem refreshed_stored {p : DashboardSnapshotProcessor} {found : DashboardChainSnapshot}
    (same : p.routerAddress = config.routerAddress) (done : p.refreshUnsafe = .ok found)
    (rest : List Attempt) (begun indexedAt : Nat) :
    some (config.refreshed found begun indexedAt) =
      storedSnapshot config (⟨begun, .ok (found, indexedAt)⟩ :: rest) := by
  cases router : config.routerAddress with
  | none =>
    rw [refreshUnsafe_unconfigured (same.trans router) done]
    simp [storedSnapshot, shown, ServiceConfig.refreshed, router]
  | some address =>
    obtain ⟨configured, ready, clean⟩ := refreshUnsafe_found (by simp [same, router]) done
    simp [storedSnapshot, shown, lastFound_ok, ServiceConfig.refreshed, configured, ready, clean,
      router]

theorem stored_step (stored : s.stored = storedSnapshot config (attempts history))
    (admitted : (service config).admits s event) :
    ((service config).next s event).stored = storedSnapshot config (attempts ((s, event) :: history)) := by
  have refreshed (now : Nat) : (s.refresh now).stored = s.stored := by
    unfold Service.refresh
    split <;> rfl
  cases event with
  | start now =>
    simp only [service, serviceStep, attempts, List.filterMap_cons, attempt]
    split
    · exact stored
    · unfold Service.refresh
      split <;> exact stored
  | tick now =>
    simp only [service, serviceStep, attempts, List.filterMap_cons, attempt]
    split
    · rw [refreshed]
      exact stored
    · exact stored
  | stop => exact stored
  | restart => exact stored
  | succeeds found indexedAt =>
    obtain ⟨flying, p, same, done⟩ := admitted
    obtain ⟨begun, flying⟩ := Option.isSome_iff_exists.mp flying
    simp only [service, serviceStep, attempts, List.filterMap_cons, attempt, flying, Option.map_some]
    exact refreshed_stored same done (attempts history) begun indexedAt
  | fails messages =>
    obtain ⟨begun, flying⟩ := Option.isSome_iff_exists.mp admitted
    simp only [service, serviceStep, attempts, List.filterMap_cons, attempt, flying, Option.map_some]
    rw [stored]
    exact failed_stored (attempts history) begun messages

/-- The age of what was found last decides between what is ready and what is stale. -/
theorem deriveStatus_stored (attempts : List Attempt) (now : Nat) :
    config.deriveStatus ((storedSnapshot config attempts).getD config.initialSnapshot) now =
      shown config attempts now := by
  cases router : config.routerAddress with
  | none =>
    -- the status of a snapshot that is not configured is not derived from its age
    cases attempts with
    | nil => simp [storedSnapshot, ServiceConfig.deriveStatus, ServiceConfig.initialSnapshot, router, shown]
    | cons last rest =>
      obtain ⟨begun, outcome⟩ := last
      cases outcome <;> simp [storedSnapshot, ServiceConfig.deriveStatus, router, shown]
  | some address =>
    cases attempts with
    | nil =>
      simp [storedSnapshot, ServiceConfig.deriveStatus, ServiceConfig.initialSnapshot, router, shown,
        lastFound]
    | cons last rest =>
      obtain ⟨begun, outcome⟩ := last
      cases outcome with
      | error messages => simp [storedSnapshot, ServiceConfig.deriveStatus, shown, router]
      | ok found =>
        simp only [storedSnapshot, Option.getD_some, ServiceConfig.deriveStatus, shown, lastFound_ok,
          router, Option.isSome_some, if_true, Option.map_some]
        by_cases old : found.2 + config.staleAfterMs < now
        · simp [old]
        · simp [old]

end Served

/-- However the process is started, stopped and restarted, and however refreshes end: a reader
gets what the last refresh that succeeded found. It is ready or stale by its age if the last
refresh was that one, and degraded with one of three fixed errors if the last refresh failed.
Without a router it is degraded from the start, with an error that says so. -/
theorem dashboard_served {config : ServiceConfig} {history : List (Service × ServiceEvent)}
    {s : Service} (run : Run (service config) {} history s) (now : Nat) :
    config.getSnapshot s now = shown config (attempts history) now ∧
      ∀ error, (config.getSnapshot s now).lastError = some error →
        (config.getSnapshot s now).status = .degraded ∧
          (error ∈ [rateLimitedError, unavailableError, failedError] ∨
            config.routerAddress = none ∧ error = "ROUTER_ADDRESS is not configured") := by
  have stored : s.stored = storedSnapshot config (attempts history) :=
    run.historyInvariant (fun history s => s.stored = storedSnapshot config (attempts history)) rfl
      fun _ _ _ _ stored admitted => stored_step stored admitted
  have served : config.getSnapshot s now = shown config (attempts history) now := by
    rw [ServiceConfig.getSnapshot, stored]
    exact deriveStatus_stored (attempts history) now
  refine ⟨served, ?_⟩
  intro error told
  rw [served] at told ⊢
  simp only [shown] at told ⊢
  split at told
  next messages last =>
    cases told
    rw [last]
    exact ⟨by simp, .inl (dashboardRefreshErrorMessage_fixed messages)⟩
  next =>
    cases router : config.routerAddress with
    | none =>
      simp only [router, Option.isSome_none, Bool.false_eq_true, if_false, Option.some.injEq] at told
      exact ⟨by simp, .inr ⟨rfl, told.symm⟩⟩
    | some address => simp [router] at told

namespace ServiceWalkthrough

def config : ServiceConfig where
  routerAddress := some 9
  staleAfterMs := 60000

def job : RawJob where
  id := 7
  client := 8
  provider := 6
  evaluator := 9
  description := "audit"
  budget := 500
  expiredAt := 10000
  status := 3
  hook := 0

/-- A chain with one job, which is pinned, and no logs. -/
def processor : DashboardSnapshotProcessor where
  routerAddress := some 9
  commerceAddress := some 2
  defaultAgenticCommerceAddress := 1
  logLookbackBlocks := 8
  client :=
    { getBlockNumber := .ok 50
      getLogs := fun _ _ _ => .ok []
      getJob := fun _ => .success job
      lanes := fun _ => .success 0
      resolutions := fun _ => .success 1
      evidence := fun _ => .success 0 }
  pinnedIds := [7]
  pinnedReviewMetadata := []
  humanLaneReasonHash := 77
  now := 9000000

def found : DashboardChainSnapshot where
  configured := true
  status := .ready
  latestBlock := some 50
  lastError := none
  feed := [{ feedRow (normalizeJob 9000 job) none none with lane := some .ai, provenance := some .aiAuto }]
  reviewQueue := []

theorem done : processor.refreshUnsafe = .ok found := by
  have swept : processor.sweepEvents 9 processor.commerce 50 (processor.fromBlock 50) = .ok [] := by
    rw [DashboardSnapshotProcessor.sweepEvents, dif_pos (by decide),
      DashboardSnapshotProcessor.sweepEvents, dif_neg (by decide)]
    rfl
  have feed : buildFeedRows ((OrderedMap.empty.set 7 (normalizeJob 9000 job)).keep fun _ job =>
      decide (job.evaluator = 9)) [] [] = [feedRow (normalizeJob 9000 job) none none] := by
    simp only [buildFeedRows]
    exact List.mergeSort_singleton _
  have read : processor.getJobs [7] = .ok (OrderedMap.empty.set 7 (normalizeJob 9000 job)) := rfl
  have router : processor.routerAddress = some 9 := rfl
  have block : processor.client.getBlockNumber = .ok 50 := rfl
  have pinned : processor.pinnedIds = [7] := rfl
  have ok {α β : Type} (a : α) (f : α → Except RpcFailure β) : (Except.ok a >>= f) = f a := rfl
  have laned : processor.setLanes [] [feedRow (normalizeJob 9000 job) none none] =
      .ok [{ feedRow (normalizeJob 9000 job) none none with lane := some .ai }] := rfl
  have filled : processor.backfillProvenance
      [{ feedRow (normalizeJob 9000 job) none none with lane := some .ai }] = .ok found.feed := rfl
  have queue (jobs : OrderedMap Escrow.Uint256 DashboardJobRecord) :
      processor.buildReviewQueue jobs [] (latestByJob []) found.feed = .ok [] := by
    have nothing : DashboardSnapshotProcessor.candidates [] (latestByJob []) found.feed = [] := rfl
    have none : DashboardSnapshotProcessor.readRouterHexes processor.client.evidence [] =
        .ok .empty := rfl
    simp [DashboardSnapshotProcessor.buildReviewQueue, nothing, none, ok]
  simp only [DashboardSnapshotProcessor.refreshUnsafe, router, block, ok, swept, List.filter_nil,
    List.map_nil, List.nil_append, pinned, read, feed, laned, filled, queue]
  rfl

/-- One refresh fails, the process is started again and the next one succeeds. -/
def path : List ServiceEvent :=
  [.start 1000, .tick 1500, .fails ["HTTP request failed.", "Status: 429"], .restart, .start 2000,
    .succeeds found 9000000]

def reached : Service := (service config).replay {} path

def history : List (Service × ServiceEvent) := (service config).record {} [] path

theorem run : Run (service config) {} history reached :=
  (service config).replay_run .refl path
    ⟨trivial, trivial, rfl, trivial, trivial, ⟨rfl, processor, rfl, done⟩, trivial⟩

end ServiceWalkthrough

open ServiceWalkthrough in
theorem dashboard_served_walkthrough :
    config.getSnapshot reached 9060001 = shown config (attempts history) 9060001 ∧
      (shown config (attempts history) 9060001).status = .stale ∧
      (shown config (attempts history) 9060001).feed.map (·.description) = ["audit"] ∧
      (shown config ((attempts history).drop 1) 1600).lastError = some rateLimitedError :=
  ⟨(dashboard_served run 9060001).1, by decide +kernel, by decide +kernel, by decide +kernel⟩

end VapiArc.Dashboard
