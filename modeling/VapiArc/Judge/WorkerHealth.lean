import VapiArc.Judge.EvidenceAccepted
import VapiArc.Judge.Worker

/-!
# What the health of the worker tells

A pass that succeeds has gone through every block up to the head that it was told, and each pass
goes on where the one before it stopped. So a worker that is healthy has left out no block up to
a head that the chain had lately.
-/
namespace VapiArc.Judge

open Async Checked Transition
open Review (Failure JobSubmitted Timestamp)

section Configuration

variable {lib : JudgeLibrary} {environment : ProcessEnv}

theorem numberWithin_some {least most n : Nat} {raw : String}
    (read : numberWithin least most raw = some n) : least ≤ n ∧ n ≤ most := by
  simp only [numberWithin, Option.filter_eq_some_iff, decide_eq_true_eq] at read
  exact read.2

theorem readReadinessMaxAge_ok {maxAge : Nat} (read : readReadinessMaxAge environment = .ok maxAge) :
    1000 ≤ maxAge ∧ maxAge ≤ 1800000 := by
  unfold readReadinessMaxAge at read
  split at read
  next =>
    cases read
    decide
  next => exact numberWithin_some ((demand_ok _ _ _).mp read)

theorem loadJudgeWorkerConfig_ok {config : JudgeWorkerConfig}
    (loaded : loadJudgeWorkerConfig lib environment = .ok config) :
    1000 ≤ config.readinessMaxAgeMs ∧ config.readinessMaxAgeMs ≤ 1800000 := by
  simp only [loadJudgeWorkerConfig, bind_ok] at loaded
  obtain ⟨_, -, loaded⟩ := loaded
  split at loaded
  next given =>
    cases loaded
    exact readReadinessMaxAge_ok given
  next => cases loaded

/-- Whatever the environment is, a process that starts takes a pass for recent for half an hour
at most. -/
theorem JudgeProcess.boot_ok {process : JudgeProcess} (started : boot lib environment = .ok process) :
    process.readiness.maxAgeMs ≤ 1800000 ∧ process.readiness.lastSuccessfulPollAt = none ∧
      process.readiness.shuttingDown = false ∧ process.stopping = false := by
  simp only [boot, JudgeReadiness.create, bind_ok, pure_ok] at started
  obtain ⟨config, loaded, _, ⟨_, -, rfl⟩, rfl⟩ := started
  simpa using (loadJudgeWorkerConfig_ok loaded).2

end Configuration

section Passes

/-- The first of all passes has found this cursor, or finds it yet. -/
def WatcherStore.Begun (first : ℤ) (s : WatcherStore) : Prop :=
  s.passes.getLast?.elim (s.nextBlock = some first) fun oldest => oldest.found = some first

/-- The newest pass was told this head, has gone through the blocks before this one and has asked
for the logs of these ranges. -/
def WatcherStore.Passing (older : List Pass) (latestBlock reached : ℤ) (ranges : List (ℤ × ℤ))
    (s : WatcherStore) : Prop :=
  ∃ pass, s.passes = pass :: older ∧ pass.latestBlock = latestBlock ∧ pass.reached = reached ∧
    ranges ⊆ pass.queried

/-- The newest pass has gone through everything up to the head that it was told. -/
def WatcherStore.Complete (older : List Pass) (s : WatcherStore) : Prop :=
  ∃ pass, s.passes = pass :: older ∧ pass.latestBlock < pass.reached

variable {options : WatcherOptions} {α : Type} {s : WatcherStore} {first latestBlock fromBlock toBlock : ℤ}
  {older : List Pass} {newest : Pass} {ranges : List (ℤ × ℤ)}

/-- While a pass goes on, the passes before it stay as they are. -/
def pollContract (first : ℤ) (older : List Pass) : Contract WatcherStore WatcherRequest :=
  { watcherContract with invariant := fun s => s.Kept ∧ s.Begun first ∧ older <:+ s.passes }

abbrev Polls (options : WatcherOptions) (first : ℤ) (older : List Pass) (P : WatcherStore → Prop)
    (x : Watcher α) (Q : α → WatcherStore → Prop) : Prop :=
  Triple (worker options) (pollContract first older) P x Q fun _ _ => True

theorem lasts (P : WatcherStore → Prop) : Stable (pollContract first older) P := by
  intro s s' holds same _
  cases same
  exact holds

/-- The ranges that a request asks for. -/
def asked : WatcherRequest → List (ℤ × ℤ)
  | .getLogs fromBlock toBlock => [(fromBlock, toBlock)]
  | _ => []

theorem WatcherStore.Passing.within (here : s.Passing older latestBlock fromBlock ranges)
    (member : (fromBlock, toBlock) ∈ ranges) : s.In fromBlock toBlock := by
  obtain ⟨pass, passes, -, reached, queried⟩ := here
  exact ⟨pass, by simp [passes], reached, queried member⟩

theorem WatcherStore.noted_passes {pass : Pass} {f : Pass → Pass} (passes : s.passes = pass :: older) :
    (s.noted f).passes = f pass :: older := by
  simp [WatcherStore.noted, passes]

theorem WatcherStore.Passing.issue (here : s.Passing older latestBlock fromBlock ranges)
    (request : WatcherRequest) :
    (s.issue request).Passing older latestBlock fromBlock (asked request ++ ranges) := by
  obtain ⟨pass, passes, head, reached, queried⟩ := here
  -- a request is noted in the newest pass, apart from the one for the head
  cases request with
  | getBlockNumber => exact ⟨pass, passes, head, reached, queried⟩
  | getLogs => exact ⟨_, noted_passes passes, head, reached, List.cons_subset_cons _ queried⟩
  | getJob => exact ⟨_, noted_passes passes, head, reached, queried⟩
  | resolutions => exact ⟨_, noted_passes passes, head, reached, queried⟩
  | processJob => exact ⟨_, noted_passes passes, head, reached, queried⟩

/-- A note on the newest pass that leaves alone what it found. -/
theorem WatcherStore.Begun.noted {f : Pass → Pass} (begun : s.Begun first)
    (same : ∀ pass, (f pass).found = pass.found) : (s.noted f).Begun first := by
  obtain ⟨nextBlock, passes⟩ := s
  cases passes with
  | nil => exact begun
  | cons pass rest =>
    cases rest with
    | nil => simpa [Begun, WatcherStore.noted, same] using begun
    | cons => simpa [Begun, WatcherStore.noted] using begun

theorem WatcherStore.Begun.issue (begun : s.Begun first) (request : WatcherRequest) :
    (s.issue request).Begun first := by
  cases request with
  | getBlockNumber => exact begun
  | getLogs => exact begun.noted fun _ => rfl
  | getJob => exact begun.noted fun _ => rfl
  | resolutions => exact begun.noted fun _ => rfl
  | processJob => exact begun.noted fun _ => rfl

theorem WatcherStore.Begun.started (begun : s.Begun first) (latestBlock : ℤ) :
    (s.started latestBlock).Begun first := by
  obtain ⟨nextBlock, passes⟩ := s
  cases passes with
  | nil => exact begun
  | cons pass rest =>
    simpa only [Begun, WatcherStore.started, List.getLast?_cons_cons] using begun

theorem WatcherStore.Begun.checkpoint (begun : s.Begun first) (passes : s.passes = newest :: older)
    (nextBlock : ℤ) : (s.checkpoint nextBlock).Begun first := by
  obtain ⟨cursor, recorded⟩ := s
  cases passes
  have noted := begun.noted (f := fun pass => { pass with reached := nextBlock, failed := none })
    fun _ => rfl
  cases older with
  | nil => exact noted
  | cons => exact noted

end Passes

section Routines

variable {options : WatcherOptions} {α : Type} {s s' : WatcherStore} {older : List Pass}
  {first latestBlock fromBlock toBlock : ℤ} {ranges : List (ℤ × ℤ)}

/-- A request of a pass leaves the passes before it as they are. -/
theorem issue_polls {request : WatcherRequest}
    (kept : (pollContract first older).invariant s)
    (here : s.Passing older latestBlock fromBlock ranges)
    (ahead : ∀ job, request = .processJob job →
      ∃ toBlock, (fromBlock, toBlock) ∈ ranges ∧ fromBlock ≤ job.submittedAtBlock) :
    (pollContract first older).invariant (s.issue request) := by
  obtain ⟨sound, begun, -⟩ := kept
  refine ⟨sound.issue fun job same => ?_, begun.issue request, ?_⟩
  · obtain ⟨toBlock, member, later⟩ := ahead job same
    exact ⟨fromBlock, toBlock, here.within member, later⟩
  · obtain ⟨pass, passes, -⟩ := here.issue request
    rw [passes]
    exact List.suffix_cons pass older

theorem await_polls {request : WatcherRequest}
    (ahead : ∀ job, request = .processJob job →
      ∃ toBlock, (fromBlock, toBlock) ∈ ranges ∧ fromBlock ≤ job.submittedAtBlock) :
    Polls options first older (fun s => s.Passing older latestBlock fromBlock ranges)
      (.await request) fun reply s => watcherAnswers request s (.ok reply) ∧
        s.Passing older latestBlock fromBlock (asked request ++ ranges) := by
  apply Triple.await_
  · exact lasts _
  · intro s here kept
    exact ⟨trivial, issue_polls kept here ahead⟩
  · intros
    trivial
  · intro s s' here _ same _ reply given
    cases same
    exact ⟨given, here.issue request⟩
  · intros
    trivial

theorem ask_polls {request : WatcherRequest} {expected : WatcherReply → Option α}
    (reads : ∀ job, request ≠ .processJob job) {told : α → Prop}
    (answered : ∀ s reply a, watcherAnswers request s (.ok reply) → expected reply = some a → told a) :
    Polls options first older (fun s => s.Passing older latestBlock fromBlock ranges)
      (Watcher.ask request expected) fun a s =>
        told a ∧ s.Passing older latestBlock fromBlock (asked request ++ ranges) := by
  apply Triple.bind_ (await_polls fun job same => absurd same (reads job))
  intro reply
  cases found : expected reply with
  | none =>
    apply Triple.throw_
    intros
    trivial
  | some a =>
    apply Triple.pure_
    intro s ⟨given, here⟩
    exact ⟨answered s reply a given found, here⟩

theorem getLogs_polls :
    Polls options first older (fun s => s.Passing older latestBlock fromBlock [])
      (Watcher.getLogs fromBlock toBlock) fun logs s =>
        (∀ log ∈ logs, fromBlock ≤ log.blockNumber) ∧
          s.Passing older latestBlock fromBlock [(fromBlock, toBlock)] := by
  apply ask_polls
  · intro job same
    cases same
  · intro s reply logs given found
    cases reply with
    | logs listed =>
      cases found
      intro log member
      exact (given log member).1
    | blockNumber => cases found
    | job => cases found
    | resolution => cases found
    | processed => cases found

/-- The calls that read a job say nothing of the pass. -/
theorem read_polls {request : WatcherRequest} {expected : WatcherReply → Option α}
    (reads : ∀ job, request ≠ .processJob job) (quiet : asked request = []) :
    Polls options first older (fun s => s.Passing older latestBlock fromBlock ranges)
      (Watcher.ask request expected) fun _ s => s.Passing older latestBlock fromBlock ranges := by
  have spoken : Polls options first older (fun s => s.Passing older latestBlock fromBlock ranges)
      (Watcher.ask request expected) fun _ s =>
        True ∧ s.Passing older latestBlock fromBlock (asked request ++ ranges) :=
    ask_polls reads fun _ _ _ _ _ => trivial
  rw [quiet] at spoken
  exact spoken.weaken (fun _ => id) (fun _ _ holds => holds.2) fun _ _ => id

theorem safelyProcessJob_polls {job : SubmittedJob} (member : (fromBlock, toBlock) ∈ ranges)
    (ahead : fromBlock ≤ job.submittedAtBlock) :
    Polls options first older (fun s => s.Passing older latestBlock fromBlock ranges)
      (Watcher.safelyProcessJob job) fun consumed s =>
        consumed = true → s.Passing older latestBlock fromBlock ranges := by
  apply Triple.tryCatch_ (M := fun _ _ => True)
  · apply Triple.bind_ (M := fun _ s => s.Passing older latestBlock fromBlock ranges)
    · apply Triple.bind_ (await_polls fun other same => ?_)
      · intro _
        apply Triple.pure_
        intro _ holds
        exact holds.2
      · cases same
        exact ⟨toBlock, member, ahead⟩
    · intro _
      apply Triple.pure_
      intro _ here _
      exact here
  · intro _
    apply Triple.pure_
    intro _ _ consumed
    cases consumed

theorem yieldJobs_polls {logs : List JobSubmitted} (member : (fromBlock, toBlock) ∈ ranges)
    (ahead : ∀ log ∈ logs, fromBlock ≤ log.blockNumber) :
    Polls options first older (fun s => s.Passing older latestBlock fromBlock ranges)
      (Watcher.yieldJobs options logs) fun consumed s =>
        consumed = true → s.Passing older latestBlock fromBlock ranges := by
  induction logs with
  | nil =>
    apply Triple.pure_
    intro _ here _
    exact here
  | cons log logs ih =>
    have rest := ih fun log member => ahead log (List.mem_cons_of_mem _ member)
    apply Triple.bind_ (read_polls (fun _ same => by cases same) rfl)
    intro job
    split
    next => exact rest
    split
    next => exact rest
    apply Triple.bind_ (read_polls (fun _ same => by cases same) rfl)
    intro resolution
    split
    next => exact rest
    apply Triple.bind_ (safelyProcessJob_polls member (ahead log List.mem_cons_self))
    intro consumed
    cases consumed with
    | true => exact rest.weaken (fun _ here => here rfl) (fun _ _ => id) fun _ _ => id
    | false =>
      apply Triple.pure_
      intro _ _ consumed
      cases consumed

theorem writeNextBlock_polls (more : fromBlock ≤ toBlock) :
    Polls options first older
      (fun s => s.Passing older latestBlock fromBlock [(fromBlock, toBlock)])
      (Watcher.writeNextBlock (toBlock + 1)) fun _ s =>
        s.Passing older latestBlock (toBlock + 1) [] := by
  apply Triple.transaction_ (lasts _)
  · intro s here kept disk _ _ s' done
    cases disk with
    | error => cases done
    | ok =>
      cases done
      obtain ⟨sound, begun, -⟩ := kept
      obtain ⟨pass, passes, head, reached, queried⟩ := here
      have within : s.In fromBlock toBlock :=
        ⟨pass, by simp [passes], reached, queried List.mem_cons_self⟩
      have noted : (s.checkpoint (toBlock + 1)).passes = _ :: older :=
        WatcherStore.noted_passes passes
      refine ⟨trivial, ⟨sound.checkpoint within more, begun.checkpoint passes _, ?_⟩, ?_⟩
      · rw [noted]
        exact List.suffix_cons _ older
      · exact ⟨_, noted, head, rfl, List.nil_subset _⟩
  · intros
    trivial

theorem scanBlocks_polls (positive : 1 ≤ options.blockRange) :
    Polls options first older (fun s => s.Passing older latestBlock fromBlock [])
      (Watcher.scanBlocks options positive fromBlock latestBlock) fun succeeded s =>
        succeeded = true → s.Complete older := by
  induction fromBlock using Watcher.scanBlocks.induct options positive latestBlock with
  | case1 fromBlock more toBlock ih =>
    rw [Watcher.scanBlocks, dif_pos more]
    have inside := Watcher.le_rangeEnd positive more
    apply Triple.bind_ getLogs_polls
    intro logs
    apply Triple.known fun _ here => here.1
    intro ahead
    apply Triple.bind_ ((yieldJobs_polls List.mem_cons_self ahead).weaken (fun _ here => here.2)
      (fun _ _ => id) fun _ _ => id)
    intro consumed
    cases consumed with
    | true =>
      apply Triple.bind_ ((writeNextBlock_polls inside).weaken (fun _ here => here rfl) (fun _ _ => id)
        fun _ _ => id)
      intro _
      exact ih
    | false =>
      apply Triple.pure_
      intro _ _ succeeded
      cases succeeded
  | case2 fromBlock less =>
    rw [Watcher.scanBlocks, dif_neg less]
    apply Triple.pure_
    -- nothing is left of the blocks up to the head
    intro s here _
    obtain ⟨pass, passes, head, reached, -⟩ := here
    refine ⟨pass, passes, ?_⟩
    rw [head, reached]
    exact Int.not_le.mp less

theorem readNextBlock_polls :
    Polls options first older (fun s => s.passes = older) (Watcher.readNextBlock latestBlock)
      fun found s => s.Passing older latestBlock (found.getD latestBlock) [] := by
  apply Triple.transaction_ (lasts _)
  · intro s here kept disk _ found s' done
    cases disk with
    | error => cases done
    | ok =>
      cases done
      obtain ⟨sound, begun, -⟩ := kept
      have passes : (s.started latestBlock).passes = _ :: s.passes := rfl
      rw [here] at passes
      refine ⟨trivial, ⟨sound.started latestBlock, begun.started latestBlock, ?_⟩, ?_⟩
      · rw [passes]
        exact List.suffix_cons _ older
      · exact ⟨_, passes, rfl, rfl, List.nil_subset _⟩
  · intros
    trivial

theorem getBlockNumber_polls :
    Polls options first older (fun s => s.passes = older) Watcher.getBlockNumber
      fun _ s => s.passes = older := by
  apply Triple.bind_ (M := fun _ s => s.passes = older)
  · apply Triple.await_
    · exact lasts _
    · intro s here kept
      exact ⟨trivial, kept⟩
    · intros
      trivial
    · intro s s' here _ same _ _ _
      cases same
      exact here
    · intros
      trivial
  · intro reply
    split
    next =>
      apply Triple.pure_
      intro _ here
      exact here
    next =>
      apply Triple.throw_
      intros
      trivial

theorem processAvailableJobs_polls :
    Polls options first older (fun s => s.passes = older) (Watcher.processAvailableJobs options)
      fun succeeded s => succeeded = true → s.Complete older := by
  unfold Watcher.processAvailableJobs
  split
  next =>
    apply Triple.throw_
    intros
    trivial
  next =>
    apply Triple.bind_ getBlockNumber_polls
    intro latestBlock
    apply Triple.bind_ readNextBlock_polls
    intro found
    exact scanBlocks_polls _

end Routines

section Coverage

variable {options : WatcherOptions} {s s' : WatcherStore} {first : ℤ} {pass : Pass} {older : List Pass}

theorem not_begun (first : ℤ) : ¬ (pollContract first older).invariant {} := by
  rintro ⟨-, begun, -⟩
  cases begun

theorem CutOff.polls (kept : s.Kept) (begun : s.Begun first)
    (cut : CutOff (worker options) (Watcher.processAvailableJobs options) s s') :
    s'.Kept ∧ s'.Begun first ∧ s.passes <:+ s'.passes :=
  processAvailableJobs_polls.cutOff rfl ⟨kept, begun, List.suffix_refl _⟩ cut

/-- A pass that succeeds has gone through everything up to the head that it was told. -/
theorem Ends.complete (kept : s.Kept) (begun : s.Begun first)
    (ends : Ends (worker options) (Watcher.processAvailableJobs options) s (.ok true) s') :
    s'.Complete s.passes := by
  have ended := processAvailableJobs_polls.ends (fun _ => lasts _) (not_begun first)
    (fun _ => ⟨.ok (), trivial⟩) rfl ⟨kept, begun, List.suffix_refl _⟩ ends
  exact ended.2 rfl

/-- Each of the passes goes on where the one before it stopped. -/
theorem scanned_of_linked
    (linked : (pass :: older).IsChain fun pass previous => previous.Saved pass.found)
    (sound : ∀ p ∈ pass :: older, p.Sound)
    (oldest : ∀ p ∈ (pass :: older).getLast?, p.found = some first) :
    pass.found ≠ none ∧ ∀ block, first ≤ block → block < pass.reached →
      ∃ p ∈ pass :: older, p.Scanned block := by
  induction older generalizing pass with
  | nil =>
    have found : pass.found = some first := oldest pass rfl
    constructor
    · simp [found]
    · intro block after before
      have start : pass.start = first := by simp [Pass.start, found]
      have ranges := (sound pass List.mem_cons_self).scanned block (start ▸ after) before
      exact ⟨pass, List.mem_cons_self, before, ranges⟩
  | cons previous older ih =>
    rw [List.isChain_cons_cons] at linked
    obtain ⟨some_, covered⟩ := ih linked.2 (fun p member => sound p (List.mem_cons_of_mem _ member))
      fun p last => oldest p (by simpa using last)
    -- the pass before it has left a cursor
    rcases linked.1 with found | ⟨-, none_, -⟩
    · constructor
      · simp [found]
      · intro block after before
        by_cases earlier : block < previous.reached
        · obtain ⟨p, member, scanned⟩ := covered block after earlier
          exact ⟨p, List.mem_cons_of_mem _ member, scanned⟩
        · have start : pass.start = previous.reached := by simp [Pass.start, found]
          have ranges := (sound pass List.mem_cons_self).scanned block
            (start ▸ Int.not_lt.mp earlier) before
          exact ⟨pass, List.mem_cons_self, before, ranges⟩
    · exact absurd none_ some_

/-- What the passes up to one of them have gone through. -/
theorem WatcherStore.Kept.scanned (kept : s.Kept) (begun : s.Begun first)
    (suffix : pass :: older <:+ s.passes) :
    ∀ block, first ≤ block → block < pass.reached → ∃ p ∈ s.passes, p.Scanned block := by
  have linked := kept.linked.suffix suffix
  have sound (p : Pass) (member : p ∈ pass :: older) : p.Sound := kept.sound p (suffix.mem member)
  have oldest (p : Pass) (last : p ∈ (pass :: older).getLast?) : p.found = some first := by
    obtain ⟨newer, passes⟩ := suffix
    have same : s.passes.getLast? = some p := by
      rw [← passes, List.getLast?_append, Option.mem_def.mp last]
      rfl
    simpa [Begun, same] using begun
  intro block after before
  obtain ⟨p, member, scanned⟩ := (scanned_of_linked linked sound oldest).2 block after before
  exact ⟨p, suffix.mem member, scanned⟩

end Coverage

section Runs

variable {lib : JudgeLibrary} {options : WatcherOptions} {first : ℤ} {w w' start : JudgeWorker}
  {history : List (JudgeWorker × WorkerEvent)} {entry : JudgeWorker × WorkerEvent}
  {process process' : JudgeProcess} {endedAt now : Timestamp} {pass : Pass}

/-- What has happened since a process was started the last time, the newest event first. -/
def sinceBoot : List (JudgeWorker × WorkerEvent) → List (JudgeWorker × WorkerEvent)
  | [] => []
  | (_, .boot _) :: _ => []
  | entry :: earlier => entry :: sinceBoot earlier

/-- A pass of this process has succeeded at this time, and its record is among those of the files. -/
def Succeeded (history : List (JudgeWorker × WorkerEvent)) (w : JudgeWorker) (endedAt : Timestamp)
    (pass : Pass) : Prop :=
  ∃ before files, (before, WorkerEvent.polled (.ok true) files endedAt) ∈ sinceBoot history ∧
    files.passes = pass :: before.files.passes ∧ pass.latestBlock < pass.reached ∧
    files.passes <:+ w.files.passes

/-- A process that is to stop says so. -/
def JudgeProcess.Flagged (process : JudgeProcess) : Prop :=
  process.stopping = true → process.readiness.shuttingDown = true

theorem JudgeProcess.Flagged.requestShutdown (flagged : process.Flagged) :
    process.requestShutdown.stopping = true ∧
      process.requestShutdown.readiness.shuttingDown = true := by
  unfold JudgeProcess.requestShutdown
  split
  next already => exact ⟨already, flagged already⟩
  next => exact ⟨rfl, rfl⟩

theorem JudgeProcess.polled_shuttingDown (succeeded : Except Failure Bool) :
    (process.polled succeeded now).readiness.shuttingDown = process.readiness.shuttingDown := by
  unfold JudgeProcess.polled
  split <;> rfl

theorem judgeWorker_flagged {files : WatcherStore}
    (run : Run (judgeWorker lib options) ⟨files, none⟩ history w) :
    ∀ process ∈ w.process, process.Flagged := by
  apply run.invariant fun w => ∀ process ∈ w.process, process.Flagged
  · exact fun _ none_ => by cases none_
  · intro w event flagged admitted
    cases event with
    | boot environment =>
      simp only [judgeWorker, JudgeWorker.step]
      split
      next process _ started =>
        intro _ same stopping
        cases same
        rw [(JudgeProcess.boot_ok started).2.2.2] at stopping
        cases stopping
      next => exact flagged
    | signal =>
      intro process' same _
      obtain ⟨process, running, rfl⟩ := Option.mem_map.mp same
      exact (flagged process running).requestShutdown.2
    | polled succeeded files now =>
      intro process' same stopping
      obtain ⟨process, running, rfl⟩ := Option.mem_map.mp same
      rw [JudgeProcess.polled_shuttingDown]
      exact flagged process running stopping
    | woken =>
      intro process' same
      obtain ⟨process, running, rfl⟩ := Option.mem_map.mp same
      unfold JudgeProcess.woken
      split
      next => exact fun _ => rfl
      next => exact flagged process running
    | killed files => exact fun _ none_ => by cases none_

/-- What the variables of a process tell. -/
structure Informed (history : List (JudgeWorker × WorkerEvent)) (w : JudgeWorker)
    (process : JudgeProcess) : Prop where
  maxAgeMs : process.readiness.maxAgeMs ≤ 1800000
  unsignalled : process.readiness.shuttingDown = false →
    ∀ entry ∈ sinceBoot history, entry.2 ≠ .signal
  succeeded : ∀ endedAt ∈ process.readiness.lastSuccessfulPollAt,
    ∃ pass, Succeeded history w endedAt pass

structure JudgeWorker.Sound (first : ℤ) (history : List (JudgeWorker × WorkerEvent))
    (w : JudgeWorker) : Prop where
  kept : w.files.Kept
  begun : w.files.Begun first
  informed : ∀ process ∈ w.process, Informed history w process

theorem Succeeded.later (succeeded : Succeeded history w endedAt pass)
    (since : sinceBoot (entry :: history) = entry :: sinceBoot history)
    (files : w.files.passes <:+ w'.files.passes) : Succeeded (entry :: history) w' endedAt pass := by
  obtain ⟨before, left, member, passes, complete, recorded⟩ := succeeded
  refine ⟨before, left, ?_, passes, complete, recorded.trans files⟩
  rw [since]
  exact List.mem_cons_of_mem entry member

/-- A step that is no signal, and at which no pass succeeds. -/
theorem Informed.later (informed : Informed history w process)
    (since : sinceBoot (entry :: history) = entry :: sinceBoot history) (quiet : entry.2 ≠ .signal)
    (files : w.files.passes <:+ w'.files.passes)
    (maxAgeMs : process'.readiness.maxAgeMs = process.readiness.maxAgeMs)
    (open_ : process'.readiness.shuttingDown = false → process.readiness.shuttingDown = false)
    (last : process'.readiness.lastSuccessfulPollAt = process.readiness.lastSuccessfulPollAt) :
    Informed (entry :: history) w' process' := by
  refine ⟨maxAgeMs ▸ informed.maxAgeMs, ?_, ?_⟩
  · intro up
    rw [since]
    exact List.forall_mem_cons.mpr ⟨quiet, informed.unsignalled (open_ up)⟩
  · rw [last]
    intro endedAt member
    obtain ⟨pass, succeeded⟩ := informed.succeeded endedAt member
    exact ⟨pass, succeeded.later since files⟩

/-- What is known of a process that has just been started. -/
theorem JudgeProcess.boot_informed {environment : ProcessEnv}
    (started : boot lib environment = .ok process) :
    Informed ((w, .boot environment) :: history) w' process := by
  obtain ⟨maxAgeMs, none_, -, -⟩ := boot_ok started
  refine ⟨maxAgeMs, ?_, ?_⟩
  · intro _ entry member
    cases member
  · simp [none_]

/-- A process that is signalled says so from then on. -/
theorem Informed.signalled (informed : Informed history w process) (flagged : process.Flagged)
    (files : w.files.passes <:+ w'.files.passes) :
    Informed ((w, .signal) :: history) w' process.requestShutdown := by
  refine ⟨?_, ?_, ?_⟩
  · unfold JudgeProcess.requestShutdown
    split <;> exact informed.maxAgeMs
  · intro up
    rw [flagged.requestShutdown.2] at up
    cases up
  · intro endedAt member
    have same : process.requestShutdown.readiness.lastSuccessfulPollAt =
        process.readiness.lastSuccessfulPollAt := by
      unfold JudgeProcess.requestShutdown
      split <;> rfl
    rw [same] at member
    obtain ⟨pass, succeeded⟩ := informed.succeeded endedAt member
    exact ⟨pass, succeeded.later rfl files⟩

/-- A pass ends; what it has done is known if it has succeeded. -/
theorem Informed.polled {succeeded : Except Failure Bool} {files : WatcherStore}
    (informed : Informed history w process) (kept : w.files.Kept) (begun : w.files.Begun first)
    (ends : Ends (worker options) (Watcher.processAvailableJobs options) w.files succeeded files)
    (later : w.files.passes <:+ files.passes) :
    Informed ((w, .polled succeeded files now) :: history) ⟨files, some (process.polled succeeded now)⟩
      (process.polled succeeded now) := by
  by_cases yes : succeeded = .ok true
  · subst yes
    obtain ⟨pass, passes, complete⟩ := Ends.complete kept begun ends
    refine ⟨informed.maxAgeMs, ?_, ?_⟩
    · intro up
      exact List.forall_mem_cons.mpr ⟨by simp, informed.unsignalled up⟩
    · intro endedAt member
      cases member
      exact ⟨pass, w, files, List.mem_cons_self, passes, complete, List.suffix_refl _⟩
  · have same : (process.polled succeeded now).readiness = process.readiness := by
      unfold JudgeProcess.polled
      split
      next => exact absurd rfl yes
      next => rfl
    apply informed.later rfl (by simp) later
    · rw [same]
    · rw [same]
      exact id
    · rw [same]

theorem Informed.woken (informed : Informed history w process)
    (files : w.files.passes <:+ w'.files.passes) :
    Informed ((w, .woken) :: history) w' process.woken := by
  have quiet : ((w, .woken) : JudgeWorker × WorkerEvent).2 ≠ .signal := fun same => by cases same
  unfold JudgeProcess.woken
  split
  next => exact informed.later rfl quiet files rfl (fun up => by cases up) rfl
  next => exact informed.later rfl quiet files rfl id rfl

theorem JudgeWorker.Sound.step {event : WorkerEvent} (sound : w.Sound first history)
    (flagged : ∀ process ∈ w.process, process.Flagged)
    (admitted : (judgeWorker lib options).admits w event) :
    ((judgeWorker lib options).next w event).Sound first ((w, event) :: history) := by
  obtain ⟨kept, begun, informed⟩ := sound
  obtain ⟨files, processes⟩ := w
  cases event with
  | boot environment =>
    cases admitted
    simp only [judgeWorker, JudgeWorker.step]
    cases started : JudgeProcess.boot lib environment with
    | error => exact ⟨kept, begun, fun _ none_ => by cases none_⟩
    | ok process =>
      refine ⟨kept, begun, fun _ same => ?_⟩
      cases same
      exact JudgeProcess.boot_informed started
  | signal =>
    refine ⟨kept, begun, fun process' same => ?_⟩
    obtain ⟨process, running, rfl⟩ := Option.mem_map.mp same
    cases running
    exact (informed process rfl).signalled (flagged process rfl) (List.suffix_refl _)
  | polled succeeded left now =>
    obtain ⟨-, ends⟩ := admitted
    obtain ⟨kept', begun', later⟩ := CutOff.polls kept begun ends.cutOff
    refine ⟨kept', begun', fun process' same => ?_⟩
    obtain ⟨process, running, rfl⟩ := Option.mem_map.mp same
    cases running
    exact (informed process rfl).polled kept begun ends later
  | woken =>
    refine ⟨kept, begun, fun process' same => ?_⟩
    obtain ⟨process, running, rfl⟩ := Option.mem_map.mp same
    cases running
    exact (informed process rfl).woken (List.suffix_refl _)
  -- a pass that is cut off may have saved the cursor, and no process remembers it
  | killed left =>
    rcases admitted with rfl | ⟨-, cut⟩
    · exact ⟨kept, begun, fun _ none_ => by cases none_⟩
    · obtain ⟨kept', begun', -⟩ := CutOff.polls kept begun cut
      exact ⟨kept', begun', fun _ none_ => by cases none_⟩

theorem handleHealthRequest_ok {readiness : JudgeReadiness} {url : Option String} {method : String}
    (healthy : (handleHealthRequest readiness now url method).statusCode = 200) :
    readiness.shuttingDown = false ∧
      ∃ endedAt ∈ readiness.lastSuccessfulPollAt, now ≤ endedAt + readiness.maxAgeMs := by
  unfold handleHealthRequest at healthy
  split at healthy
  · cases healthy
  split at healthy
  · cases healthy
  obtain ⟨maxAgeMs, last, down⟩ := readiness
  cases down with
  | true => simp [JudgeReadiness.snapshot] at healthy
  | false =>
    cases last with
    | none => simp [JudgeReadiness.snapshot] at healthy
    | some endedAt =>
      refine ⟨rfl, endedAt, rfl, ?_⟩
      have fresh : now - endedAt ≤ maxAgeMs := by
        by_contra stale
        simp [JudgeReadiness.snapshot, stale] at healthy
      exact Nat.sub_le_iff_le_add'.mp fresh

/-- The end of a pass. -/
def WorkerEvent.isPolled : WorkerEvent → Bool
  | .polled _ _ _ => true
  | _ => false

/-- The passes that have ended. -/
def polls (history : List (JudgeWorker × WorkerEvent)) : Nat :=
  history.countP fun entry => entry.2.isPolled

/-- The passes that a process which is to stop may still end. -/
def JudgeWorker.left (w : JudgeWorker) : Nat :=
  match w.process with
  | some process => if process.phase = .polling then 1 else 0
  | none => 0

/-- The process is to stop, if there is one, and makes no more passes than this. -/
structure Draining (few : Nat) (later : List (JudgeWorker × WorkerEvent)) (w : JudgeWorker) :
    Prop where
  stops : ∀ process ∈ w.process, process.stopping = true ∧ process.readiness.shuttingDown = true
  less : polls later + w.left ≤ few

theorem Draining.step {few : Nat} {later : List (JudgeWorker × WorkerEvent)} {event : WorkerEvent}
    (draining : Draining few later w) (admitted : (judgeWorker lib options).admits w event)
    (unbooted : ∀ environment, event ≠ .boot environment) :
    Draining few ((w, event) :: later) ((judgeWorker lib options).next w event) := by
  obtain ⟨stops, less⟩ := draining
  obtain ⟨files, processes⟩ := w
  cases event with
  | boot environment => exact absurd rfl (unbooted environment)
  | signal =>
    cases processes with
    | none => exact ⟨(fun _ none_ => by cases none_), less⟩
    | some process =>
      obtain ⟨stopping, down⟩ := stops process rfl
      have same : process.requestShutdown = process := if_pos stopping
      have next : (judgeWorker lib options).next ⟨files, some process⟩ .signal =
          ⟨files, some process⟩ := by
        simp only [judgeWorker, JudgeWorker.step, Option.map_some, same]
      rw [next]
      exact ⟨stops, less⟩
  | polled succeeded left now =>
    obtain ⟨⟨process, running, phase⟩, -⟩ := admitted
    cases running
    refine ⟨?_, ?_⟩
    · intro _ same
      cases same
      rw [JudgeProcess.polled_shuttingDown]
      exact stops process rfl
    · -- it was the one pass that was under way
      simp only [JudgeWorker.left, phase, if_true] at less
      simpa [polls, WorkerEvent.isPolled, JudgeWorker.left, judgeWorker, JudgeWorker.step,
        JudgeProcess.polled] using less
  | woken =>
    obtain ⟨process, running, phase⟩ := admitted
    cases running
    obtain ⟨stopping, down⟩ := stops process rfl
    have next : process.woken =
        { process with phase := .stopped, readiness := process.readiness.markShuttingDown } :=
      if_pos stopping
    refine ⟨?_, ?_⟩
    · intro _ same
      cases same
      rw [next]
      exact ⟨stopping, rfl⟩
    · simp only [JudgeWorker.left, phase] at less
      simpa [polls, WorkerEvent.isPolled, JudgeWorker.left, judgeWorker, JudgeWorker.step, next]
        using less
  | killed left => exact ⟨(fun _ none_ => by cases none_), (Nat.le_add_right _ _).trans less⟩

/-- A process that gets a signal ends the pass that is under way, if one is, and makes no other one;
until a process is started again, nobody is told that the worker is healthy. -/
theorem shutdown_drains {files : WatcherStore} {before : JudgeWorker}
    {earlier later : List (JudgeWorker × WorkerEvent)}
    (run : Run (judgeWorker lib options) ⟨files, none⟩ (later ++ (before, .signal) :: earlier) w)
    (unbooted : ∀ entry ∈ later, ∀ environment, entry.2 ≠ .boot environment) :
    polls later ≤ before.left ∧
      ∀ now url method response, w.health now url method = some response →
        response.statusCode ≠ 200 := by
  obtain ⟨start, -, after⟩ := run.cut
  -- the shutdown is requested, and the flag is never taken back
  have flagged := judgeWorker_flagged start
  have draining : Draining before.left later w := by
    refine after.historyInvariant (fun later w =>
      (∀ entry ∈ later, ∀ environment, entry.2 ≠ .boot environment) → Draining before.left later w)
      ?_ ?_ unbooted
    · intro _
      obtain ⟨left, processes⟩ := before
      refine ⟨?_, ?_⟩
      · intro process' same
        obtain ⟨process, running, rfl⟩ := Option.mem_map.mp same
        exact (flagged process running).requestShutdown
      · cases processes with
        | none => exact Nat.le_refl _
        | some process =>
          have phase : process.requestShutdown.phase = process.phase := by
            unfold JudgeProcess.requestShutdown
            split <;> rfl
          simp [polls, JudgeWorker.left, judgeWorker, JudgeWorker.step, phase]
    · intro history w event _ ih admitted unbooted
      exact (ih fun entry member => unbooted entry (List.mem_cons_of_mem _ member)).step admitted
        (unbooted _ List.mem_cons_self)
  constructor
  · exact (Nat.le_add_right _ _).trans draining.less
  · intro now url method response answered healthy
    obtain ⟨process, running, rfl⟩ := Option.map_eq_some_iff.mp answered
    obtain ⟨up, -⟩ := handleHealthRequest_ok healthy
    rw [(draining.stops process running).2] at up
    cases up

end Runs

theorem judgeWorker_boot {lib : JudgeLibrary} {options : WatcherOptions} {files : WatcherStore}
    {environment : ProcessEnv} {process : JudgeProcess}
    (started : JudgeProcess.boot lib environment = .ok process) :
    (judgeWorker lib options).next ⟨files, none⟩ (.boot environment) = ⟨files, some process⟩ := by
  simp only [judgeWorker, JudgeWorker.step, started]

namespace WorkerWalkthrough

def environment : ProcessEnv := fun name =>
  if name = "PORT" then some "8080" else EvidenceWalkthrough.environment "judge" name

def options : WatcherOptions := { routerAddress := 90 }

def process : JudgeProcess where
  port := 8080
  readiness := { maxAgeMs := 300000 }

theorem live : validateLiveJudgeEnvironment EvidenceWalkthrough.library environment = .ok () := by
  have elsewhere {name : String} (other : name ≠ "PORT") :
      environment name = EvidenceWalkthrough.environment "judge" name :=
    if_neg other
  have same : liveJudgeIssues EvidenceWalkthrough.library environment =
      liveJudgeIssues EvidenceWalkthrough.library (EvidenceWalkthrough.environment "judge") := by
    simp only [liveJudgeIssues, validateHttpUrl, validateAddress, issueOf, requiredValue,
      validateUnsignedInteger, validateBasisPoints, validateOptional, elsewhere, ne_eq,
      String.reduceEq, not_false_eq_true]
  have passed := EvidenceWalkthrough.live
  unfold validateLiveJudgeEnvironment at passed ⊢
  rwa [same]

theorem port : readPort environment = .ok 8080 := by
  have trimmed : Review.trim "8080" = "8080" := by decide +kernel
  have given : setting environment "PORT" = some "8080" := by simp [setting, environment, trimmed]
  have digits : unsigned "8080" = some 8080 := by simp [unsigned, Nat.ofDigitChars]
  simp [readPort, given, numberWithin, digits]

theorem maxAge : readReadinessMaxAge environment = .ok 300000 := by decide +kernel

theorem booted : JudgeProcess.boot EvidenceWalkthrough.library environment = .ok process := by
  simp only [JudgeProcess.boot, loadJudgeWorkerConfig, live, port, maxAge]
  rfl

def before : WatcherStore := { nextBlock := some 100 }

def after : WatcherStore where
  nextBlock := some 101
  passes := [⟨100, some 100, [(100, 100)], 101, none⟩]

theorem positive : 1 ≤ options.blockRange := by decide

theorem ends : Ends (worker options) (Watcher.processAvailableJobs options) before (.ok true) after := by
  intro ok error
  have scanned : Watcher.scanBlocks options positive 101 100 ok error = ok true := by
    rw [Watcher.scanBlocks, dif_neg (by decide)]
    rfl
  rw [Watcher.processAvailableJobs, dif_neg (by decide)]
  -- the head, the cursor, the logs of the one block, and the cursor again
  apply Leads.request (show (worker options).answers .getBlockNumber _ (.ok (.blockNumber 100))
    from trivial)
  apply Leads.sync (show (worker options).inputs _ (.ok ()) from trivial)
  show Leads _ (Watcher.scanBlocks options positive 100 100 ok error) _ _ _
  rw [Watcher.scanBlocks, dif_pos (by decide)]
  have empty (store : WatcherStore) :
      (worker options).answers (.getLogs 100 100) store (.ok (.logs [])) := by
    simp [worker, watcherAnswers]
  apply Leads.request (empty _)
  apply Leads.sync (show (worker options).inputs _ (.ok ()) from trivial)
  show Leads _ (Watcher.scanBlocks options positive 101 100 ok error) _ _ _
  rw [scanned]
  exact Leads.refl

def started : JudgeWorker := ⟨before, some process⟩

def polled : JudgeWorker := ⟨after, some (process.polled (.ok true) 1000)⟩

theorem start : Run (judgeWorker EvidenceWalkthrough.library options) ⟨before, none⟩
    [(⟨before, none⟩, .boot environment)] started := by
  rw [started, ← judgeWorker_boot booted]
  exact .step (WorkerEvent.boot environment) .refl rfl

theorem run : Run (judgeWorker EvidenceWalkthrough.library options) ⟨before, none⟩
    [(started, .polled (.ok true) after 1000), (⟨before, none⟩, .boot environment)] polled :=
  .step _ start ⟨⟨process, rfl, rfl⟩, ends⟩

/-- A signal comes while the first pass is under way. -/
def signalled : JudgeWorker := ⟨before, some process.requestShutdown⟩

def drained : JudgeWorker :=
  ⟨after, some (process.requestShutdown.polled (.ok true) 1000).woken⟩

theorem stop : Run (judgeWorker EvidenceWalkthrough.library options) ⟨before, none⟩
    ([(⟨after, some (process.requestShutdown.polled (.ok true) 1000)⟩, .woken),
      (signalled, .polled (.ok true) after 1000)] ++
        (started, .signal) :: [(⟨before, none⟩, .boot environment)]) drained := by
  apply Run.step WorkerEvent.woken
  · apply Run.step (WorkerEvent.polled (.ok true) after 1000)
    · exact .step WorkerEvent.signal start trivial
    · exact ⟨⟨process.requestShutdown, rfl, rfl⟩, ends⟩
  · exact ⟨_, rfl, rfl⟩

end WorkerWalkthrough

open WorkerWalkthrough in
/-- A process that is signalled during its first pass ends it and is no longer healthy. -/
theorem shutdown_drains_walkthrough :
    polls [(⟨after, some (process.requestShutdown.polled (.ok true) 1000)⟩, .woken),
        (signalled, .polled (.ok true) after 1000)] ≤ started.left ∧
      (handleHealthRequest (process.requestShutdown.polled (.ok true) 1000).woken.readiness 1000
        (some "/health") "GET").statusCode ≠ 200 := by
  obtain ⟨few, ill⟩ := shutdown_drains stop (by simp)
  exact ⟨few, ill 1000 (some "/health") "GET" _ rfl⟩

end VapiArc.Judge
