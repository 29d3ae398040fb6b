import VapiArc.Judge.Watcher

/-!
# What the passes of the watcher cover

The cursor is saved after a range was gone through, so a pass that finds the file goes on
where the pass before it stopped. Without the file a pass starts at the head.
-/
namespace VapiArc.Judge

open Async Transition
open Review (Address Hex Failure JobSubmitted RawJob)

namespace Pass

variable (pass : Pass)

/-- The first block that the pass scans. -/
def start : ℤ := pass.found.getD pass.latestBlock

/-- The pass asked for the logs at the block, went through all of them and saved its cursor. A
range that it has gone through counts only then: until the cursor is saved, nobody knows. -/
def Scanned (block : ℤ) : Prop :=
  block < pass.reached ∧ ∃ range ∈ pass.queried, range.1 ≤ block ∧ block ≤ range.2

/-- What a pass leaves in the file. -/
def Saved (nextBlock : Option ℤ) : Prop :=
  nextBlock = some pass.reached ∨
    nextBlock = none ∧ pass.found = none ∧ pass.reached = pass.latestBlock

structure Sound : Prop where
  forward : pass.start ≤ pass.reached
  scanned : ∀ block, pass.start ≤ block → block < pass.reached →
    ∃ range ∈ pass.queried, range.1 ≤ block ∧ block ≤ range.2
  failed : ∀ job, pass.failed = some job → pass.reached ≤ job.submittedAtBlock

/-- The pass finds the file, or it is given no later head than the pass before it. -/
def Resumes (pass previous : Pass) : Prop :=
  pass.found.isSome = true ∨ pass.latestBlock ≤ previous.latestBlock

end Pass

instance (pass previous : Pass) : Decidable (pass.Resumes previous) :=
  inferInstanceAs (Decidable (_ ∨ _))

/-- No block between two passes is left out, and no pass starts behind a job that an earlier
pass failed to process, unless a pass in between went through its block. -/
structure NothingSkipped (passes : List Pass) : Prop where
  blocks : ∀ newer pass previous older, passes = newer ++ pass :: previous :: older →
    ∀ block, previous.start ≤ block → block < pass.start → previous.Scanned block
  jobs : ∀ newer pass between earlier older job,
    passes = newer ++ pass :: (between ++ earlier :: older) → earlier.failed = some job →
    pass.start ≤ job.submittedAtBlock ∨ ∃ later ∈ between, later.Scanned job.submittedAtBlock

structure WatcherStore.Kept (s : WatcherStore) : Prop where
  sound : ∀ pass ∈ s.passes, pass.Sound
  linked : s.passes.IsChain fun pass previous => previous.Saved pass.found
  saved : ∀ pass ∈ s.passes.head?, pass.Saved s.nextBlock

section Passes

variable {pass previous : Pass} {passes : List Pass}

/-- Where the pass starts that finds what another one has left. -/
theorem Pass.Saved.start_le (saved : previous.Saved pass.found) (resumes : pass.Resumes previous) :
    pass.start ≤ previous.reached := by
  rcases saved with found | ⟨found, blank, unmoved⟩
  · simp [start, found]
  · rcases resumes with some | head
    · simp [found] at some
    · simp only [start, found, Option.getD_none, unmoved]
      exact head

theorem Pass.Saved.blocks (saved : previous.Saved pass.found) (sound : previous.Sound)
    (resumes : pass.Resumes previous) (block : ℤ) (after : previous.start ≤ block)
    (before : block < pass.start) : previous.Scanned block := by
  have inside := before.trans_le (saved.start_le resumes)
  exact ⟨inside, sound.scanned block after inside⟩

/-- A pass that starts at a later head than the one before has left out its first block. -/
theorem Pass.Saved.skips (saved : previous.Saved pass.found) (lost : ¬ pass.Resumes previous) :
    ∃ block, previous.start ≤ block ∧ block < pass.start ∧ ¬ previous.Scanned block := by
  simp only [Resumes, not_or, Bool.not_eq_true, Option.isSome_eq_false_iff, Option.isNone_iff_eq_none,
    Int.not_le] at lost
  rcases saved with found | ⟨found, blank, unmoved⟩
  · rw [lost.1] at found
    cases found
  · refine ⟨previous.latestBlock, ?_, ?_, ?_⟩
    · simp [start, blank]
    · simpa [start, found] using lost.2
    · rintro ⟨before, -⟩
      exact absurd before (by omega)

/-- A block that a pass did not get past is behind no later pass, unless one in between went
through it. -/
theorem Pass.Sound.retried {between older : List Pass} {block : ℤ}
    (linked : (pass :: (between ++ previous :: older)).IsChain fun pass previous =>
      previous.Saved pass.found)
    (resumes : (pass :: (between ++ previous :: older)).IsChain Pass.Resumes)
    (sound : ∀ pass ∈ between ++ previous :: older, pass.Sound) (ahead : previous.reached ≤ block) :
    pass.start ≤ block ∨ ∃ later ∈ between, later.Scanned block := by
  induction between generalizing pass with
  | nil =>
    rw [List.nil_append, List.isChain_cons_cons] at linked resumes
    have starts := linked.1.start_le resumes.1
    exact .inl (starts.trans ahead)
  | cons next between ih =>
    rw [List.cons_append, List.isChain_cons_cons] at linked resumes
    rcases ih linked.2 resumes.2 fun pass member => sound pass (List.mem_cons_of_mem _ member) with
      starts | ⟨later, member, scanned⟩
    · by_cases behind : block < pass.start
      · exact .inr ⟨next, List.mem_cons_self,
          linked.1.blocks (sound next List.mem_cons_self) resumes.1 block starts behind⟩
      · exact .inl (Int.not_lt.mp behind)
    · exact .inr ⟨later, List.mem_cons_of_mem _ member, scanned⟩

theorem WatcherStore.Kept.nothingSkipped_iff {s : WatcherStore} (kept : s.Kept) :
    NothingSkipped s.passes ↔ s.passes.IsChain Pass.Resumes := by
  constructor
  · intro skipped
    rw [List.isChain_iff_forall_rel_of_append_cons_cons]
    intro pass previous newer older same
    have linked := kept.linked
    rw [List.isChain_iff_forall_rel_of_append_cons_cons] at linked
    by_contra lost
    obtain ⟨block, after, before, left⟩ := (linked same).skips lost
    exact left (skipped.blocks newer pass previous older same block after before)
  · intro resumes
    refine ⟨?_, ?_⟩
    · intro newer pass previous older same
      have member : previous ∈ s.passes := by simp [same]
      have saved := List.isChain_iff_forall_rel_of_append_cons_cons.mp kept.linked same
      have goes := List.isChain_iff_forall_rel_of_append_cons_cons.mp resumes same
      exact saved.blocks (kept.sound previous member) goes
    · intro newer pass between earlier older job same failed
      have member : ∀ pass ∈ between ++ earlier :: older, pass ∈ s.passes := by
        intro pass member
        rw [same]
        exact List.mem_append_right _ (List.mem_cons_of_mem _ member)
      have sound := fun pass inside => kept.sound pass (member pass inside)
      have ahead := (sound earlier (List.mem_append_right _ List.mem_cons_self)).failed job failed
      have linked := kept.linked
      rw [same] at linked resumes
      exact Pass.Sound.retried linked.right_of_append resumes.right_of_append sound ahead

end Passes

section Store

variable {s : WatcherStore} {f : Pass → Pass}

/-- A note on the newest pass that leaves alone what it found and how far it got. -/
theorem WatcherStore.Kept.noted (kept : s.Kept)
    (same : ∀ pass, (f pass).found = pass.found ∧ (f pass).latestBlock = pass.latestBlock ∧
      (f pass).reached = pass.reached)
    (sound : ∀ pass ∈ s.passes.head?, pass.Sound → (f pass).Sound) : (s.noted f).Kept := by
  obtain ⟨nextBlock, passes⟩ := s
  cases passes with
  | nil => exact kept
  | cons pass older =>
    refine ⟨?_, ?_, ?_⟩
    · intro other member
      rcases List.mem_cons.mp member with rfl | member
      · exact sound pass rfl (kept.sound pass List.mem_cons_self)
      · exact kept.sound other (List.mem_cons_of_mem _ member)
    · have linked := List.isChain_cons.mp kept.linked
      refine List.isChain_cons.mpr ⟨fun previous member => ?_, linked.2⟩
      rw [(same pass).1]
      exact linked.1 previous member
    · intro other member
      cases member
      have saved := kept.saved pass rfl
      unfold Pass.Saved at saved ⊢
      rwa [(same pass).1, (same pass).2.1, (same pass).2.2]

theorem WatcherStore.Kept.started (kept : s.Kept) (latestBlock : ℤ) : (s.started latestBlock).Kept := by
  refine ⟨?_, ?_, ?_⟩
  · intro pass member
    rcases List.mem_cons.mp member with rfl | member
    · refine ⟨Int.le_refl _, fun block after before => ?_, fun job failed => (by cases failed)⟩
      exact absurd before (Int.not_lt.mpr after)
    · exact kept.sound pass member
  · exact List.isChain_cons.mpr ⟨kept.saved, kept.linked⟩
  · intro pass member
    cases member
    unfold Pass.Saved WatcherStore.started
    cases found : s.nextBlock with
    | none => exact .inr ⟨rfl, rfl, rfl⟩
    | some block => exact .inl rfl

/-- The newest pass has gone through the blocks before this one. -/
def WatcherStore.At (fromBlock : ℤ) (s : WatcherStore) : Prop :=
  ∃ pass ∈ s.passes.head?, pass.reached = fromBlock

/-- The newest pass goes through the logs of this range. -/
def WatcherStore.In (fromBlock toBlock : ℤ) (s : WatcherStore) : Prop :=
  ∃ pass ∈ s.passes.head?, pass.reached = fromBlock ∧ (fromBlock, toBlock) ∈ pass.queried

variable {fromBlock toBlock : ℤ}

theorem WatcherStore.head_noted {pass : Pass} (newest : pass ∈ s.passes.head?) :
    f pass ∈ (s.noted f).passes.head? := by
  obtain ⟨nextBlock, passes⟩ := s
  cases passes with
  | nil => cases newest
  | cons first older =>
    cases newest
    exact rfl

theorem WatcherStore.Kept.checkpoint (kept : s.Kept) (inside : s.In fromBlock toBlock)
    (more : fromBlock ≤ toBlock) : (s.checkpoint (toBlock + 1)).Kept := by
  obtain ⟨nextBlock, passes⟩ := s
  obtain ⟨pass, newest, here, queried⟩ := inside
  cases passes with
  | nil => cases newest
  | cons first older =>
    cases newest
    refine ⟨?_, ?_, ?_⟩
    · intro other member
      rcases List.mem_cons.mp member with rfl | member
      · have sound := kept.sound pass List.mem_cons_self
        refine ⟨?_, fun block after before => ?_, fun job failed => (by cases failed)⟩
        · have forward : pass.start ≤ fromBlock := here ▸ sound.forward
          show pass.start ≤ toBlock + 1
          omega
        · by_cases earlier : block < pass.reached
          · exact sound.scanned block after earlier
          · refine ⟨_, queried, here ▸ Int.not_lt.mp earlier, ?_⟩
            exact Int.lt_add_one_iff.mp before
      · exact kept.sound other (List.mem_cons_of_mem _ member)
    · exact List.isChain_cons.mpr (List.isChain_cons.mp kept.linked)
    · intro other member
      cases member
      exact .inl rfl

theorem WatcherStore.At.queried (there : s.At fromBlock) :
    (s.issue (.getLogs fromBlock toBlock)).In fromBlock toBlock := by
  obtain ⟨pass, newest, here⟩ := there
  exact ⟨_, head_noted newest, here, List.mem_cons_self⟩

theorem WatcherStore.In.issue (inside : s.In fromBlock toBlock) (request : WatcherRequest) :
    (s.issue request).In fromBlock toBlock := by
  obtain ⟨pass, newest, here, queried⟩ := inside
  cases request with
  | getBlockNumber => exact ⟨pass, newest, here, queried⟩
  | getLogs => exact ⟨_, head_noted newest, here, List.mem_cons_of_mem _ queried⟩
  | getJob => exact ⟨_, head_noted newest, here, queried⟩
  | resolutions => exact ⟨_, head_noted newest, here, queried⟩
  | processJob => exact ⟨_, head_noted newest, here, queried⟩

theorem WatcherStore.In.checkpoint (inside : s.In fromBlock toBlock) (nextBlock : ℤ) :
    (s.checkpoint nextBlock).At nextBlock := by
  obtain ⟨pass, newest, -, -⟩ := inside
  exact ⟨_, head_noted newest, rfl⟩

theorem Pass.Sound.unfailed {pass : Pass} (sound : pass.Sound) {queried : List (ℤ × ℤ)}
    (more : pass.queried ⊆ queried) : ({ pass with queried, failed := none } : Pass).Sound := by
  refine ⟨sound.forward, fun block after before => ?_, fun job failed => (by cases failed)⟩
  obtain ⟨range, member, inside⟩ := sound.scanned block after before
  exact ⟨range, more member, inside⟩

theorem WatcherStore.Kept.issue (kept : s.Kept) {request : WatcherRequest}
    (ahead : ∀ job, request = .processJob job →
      ∃ fromBlock toBlock, s.In fromBlock toBlock ∧ fromBlock ≤ job.submittedAtBlock) :
    (s.issue request).Kept := by
  cases request with
  | getBlockNumber => exact kept
  | getLogs first last =>
    exact kept.noted (fun _ => ⟨rfl, rfl, rfl⟩) fun pass _ sound =>
      sound.unfailed (List.subset_cons_self _ _)
  | getJob => exact kept.noted (fun _ => ⟨rfl, rfl, rfl⟩) fun pass _ sound => sound.unfailed fun _ => id
  | resolutions =>
    exact kept.noted (fun _ => ⟨rfl, rfl, rfl⟩) fun pass _ sound => sound.unfailed fun _ => id
  | processJob job =>
    obtain ⟨fromBlock, toBlock, ⟨pass, newest, here, -⟩, ahead⟩ := ahead job rfl
    refine kept.noted (fun _ => ⟨rfl, rfl, rfl⟩) fun other same sound => ?_
    cases Option.some.inj (newest.symm.trans same)
    refine ⟨sound.forward, sound.scanned, fun other failed => ?_⟩
    cases failed
    exact here ▸ ahead

end Store

section Routines

/-- The worker has the cursor file for itself. -/
def watcherContract : Contract WatcherStore WatcherRequest where
  invariant := WatcherStore.Kept
  pending _ _ := True
  guarantee _ _ := True
  awaiting := Eq
  anytime := Eq
  guarantee_refl _ := trivial
  awaiting_refl _ := rfl
  awaiting_trans _ _ _ := Eq.trans
  anytime_refl _ := rfl
  anytime_trans _ _ _ := Eq.trans

variable {options : WatcherOptions} {α : Type} {fromBlock toBlock latestBlock : ℤ}

abbrev Meets (options : WatcherOptions) (P : WatcherStore → Prop) (x : Watcher α)
    (Q : α → WatcherStore → Prop) : Prop :=
  Triple (worker options) watcherContract P x Q fun _ _ => True

theorem stable (P : WatcherStore → Prop) : Stable watcherContract P := by
  intro s s' holds same _
  cases same
  exact holds

theorem await_meets {request : WatcherRequest} {P : WatcherStore → Prop}
    {Q : WatcherReply → WatcherStore → Prop} (kept : ∀ s, P s → s.Kept → (s.issue request).Kept)
    (answered : ∀ s reply, P s → watcherAnswers request (s.issue request) (.ok reply) →
      Q reply (s.issue request)) : Meets options P (.await request) Q := by
  refine .await_ (stable P) (fun s here invariant => ⟨trivial, kept s here invariant⟩)
    (fun _ _ _ _ _ _ => trivial) ?_ (fun _ _ _ _ _ _ _ _ => trivial)
  intro s s' here _ same _ reply given
  cases same
  exact answered s reply here given

theorem ask_meets {request : WatcherRequest} {expected : WatcherReply → Option α}
    {P : WatcherStore → Prop} {Q : α → WatcherStore → Prop}
    (kept : ∀ s, P s → s.Kept → (s.issue request).Kept)
    (answered : ∀ s reply a, P s → watcherAnswers request (s.issue request) (.ok reply) →
      expected reply = some a → Q a (s.issue request)) :
    Meets options P (Watcher.ask request expected) Q := by
  refine .bind_ (await_meets (Q := fun reply s => ∀ a, expected reply = some a → Q a s) kept ?_)
    fun reply => ?_
  · intro s reply here given a same
    exact answered s reply a here given same
  · cases found : expected reply with
    | some a => exact .pure_ fun s holds => holds a rfl
    | none => exact .throw_ fun _ _ => trivial

theorem getBlockNumber_meets :
    Meets options (fun _ => True) Watcher.getBlockNumber fun _ _ => True :=
  ask_meets (fun _ _ kept => kept) fun _ _ _ _ _ _ => trivial

theorem readNextBlock_meets :
    Meets options (fun _ => True) (Watcher.readNextBlock latestBlock)
      fun found s => s.At (found.getD latestBlock) := by
  refine .transaction_ (stable _) ?_ (fun _ _ _ _ _ _ _ => trivial)
  intro s _ kept disk _ found s' done
  cases disk with
  | error => cases done
  | ok =>
    cases done
    exact ⟨trivial, kept.started latestBlock, _, rfl, rfl⟩

theorem writeNextBlock_meets (more : fromBlock ≤ toBlock) :
    Meets options (fun s => s.In fromBlock toBlock) (Watcher.writeNextBlock (toBlock + 1))
      fun _ s => s.At (toBlock + 1) := by
  refine .transaction_ (stable _) ?_ (fun _ _ _ _ _ _ _ => trivial)
  intro s inside kept disk _ _ s' done
  cases disk with
  | error => cases done
  | ok =>
    cases done
    exact ⟨trivial, kept.checkpoint inside more, inside.checkpoint _⟩

theorem getLogs_meets :
    Meets options (fun s => s.At fromBlock) (Watcher.getLogs fromBlock toBlock)
      fun logs s => (∀ log ∈ logs, fromBlock ≤ log.blockNumber) ∧ s.In fromBlock toBlock := by
  refine ask_meets (fun s _ kept => kept.issue fun job same => (by cases same)) ?_
  intro s reply logs there given found
  refine ⟨?_, there.queried⟩
  cases reply with
  | logs listed =>
    cases found
    exact fun log member => (given log member).1
  | blockNumber => cases found
  | job => cases found
  | resolution => cases found
  | processed => cases found

/-- The calls that read a job leave the pass in its range. -/
theorem read_meets {request : WatcherRequest} {expected : WatcherReply → Option α}
    (reads : ∀ job, request ≠ .processJob job) :
    Meets options (fun s => s.In fromBlock toBlock) (Watcher.ask request expected)
      fun _ s => s.In fromBlock toBlock :=
  ask_meets (fun _ _ kept => kept.issue fun job same => absurd same (reads job))
    fun _ _ _ inside _ _ => inside.issue request

theorem safelyProcessJob_meets {job : SubmittedJob} (ahead : fromBlock ≤ job.submittedAtBlock) :
    Meets options (fun s => s.In fromBlock toBlock) (Watcher.safelyProcessJob job)
      fun consumed s => consumed = true → s.In fromBlock toBlock := by
  refine .tryCatch_ (M := fun _ _ => True) (.bind_ (M := fun _ s => s.In fromBlock toBlock)
    (.bind_ (await_meets (Q := fun _ s => s.In fromBlock toBlock) ?_ ?_) fun _ => ?_) fun _ => ?_)
    fun _ => ?_
  · intro s inside kept
    refine kept.issue fun other same => ?_
    cases same
    exact ⟨fromBlock, toBlock, inside, ahead⟩
  · exact fun s _ inside _ => inside.issue _
  · exact .pure_ fun _ inside => inside
  · exact .pure_ fun _ inside _ => inside
  · exact .pure_ fun _ _ consumed => (by cases consumed)

/-- The loop over a range's logs; a consumer that goes on to the end leaves the pass in it. -/
theorem yieldJobs_meets {logs : List JobSubmitted} (ahead : ∀ log ∈ logs, fromBlock ≤ log.blockNumber) :
    Meets options (fun s => s.In fromBlock toBlock) (Watcher.yieldJobs options logs)
      fun consumed s => consumed = true → s.In fromBlock toBlock := by
  induction logs with
  | nil => exact .pure_ fun _ inside _ => inside
  | cons log logs ih =>
    have rest := ih fun log member => ahead log (List.mem_cons_of_mem _ member)
    refine .bind_ (read_meets fun _ same => (by cases same)) fun job => ?_
    split
    next => exact rest
    split
    next => exact rest
    refine .bind_ (read_meets fun _ same => (by cases same)) fun resolution => ?_
    split
    next => exact rest
    refine .bind_ (safelyProcessJob_meets (ahead log List.mem_cons_self)) fun consumed => ?_
    cases consumed with
    | true => exact rest.weaken (fun _ inside => inside rfl) (fun _ _ => id) fun _ _ => id
    | false => exact .pure_ fun _ _ consumed => (by cases consumed)

theorem scanBlocks_meets (positive : 1 ≤ options.blockRange) :
    Meets options (fun s => s.At fromBlock)
      (Watcher.scanBlocks options positive fromBlock latestBlock) fun _ _ => True := by
  induction fromBlock using Watcher.scanBlocks.induct options positive latestBlock with
  | case1 fromBlock more toBlock ih =>
    rw [Watcher.scanBlocks, dif_pos more]
    have inside := Watcher.le_rangeEnd positive more
    refine .bind_ getLogs_meets fun logs => .known (fun _ here => here.1) fun ahead => ?_
    refine .bind_ ((yieldJobs_meets ahead).weaken (fun _ here => here.2) (fun _ _ => id) fun _ _ => id)
      fun consumed => ?_
    cases consumed with
    | true =>
      refine .bind_ ((writeNextBlock_meets inside).weaken (fun _ here => here rfl) (fun _ _ => id)
        fun _ _ => id) fun _ => ih
    | false => exact .pure_ fun _ _ => trivial
  | case2 fromBlock less =>
    rw [Watcher.scanBlocks, dif_neg less]
    exact .pure_ fun _ _ => trivial

theorem processAvailableJobs_meets :
    Meets options (fun _ => True) (Watcher.processAvailableJobs options) fun _ _ => True := by
  unfold Watcher.processAvailableJobs
  split
  next => exact .throw_ fun _ _ => trivial
  next => exact .bind_ getBlockNumber_meets fun _ => .bind_ readNextBlock_meets fun _ =>
    scanBlocks_meets _

end Routines

section Coverage

variable {options : WatcherOptions}

theorem WatcherStore.Kept.blank (nextBlock : Option ℤ) : ({ nextBlock } : WatcherStore).Kept := by
  refine ⟨fun pass member => ?_, .nil, fun pass member => ?_⟩
  · cases member
  · cases member

theorem watcher_kept {nextBlock : Option ℤ} {history : List (WatcherState × WatcherEvent)}
    {v : WatcherState} (run : Run (worker options).system ⟨{ nextBlock }, .idle⟩ history v) :
    v.store.Kept := by
  refine (run_good (K := watcherContract) ⟨?_, ?_, ?_, ?_⟩ ?_ run (.blank nextBlock)).1
  · exact fun s event => event.elim
  · exact fun s event => event.elim
  · exact fun s event => event.elim
  · exact fun s event => event.elim
  · intro s cause kept
    have meets : Meets options (fun _ => True)
        (do let _ ← Watcher.processAvailableJobs options : Watcher Unit) fun _ _ => True :=
      .bind_ processAvailableJobs_meets fun _ => .pure_ fun _ _ => trivial
    exact meets _ _ (fun _ _ _ => .done) (fun _ _ _ => .done) s trivial

/-- The watcher skips nothing if each of its passes finds the cursor file, or is given no
later head than the pass before it. Otherwise a pass starts behind a block whose range no pass has
saved; its logs may have been gone through, if it was the saving that failed. -/
theorem watcher_never_skips {nextBlock : Option ℤ} {history : List (WatcherState × WatcherEvent)}
    {v : WatcherState} (run : Run (worker options).system ⟨{ nextBlock }, .idle⟩ history v) :
    NothingSkipped v.store.passes ↔ v.store.passes.IsChain Pass.Resumes :=
  (watcher_kept run).nothingSkipped_iff

end Coverage

namespace WatcherWalkthrough

def answered (request : WatcherRequest) : Except Failure WatcherReply → Bool
  | .error _ => true
  | .ok reply =>
    match request, reply with
    | .getBlockNumber, .blockNumber _ => true
    | .getLogs fromBlock toBlock, .logs logs =>
      logs.all fun log => fromBlock ≤ log.blockNumber && log.blockNumber ≤ toBlock
    | .getJob _, .job _ => true
    | .resolutions _, .resolution _ => true
    | .processJob _, .processed => true
    | _, _ => false

theorem answers_of_answered {request : WatcherRequest} (s : WatcherStore)
    {answer : Except Failure WatcherReply} (given : answered request answer = true) :
    watcherAnswers request s answer := by
  cases answer with
  | error e => trivial
  | ok reply =>
    cases request <;> cases reply <;> first | trivial | cases given | skip
    simpa [answered, watcherAnswers] using given

def admitted (v : WatcherState) : WatcherEvent → Bool
  | .start _ =>
    match v.activity with
    | .running _ => false
    | _ => true
  | .reply answer =>
    match v.activity with
    | .waiting message _ => answered message answer
    | _ => false
  | _ => true

def options : WatcherOptions := { routerAddress := 90 }

theorem admits_of_admitted {v : WatcherState} {event : WatcherEvent} (given : admitted v event = true) :
    (worker options).admits v event := by
  cases event with
  | start =>
    intro program running
    simp [admitted, running] at given
  | advance => trivial
  | reply answer =>
    simp only [admitted] at given
    split at given
    next message rest waiting => exact ⟨message, rest, waiting, answers_of_answered v.store given⟩
    next => cases given
  | crash => trivial
  | outside event => exact event.elim

def admittedAll (v : WatcherState) : List WatcherEvent → Bool
  | [] => true
  | event :: rest => admitted v event && admittedAll ((worker options).next v event) rest

theorem admitsAll_of_admittedAll {v : WatcherState} {events : List WatcherEvent}
    (given : admittedAll v events = true) : (worker options).system.AdmitsAll v events := by
  induction events generalizing v with
  | nil => trivial
  | cons event rest ih =>
    simp only [admittedAll, Bool.and_eq_true] at given
    exact ⟨admits_of_admitted given.1, ih given.2⟩

def job : RawJob := ⟨7, 21, 22, 90, 1000, 5000, 2⟩

def advance : WatcherEvent := .advance (.ok ())

/-- A pass at this head that finds the job at block 100, and fails to process it. -/
def failing (latest : ℤ) : List WatcherEvent :=
  [.start (), advance, .reply (.ok (.blockNumber latest)), advance, advance,
    .reply (.ok (.logs [⟨100, 7, 22, 77⟩])), advance, .reply (.ok (.job job)), advance,
    .reply (.ok (.resolution 0)), advance, .reply (.error (.error "no reply")), advance]

/-- A pass at this head, up to its start. -/
def starting (latest : ℤ) : List WatcherEvent :=
  [.start (), advance, .reply (.ok (.blockNumber latest)), advance]

def idle (nextBlock : Option ℤ) : WatcherState := ⟨{ nextBlock }, .idle⟩

def failedPass : Pass where
  latestBlock := 100
  found := none
  queried := [(100, 100)]
  reached := 100
  failed := some ⟨job, 77, 100⟩

end WatcherWalkthrough

open WatcherWalkthrough in
/-- With the cursor of an earlier day the next pass starts at the job that has failed. -/
theorem watcher_never_skips_walkthrough :
    let v := (worker options).system.replay (idle (some 90)) (failing 100 ++ starting 105)
    NothingSkipped v.store.passes ∧ v.store.passes.head?.map Pass.start = some 90 :=
  have admitted : admittedAll (idle (some 90)) (failing 100 ++ starting 105) = true := by
    decide +kernel
  have run := (worker options).system.replay_run .refl _ (admitsAll_of_admittedAll admitted)
  ⟨(watcher_never_skips run).mpr (by decide +kernel), by decide +kernel⟩

open WatcherWalkthrough in
/-- Without a cursor file the pass after a failure starts at the new head, behind the job. -/
theorem watcher_skips : ∃ history v,
    Run (worker options).system (idle none) history v ∧
      v.store.passes = [⟨105, none, [], 105, none⟩, failedPass] ∧ ¬ NothingSkipped v.store.passes :=
  have admitted : admittedAll (idle none) (failing 100 ++ starting 105) = true := by decide +kernel
  have run := (worker options).system.replay_run .refl _ (admitsAll_of_admittedAll admitted)
  have passes : ((worker options).system.replay (idle none) (failing 100 ++ starting 105)).store.passes =
      [⟨105, none, [], 105, none⟩, failedPass] := by decide +kernel
  ⟨_, _, run, passes, fun skipped => by
    rcases skipped.jobs [] _ [] failedPass [] ⟨job, 77, 100⟩ passes rfl with behind | ⟨_, later, _⟩
    · exact absurd behind (by decide)
    · cases later⟩

end VapiArc.Judge
