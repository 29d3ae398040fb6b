import VapiArc.Router.OneShot

/-!
# The events of `EvaluationRouter`

Only the events that name a job; `ConfigUpdated` and `OwnershipTransferred` name none. A
settlement is logged when the target has answered, a while after it is stored.
-/
namespace VapiArc.Router

open Checked Function Reentrancy Transition
open Escrow (Address Bytes32 Uint16 Uint256)

/-- The value of a member of the enum. -/
def Resolution.code : Resolution → Nat
  | .none => 0
  | .autoCompleted => 1
  | .autoRejected => 2
  | .escalated => 3
  | .humanCompleted => 4
  | .humanRejected => 5

def ReviewLane.code : ReviewLane → Nat
  | .aiAllowed => 0
  | .humanOnly => 1

inductive RouterEvent where
  | aiVerdict (jobId : Uint256) (approved : Bool) (confidenceBP : Uint16) (evidenceHash : Bytes32)
  | escalated (jobId : Uint256) (reasonHash : Bytes32)
  | humanVerdict (jobId : Uint256) (reviewer : Address) (approved : Bool) (reward : Uint256)
      (evidenceHash payoutTxHash : Bytes32)
  | laneSet (jobId : Uint256) (lane : ReviewLane)
  deriving DecidableEq, Repr

namespace RouterEvent

def jobId : RouterEvent → Uint256
  | aiVerdict jobId .. | escalated jobId _ | humanVerdict jobId .. | laneSet jobId _ => jobId

def isLaneSet : RouterEvent → Bool
  | laneSet .. => true
  | _ => false

/-- The events of a settlement. -/
def isTerminal : RouterEvent → Bool
  | aiVerdict .. | humanVerdict .. => true
  | _ => false

/-- The lane that the event sets for a job. -/
def laneFor (jobId : Uint256) : RouterEvent → Option ReviewLane
  | laneSet other lane => if other = jobId then some lane else none
  | _ => none

end RouterEvent

/-- The event at the end of a call that succeeds. -/
def Entry.emits : Entry → Option RouterEvent
  | .setLane jobId lane => some (.laneSet jobId lane)
  | .submitAIVerdict jobId approve confidenceBP evidenceHash =>
    some (.aiVerdict jobId approve confidenceBP evidenceHash)
  | .escalate jobId reasonHash => some (.escalated jobId reasonHash)
  | .humanResolve jobId reviewer approve reward evidenceHash payoutTxHash =>
    some (.humanVerdict jobId reviewer approve reward evidenceHash payoutTxHash)
  | .setConfig .. | .transferOwnership _ | .sweep .. => none

/-- The router and its logs, the oldest first. Logs of a frame that fails are undone too. -/
structure Ledger where
  world : World
  logs : List RouterEvent := []

/-- A call in progress, with the event that it has yet to emit. -/
structure Suspended where
  pending : Pending
  event : Option RouterEvent

namespace Ledger

def invoke (here : Address) (l : Ledger) (c : Call) : Except Error (Progress Ledger Suspended) := do
  match ← Router.invoke here l.world c with
  | .finished world => return .finished ⟨world, l.logs ++ c.entry.emits.toList⟩
  | .calling world pending => return .calling { l with world } ⟨pending, c.entry.emits⟩

def resume (l : Ledger) (s : Suspended) (reply : Reply) : Except Error Ledger := do
  let world ← Router.resume l.world s.pending reply
  return ⟨world, l.logs ++ s.event.toList⟩

end Ledger

/-- The router at the address `here` with its logs. -/
def ledger (here : Address) : Component Ledger Call Suspended Reply Error :=
  ⟨Ledger.invoke here, Ledger.resume⟩

variable {here : Address} {l l' : Ledger} {c : Call} {jobId : Uint256}

/-- Everything an accepted call can do to the router and its logs. -/
theorem invoke_ledger {p : Progress Ledger Suspended} (done : (ledger here).invoke l c = .ok p) :
    (∃ world, Accepts here l.world c (.finished world) ∧
      p = .finished ⟨world, l.logs ++ c.entry.emits.toList⟩) ∨
    ∃ world pending, Accepts here l.world c (.calling world pending) ∧
      p = .calling ⟨world, l.logs⟩ ⟨pending, c.entry.emits⟩ := by
  simp only [ledger, Ledger.invoke, bind_ok] at done
  obtain ⟨progress, called, done⟩ := done
  cases progress with
  | finished world =>
    obtain rfl := (pure_ok _ _).mp done
    exact .inl ⟨world, invoke_accepts called, rfl⟩
  | calling world pending =>
    obtain rfl := (pure_ok _ _).mp done
    exact .inr ⟨world, pending, invoke_accepts called, rfl⟩

theorem resume_ledger {s : Suspended} {reply : Reply}
    (done : (ledger here).resume l s reply = .ok l') :
    l' = ⟨l.world, l.logs ++ s.event.toList⟩ := by
  simp only [ledger, Ledger.resume, bind_ok, pure_ok] at done
  obtain ⟨world, resumed, rfl⟩ := done
  rw [resume_same resumed]

section Refinement

/-! ### The logs change nothing of what the router does -/

def Suspended.frame (frame : Frame Ledger Suspended) : Frame World Pending :=
  ⟨frame.pending.map Suspended.pending, frame.saved.world⟩

/-- The router without its logs. -/
def worlds (v : Stacked Ledger Suspended) : Stacked World Pending :=
  ⟨v.current.world, v.frames.map Suspended.frame⟩

variable {v : Stacked Ledger Suspended} {t : Step Call Reply}

theorem admits_worlds : admits (worlds v) t ↔ admits v t := by
  obtain ⟨now, frames⟩ := v
  cases t with
  | invoke => exact Iff.rfl
  | enter => exact Iff.rfl
  | answer =>
    rcases frames with _ | ⟨⟨_ | _, saved⟩, below⟩ <;> simp [admits, worlds, Suspended.frame]
  | leave =>
    rcases frames with _ | ⟨⟨_ | _, saved⟩, below⟩ <;> simp [admits, worlds, Suspended.frame]
  | rollback =>
    rcases frames with _ | ⟨⟨_ | _, saved⟩, below⟩ <;> simp [admits, worlds, Suspended.frame]

theorem next_worlds : worlds ((ledger here).next v t) = (component here).next (worlds v) t := by
  obtain ⟨now, frames⟩ := v
  cases t with
  | invoke call =>
    simp only [Component.next, ledger, component, Ledger.invoke, worlds]
    cases called : invoke here now.world call with
    | error => rfl
    | ok progress => cases progress <;> rfl
  | enter => rfl
  | answer reply =>
    rcases frames with _ | ⟨⟨_ | suspended, saved⟩, below⟩
    · rfl
    · rfl
    · simp only [Component.next, ledger, component, Ledger.resume, worlds, List.map_cons,
        Suspended.frame, Option.map_some]
      cases resumed : resume now.world suspended.pending reply <;> rfl
  | leave => rcases frames with _ | ⟨⟨_ | _, saved⟩, below⟩ <;> rfl
  | rollback => rcases frames with _ | ⟨⟨_ | _, saved⟩, below⟩ <;> rfl

/-- A run with logs is a run of the router. -/
theorem run_worlds {start : Ledger} {history : List (Stacked Ledger Suspended × Step Call Reply)}
    (run : Run (ledger here).system (.idle start) history v) :
    Run (component here).system (.idle start.world)
      (history.map fun entry => (worlds entry.1, entry.2)) (worlds v) := by
  induction run with
  | refl => exact .refl
  | @step history v t _ admitted ih =>
    have stepped := Run.step t ih (admits_worlds.mpr admitted)
    change Run _ _ _ ((component here).next (worlds v) t) at stepped
    rw [← next_worlds] at stepped
    exact stepped

/-- Every run of the router has its logs. -/
theorem run_ledger {start : World} {history : List (Stacked World Pending × Step Call Reply)}
    {w : Stacked World Pending} (run : Run (component here).system (.idle start) history w) :
    ∃ logged v, Run (ledger here).system (.idle ⟨start, []⟩) logged v ∧ worlds v = w := by
  induction run with
  | refl => exact ⟨[], _, .refl, rfl⟩
  | @step history w t _ admitted ih =>
    obtain ⟨logged, v, run, rfl⟩ := ih
    exact ⟨_, _, .step t run (admits_worlds.mp admitted), next_worlds⟩

end Refinement

/-- The verdicts on a job, the oldest first. -/
def verdictsOf (jobId : Uint256) (events : List RouterEvent) : List RouterEvent :=
  events.filter fun event => !event.isLaneSet && event.jobId = jobId

/-- The lanes that a job has been given, the oldest first. -/
def lanesOf (jobId : Uint256) (events : List RouterEvent) : List ReviewLane :=
  events.filterMap (RouterEvent.laneFor jobId)

/-- The verdicts behind a resolution. -/
inductive Told (jobId : Uint256) (resolution : Resolution) : List RouterEvent → Prop
  | unresolved : resolution = .none → Told jobId resolution []
  | escalated {reasonHash} : resolution = .escalated →
      Told jobId resolution [.escalated jobId reasonHash]
  | auto {approve confidenceBP evidenceHash} : resolution = aiResolution approve →
      Told jobId resolution [.aiVerdict jobId approve confidenceBP evidenceHash]
  | human {reviewer approve reward evidenceHash payoutTxHash} :
      resolution = humanResolution approve →
      Told jobId resolution
        [.humanVerdict jobId reviewer approve reward evidenceHash payoutTxHash]
  | reviewed {reasonHash reviewer approve reward evidenceHash payoutTxHash} :
      resolution = humanResolution approve →
      Told jobId resolution [.escalated jobId reasonHash,
        .humanVerdict jobId reviewer approve reward evidenceHash payoutTxHash]

/-- The events that the open calls have yet to emit, in the order in which they will. -/
def unsaid (left : List Suspended) : List RouterEvent := left.filterMap Suspended.event

/-- The logs, and the events that are still to come, tell what the router stores. -/
structure Recorded (l : Ledger) (left : List Suspended) : Prop where
  verdicts : ∀ jobId, Told jobId (l.world.router.resolutions jobId)
    (verdictsOf jobId (l.logs ++ unsaid left))
  terminal : ∀ event ∈ unsaid left, event.isTerminal = true
  lanes : ∀ jobId, l.world.router.lanes jobId = (lanesOf jobId l.logs).getLast?.getD .aiAllowed

@[simp] theorem verdictsOf_append (jobId : Uint256) (first second : List RouterEvent) :
    verdictsOf jobId (first ++ second) = verdictsOf jobId first ++ verdictsOf jobId second :=
  List.filter_append ..

@[simp] theorem lanesOf_append (jobId : Uint256) (first second : List RouterEvent) :
    lanesOf jobId (first ++ second) = lanesOf jobId first ++ lanesOf jobId second :=
  List.filterMap_append

theorem verdictsOf_single {event : RouterEvent} (verdict : event.isLaneSet = false) :
    verdictsOf jobId [event] = if event.jobId = jobId then [event] else [] := by
  simp [verdictsOf, List.filter_cons, verdict]

/-- Verdicts set no lanes. -/
theorem lanesOf_single {event : RouterEvent} (verdict : event.isLaneSet = false) :
    lanesOf jobId [event] = [] := by
  cases event <;> simp_all [lanesOf, RouterEvent.laneFor, RouterEvent.isLaneSet]

theorem isLaneSet_of_isTerminal {event : RouterEvent} (terminal : event.isTerminal = true) :
    event.isLaneSet = false := by
  cases event <;> simp_all [RouterEvent.isTerminal, RouterEvent.isLaneSet]

namespace Told

variable {resolution : Resolution} {events : List RouterEvent}

theorem none_nil (told : Told jobId .none events) : events = [] := by
  cases told with
  | unresolved => rfl
  | escalated same => cases same
  | @auto approve _ _ same => cases approve <;> cases same
  | @human _ approve _ _ _ same => cases approve <;> cases same
  | @reviewed _ _ approve _ _ _ same => cases approve <;> cases same

theorem of_escalated (told : Told jobId .escalated events) :
    ∃ reasonHash, events = [.escalated jobId reasonHash] := by
  cases told with
  | unresolved same => cases same
  | escalated => exact ⟨_, rfl⟩
  | @auto approve _ _ same => cases approve <;> cases same
  | @human _ approve _ _ _ same => cases approve <;> cases same
  | @reviewed _ _ approve _ _ _ same => cases approve <;> cases same

end Told

/-- Nothing is still to be said of a job that is not settled. -/
theorem Recorded.said {left : List Suspended} (kept : Recorded l left)
    (pending : l.world.router.resolutions jobId = .none ∨
      l.world.router.resolutions jobId = .escalated) :
    verdictsOf jobId (unsaid left) = [] := by
  have told := kept.verdicts jobId
  rw [verdictsOf_append] at told
  rcases pending with none | escalated
  · rw [none] at told
    exact (List.append_eq_nil_iff.mp told.none_nil).2
  · rw [escalated] at told
    obtain ⟨reasonHash, whole⟩ := told.of_escalated
    -- the one verdict on the job is an escalation, which no call leaves to be said
    refine List.filter_eq_nil_iff.mpr fun event member concerns => ?_
    have verdict : event ∈ verdictsOf jobId (unsaid left) := List.mem_filter.mpr ⟨member, concerns⟩
    have same : event = .escalated jobId reasonHash :=
      List.mem_singleton.mp (whole ▸ List.mem_append_right _ verdict)
    have terminal := kept.terminal event member
    rw [same] at terminal
    cases terminal

/-- A verdict on one job, as it is stored. -/
structure Resolves (w w' : World) (jobId : Uint256) (event : RouterEvent) : Prop where
  job : event.jobId = jobId
  verdict : event.isLaneSet = false
  others : ∀ other, other ≠ jobId → w'.router.resolutions other = w.router.resolutions other
  lanes : w'.router.lanes = w.router.lanes

variable {left : List Suspended} {world : World} {event : RouterEvent}

/-- The verdict is told of its own job, and the others are told as before. -/
theorem Resolves.told (resolves : Resolves l.world world jobId event) (kept : Recorded l left)
    (said : verdictsOf jobId (unsaid left) = [])
    (here : Told jobId (world.router.resolutions jobId) (verdictsOf jobId l.logs ++ [event]))
    (any : Uint256) :
    Told any (world.router.resolutions any) (verdictsOf any (l.logs ++ event :: unsaid left)) := by
  rw [← List.singleton_append, verdictsOf_append, verdictsOf_append,
    verdictsOf_single resolves.verdict, resolves.job]
  by_cases same : jobId = any
  · subst same
    rw [if_pos rfl, said, List.append_nil]
    exact here
  · rw [if_neg same, List.nil_append, resolves.others any (Ne.symm same), ← verdictsOf_append]
    exact kept.verdicts any

/-- The verdicts in the logs of a job that nothing is still to be said of. -/
theorem Recorded.logged (kept : Recorded l left)
    (said : verdictsOf jobId (unsaid left) = []) :
    Told jobId (l.world.router.resolutions jobId) (verdictsOf jobId l.logs) := by
  have told := kept.verdicts jobId
  rwa [verdictsOf_append, said, List.append_nil] at told

/-- A settlement leaves its event to be emitted once the target has answered. -/
theorem Recorded.suspend (kept : Recorded l left) (resolves : Resolves l.world world jobId event)
    (terminal : event.isTerminal = true) {pending : Pending}
    (said : verdictsOf jobId (unsaid left) = [])
    (here : Told jobId (world.router.resolutions jobId) (verdictsOf jobId l.logs ++ [event])) :
    Recorded ⟨world, l.logs⟩ (⟨pending, some event⟩ :: left) := by
  refine ⟨resolves.told kept said here, ?_, ?_⟩
  · intro other member
    rcases List.mem_cons.mp (show other ∈ event :: unsaid left from member) with rfl | older
    · exact terminal
    · exact kept.terminal other older
  · intro jobId
    rw [resolves.lanes]
    exact kept.lanes jobId

/-- A call that stores no verdict, and logs none. -/
theorem Recorded.keep (kept : Recorded l left) {logs : List RouterEvent}
    (resolutions : world.router.resolutions = l.world.router.resolutions)
    (verdicts : ∀ jobId, verdictsOf jobId logs = [])
    (lanes : ∀ jobId, world.router.lanes jobId =
      (lanesOf jobId (l.logs ++ logs)).getLast?.getD .aiAllowed) :
    Recorded ⟨world, l.logs ++ logs⟩ left := by
  refine ⟨fun jobId => ?_, kept.terminal, lanes⟩
  have told := kept.verdicts jobId
  rw [verdictsOf_append] at told
  simpa [verdicts, resolutions] using told

theorem recorded_finished (kept : Recorded l left)
    (accepts : Accepts here l.world c (.finished world)) :
    Recorded ⟨world, l.logs ++ c.entry.emits.toList⟩ left := by
  cases accepts with
  | @laneSet _ _ set lane =>
    refine kept.keep rfl (fun jobId => by simp [Entry.emits, verdictsOf, RouterEvent.isLaneSet]) ?_
    intro jobId
    rw [lanesOf_append]
    by_cases same : jobId = set
    · simp [same, Entry.emits, lanesOf, RouterEvent.laneFor]
    · have other : lanesOf jobId [.laneSet set lane] = [] := by
        simp [lanesOf, RouterEvent.laneFor, Ne.symm same]
      simpa [Entry.emits, other, update_of_ne same] using kept.lanes jobId
  | @escalated _ _ job reasonHash oracle unresolved =>
    have said := kept.said (.inl unresolved)
    have logged := kept.logged said
    rw [unresolved] at logged
    have resolves : Resolves l.world (l.world.resolve job .escalated reasonHash)
        job (.escalated job reasonHash) :=
      ⟨rfl, rfl, fun other apart => update_of_ne apart _ _, rfl⟩
    have told := resolves.told kept said (by
      rw [logged.none_nil]
      exact .escalated (update_self ..))
    refine ⟨fun jobId => ?_, kept.terminal, fun jobId => ?_⟩
    · simpa [Entry.emits] using told jobId
    · rw [lanesOf_append, Entry.emits, Option.toList_some, lanesOf_single rfl, List.append_nil]
      exact kept.lanes jobId
  | configured =>
    refine kept.keep rfl (fun _ => rfl) fun jobId => ?_
    rw [Entry.emits, Option.toList_none, List.append_nil]
    exact kept.lanes jobId
  | ownershipTransferred =>
    refine kept.keep rfl (fun _ => rfl) fun jobId => ?_
    rw [Entry.emits, Option.toList_none, List.append_nil]
    exact kept.lanes jobId

theorem recorded_calling (kept : Recorded l left) {pending : Pending}
    (accepts : Accepts here l.world c (.calling world pending)) :
    Recorded ⟨world, l.logs⟩ (⟨pending, c.entry.emits⟩ :: left) := by
  generalize same : Progress.calling world pending = p at accepts
  cases accepts with
  | laneSet => cases same
  | escalated => cases same
  | configured => cases same
  | ownershipTransferred => cases same
  | swept =>
    cases same
    exact ⟨kept.verdicts, kept.terminal, kept.lanes⟩
  | @aiVerdict _ _ job approve confidenceBP evidenceHash gate =>
    cases same
    have said := kept.said (.inl gate.unresolved)
    have logged := kept.logged said
    rw [gate.unresolved] at logged
    have resolves : Resolves l.world
        ((l.world.resolve job (aiResolution approve) evidenceHash).request
          (settlementCall job approve evidenceHash))
        job (.aiVerdict job approve confidenceBP evidenceHash) :=
      ⟨rfl, rfl, fun other apart => update_of_ne apart _ _, rfl⟩
    refine kept.suspend resolves rfl said ?_
    rw [logged.none_nil]
    exact .auto (update_self ..)
  | @humanVerdict _ _ job reviewer approve reward evidenceHash payoutTxHash gate =>
    cases same
    have said := kept.said gate.pending
    have logged := kept.logged said
    have resolves : Resolves l.world
        (((l.world.resolve job (humanResolution approve) evidenceHash).setReviewer job reviewer
          reward payoutTxHash).request (settlementCall job approve evidenceHash))
        job (.humanVerdict job reviewer approve reward evidenceHash payoutTxHash) :=
      ⟨rfl, rfl, fun other apart => update_of_ne apart _ _, rfl⟩
    refine kept.suspend resolves rfl said ?_
    rcases gate.pending with unresolved | escalated
    · rw [unresolved] at logged
      rw [logged.none_nil]
      exact .human (update_self ..)
    · rw [escalated] at logged
      obtain ⟨reasonHash, one⟩ := logged.of_escalated
      rw [one]
      exact .reviewed (update_self ..)

/-- An event that was still to come is emitted. -/
theorem recorded_resumed {s : Suspended} (kept : Recorded l (s :: left)) :
    Recorded ⟨l.world, l.logs ++ s.event.toList⟩ left := by
  obtain ⟨pending, event⟩ := s
  cases event with
  | none => simpa using ⟨kept.verdicts, kept.terminal, kept.lanes⟩
  | some event =>
    have terminal : event.isTerminal = true := kept.terminal event List.mem_cons_self
    refine ⟨fun jobId => ?_, fun other member => kept.terminal other (.tail _ member), ?_⟩
    · simpa [unsaid] using kept.verdicts jobId
    · intro jobId
      rw [lanesOf_append, Option.toList_some, lanesOf_single (isLaneSet_of_isTerminal terminal),
        List.append_nil]
      exact kept.lanes jobId

/-- Between transactions the logs tell what the router stores. -/
theorem ledger_recorded {sender target oracle humanResolver : Address} {autoSettleCap : Uint256}
    {minConfidenceBP : Uint16} {start : World}
    {history : List (Stacked Ledger Suspended × Step Call Reply)} {v : Stacked Ledger Suspended}
    (deployed : constructor sender target oracle humanResolver autoSettleCap minConfidenceBP =
      .ok start) (run : Run (ledger here).system (.idle ⟨start, []⟩) history v) :
    Recorded v.current (Component.owed v.frames) := by
  simp only [constructor, bind_ok, revertIf_ok, exists_const, pure_ok] at deployed
  obtain ⟨-, rfl⟩ := deployed
  refine ((ledger here).holds_owing Recorded run ?_ ?_ ?_ ?_).current
  · refine ⟨⟨fun _ => .unresolved rfl, by simp [unsaid, Stacked.idle, Component.owed],
      fun _ => rfl⟩, ?_⟩
    intro frame below suffix
    have longer := suffix.length_le
    simp [Stacked.idle] at longer
  · intro l left call l' kept done
    rcases invoke_ledger done with ⟨world, accepts, same⟩ | ⟨_, _, _, same⟩
    · cases same
      exact recorded_finished kept accepts
    · cases same
  · intro l left call l' suspended kept done
    rcases invoke_ledger done with ⟨_, _, same⟩ | ⟨world, pending, accepts, same⟩
    · cases same
    · cases same
      exact recorded_calling kept accepts
  · intro l left suspended reply l' kept done
    rw [resume_ledger done]
    exact recorded_resumed kept

end VapiArc.Router
