import VapiArc.Lib.Transition

/-!
# The request pacer

`createRequestPacer` chains the turns of its callers: a turn begins when the one before it
has settled, waits until the next request is due, and then puts off the one after it. Times
may be any ordered group, such as the milliseconds of a clock.
-/
namespace VapiArc.Judge

open Transition

variable {T : Type} [AddCommGroup T]

/-- A turn of `pace`. -/
abbrev TurnId := Nat

/-- The pacer's variables and its chain: the turns that have not settled are in the order of
their calls, and the first of them may be asleep until a time. All calls and all settled
turns are kept on record, the latter with the times at which they completed. -/
structure PacerState (T : Type) [AddCommGroup T] where
  nextRequestAt : T := 0
  tail : List TurnId := []
  asleep : Option T := none
  clock : T
  called : List TurnId := []
  settled : List (TurnId × Option T) := []

inductive PacerEvent (T : Type) where
  | call (turn : TurnId)
  /-- The first turn begins, and reads the clock once more when it need not wait. -/
  | begin_ (now again : T)
  /-- Its sleep is over. -/
  | wake (now : T)
  /-- Its sleep fails. -/
  | reject
  deriving DecidableEq

namespace PacerState

variable (s : PacerState T)

/-- The first turn settles. -/
def settle (outcome : Option T) : PacerState T :=
  match s.tail with
  | turn :: rest =>
    { s with tail := rest, asleep := none, settled := s.settled ++ [(turn, outcome)] }
  | [] => s

variable {s} in
theorem settle_of_cons {turn : TurnId} {rest : List TurnId} (queue : s.tail = turn :: rest)
    (outcome : Option T) : s.settle outcome =
      { s with tail := rest, asleep := none, settled := s.settled ++ [(turn, outcome)] } := by
  simp [PacerState.settle, queue]

theorem settle_prefix (outcome : Option T) :
    s.settled <+: (s.settle outcome).settled := by
  unfold PacerState.settle
  split
  · exact List.prefix_append _ _
  · exact List.prefix_rfl

/-- `nextRequestAt = now() + minimumIntervalMs`, with which a turn completes. -/
def complete (minimumIntervalMs now : T) : PacerState T :=
  { s.settle (some now) with nextRequestAt := now + minimumIntervalMs, clock := now }

/-- The times of the turns that completed. -/
def completions : List T := s.settled.filterMap Prod.snd

variable [LinearOrder T]

/-- `Math.max(0, nextRequestAt - now())` -/
def waitMs (now : T) : T := max 0 (s.nextRequestAt - now)

end PacerState

variable [LinearOrder T] (minimumIntervalMs : T)

def pacerStep (s : PacerState T) : PacerEvent T → PacerState T
  | .call turn => { s with tail := s.tail ++ [turn], called := s.called ++ [turn] }
  | .begin_ now again =>
    if 0 < s.waitMs now then { s with asleep := some (now + s.waitMs now), clock := now }
    else s.complete minimumIntervalMs again
  | .wake now => s.complete minimumIntervalMs now
  | .reject => s.settle none

/-- The clock does not run backwards, and a sleep lasts as long as it was asked to. -/
def pacer : System (PacerState T) (PacerEvent T) where
  admits s
    | .call turn => turn ∉ s.called
    | .begin_ now again => s.tail ≠ [] ∧ s.asleep = none ∧ s.clock ≤ now ∧ now ≤ again
    | .wake now => s.clock ≤ now ∧ ∃ until_, s.asleep = some until_ ∧ until_ ≤ now
    | .reject => s.asleep.isSome
  next := pacerStep minimumIntervalMs

section Steps

variable {minimumIntervalMs} {s : PacerState T}

/-- When the next request is due: an interval after the last turn that completed. -/
def dueAfter (minimumIntervalMs : T) (completions : List T) : T :=
  match completions.getLast? with
  | some last => last + minimumIntervalMs
  | none => 0

structure Paced (minimumIntervalMs : T) (s : PacerState T) : Prop where
  order : s.settled.map Prod.fst ++ s.tail = s.called
  distinct : s.called.Nodup
  due : s.nextRequestAt = dueAfter minimumIntervalMs s.completions
  spaced : s.completions.IsChain fun earlier later => earlier + minimumIntervalMs ≤ later
  sleeping : ∀ until_, s.asleep = some until_ → until_ = s.nextRequestAt ∧ s.tail ≠ []

/-- A time at which a request is due comes an interval after every completion. -/
theorem spaced_append {completions : List T} {now : T}
    (spaced : completions.IsChain fun earlier later => earlier + minimumIntervalMs ≤ later)
    (due : dueAfter minimumIntervalMs completions ≤ now) :
    (completions ++ [now]).IsChain fun earlier later => earlier + minimumIntervalMs ≤ later := by
  refine List.isChain_append.mpr ⟨spaced, List.isChain_singleton now, ?_⟩
  intro last found _ same
  cases same
  rw [Option.mem_def] at found
  simpa [dueAfter, found] using due

/-- A rejection takes the turn out of the chain, and changes nothing else. -/
theorem Paced.reject (kept : Paced minimumIntervalMs s) (pending : s.tail ≠ []) :
    Paced minimumIntervalMs (s.settle none) := by
  obtain ⟨order, distinct, due, spaced, sleeping⟩ := kept
  obtain ⟨turn, rest, queue⟩ := List.exists_cons_of_ne_nil pending
  have same : (s.settle none).completions = s.completions := by
    simp [PacerState.settle_of_cons queue, PacerState.completions]
  refine ⟨?_, ?_, ?_, ?_, ?_⟩
  · simp [PacerState.settle_of_cons queue, ← order, queue]
  · simpa [PacerState.settle_of_cons queue] using distinct
  · rw [same, ← due, PacerState.settle_of_cons queue]
  · rwa [same]
  · intro until_ asleep
    simp [PacerState.settle_of_cons queue] at asleep

theorem Paced.complete (kept : Paced minimumIntervalMs s) (pending : s.tail ≠ []) {now : T}
    (late : s.nextRequestAt ≤ now) : Paced minimumIntervalMs (s.complete minimumIntervalMs now) := by
  obtain ⟨order, distinct, due, spaced, sleeping⟩ := kept
  obtain ⟨turn, rest, queue⟩ := List.exists_cons_of_ne_nil pending
  have more : (s.complete minimumIntervalMs now).completions = s.completions ++ [now] := by
    simp [PacerState.complete, PacerState.settle_of_cons queue, PacerState.completions]
  refine ⟨?_, ?_, ?_, ?_, ?_⟩
  · simp [PacerState.complete, PacerState.settle_of_cons queue, ← order, queue]
  · simpa [PacerState.complete, PacerState.settle_of_cons queue] using distinct
  · rw [more, dueAfter, List.getLast?_concat]
    rfl
  · rw [more]
    exact spaced_append spaced (due ▸ late)
  · intro until_ asleep
    simp [PacerState.complete, PacerState.settle_of_cons queue] at asleep

variable [IsOrderedAddMonoid T]

/-- A turn that sleeps is due when its sleep ends. -/
theorem add_waitMs {now : T} (waits : 0 < s.waitMs now) : now + s.waitMs now = s.nextRequestAt := by
  have positive : 0 < s.nextRequestAt - now := by simpa [PacerState.waitMs] using waits
  rw [PacerState.waitMs, max_eq_right positive.le, add_sub_cancel]

theorem due_of_waitMs {now : T} (waits : ¬ 0 < s.waitMs now) : s.nextRequestAt ≤ now := by
  have negative : ¬ 0 < s.nextRequestAt - now := by simpa [PacerState.waitMs] using waits
  exact sub_nonpos.mp (not_lt.mp negative)

theorem Paced.step {event : PacerEvent T} (kept : Paced minimumIntervalMs s)
    (admitted : (pacer minimumIntervalMs).admits s event) :
    Paced minimumIntervalMs ((pacer minimumIntervalMs).next s event) := by
  cases event with
  | call turn =>
    have fresh : turn ∉ s.called := admitted
    refine ⟨?_, ?_, kept.due, kept.spaced, fun until_ asleep => ?_⟩
    · simp [pacer, pacerStep, ← kept.order]
    · simpa [pacer, pacerStep] using (List.nodup_concat s.called turn).mpr ⟨fresh, kept.distinct⟩
    · exact ⟨(kept.sleeping until_ asleep).1, by simp [pacer, pacerStep]⟩
  | begin_ now again =>
    obtain ⟨pending, awake, -, later⟩ := admitted
    simp only [pacer, pacerStep]
    split
    next waits =>
      refine ⟨kept.order, kept.distinct, kept.due, kept.spaced, fun until_ asleep => ?_⟩
      cases asleep
      exact ⟨add_waitMs waits, pending⟩
    next due => exact kept.complete pending ((due_of_waitMs due).trans later)
  | wake now =>
    obtain ⟨-, until_, asleep, past⟩ := admitted
    obtain ⟨rfl, pending⟩ := kept.sleeping until_ asleep
    exact kept.complete pending past
  | reject =>
    obtain ⟨until_, asleep⟩ := Option.isSome_iff_exists.mp admitted
    exact kept.reject (kept.sleeping until_ asleep).2

/-- As soon as a request is due, the first turn can complete. -/
theorem Paced.grants (kept : Paced minimumIntervalMs s) {turn : TurnId} {rest : List TurnId}
    (queue : s.tail = turn :: rest) {now : T} (later : s.clock ≤ now)
    (late : s.nextRequestAt ≤ now) :
    ∃ event, (pacer minimumIntervalMs).admits s event ∧
      (pacer minimumIntervalMs).next s event = { s with
        tail := rest, asleep := none, settled := s.settled ++ [(turn, some now)]
        nextRequestAt := now + minimumIntervalMs, clock := now } := by
  cases sleep : s.asleep with
  | none =>
    have awake : ¬ 0 < s.waitMs now := by
      simpa [PacerState.waitMs] using late
    refine ⟨.begin_ now now, ⟨by simp [queue], sleep, later, le_rfl⟩, ?_⟩
    simp only [pacer, pacerStep, if_neg awake, PacerState.complete, PacerState.settle_of_cons queue]
  | some until_ =>
    have due : until_ ≤ now := (kept.sleeping until_ sleep).1 ▸ late
    refine ⟨.wake now, ⟨later, until_, sleep, due⟩, ?_⟩
    simp only [pacer, pacerStep, PacerState.complete, PacerState.settle_of_cons queue]

end Steps

section Runs

variable {minimumIntervalMs} {start : T} {v w : PacerState T}
  {history later : List (PacerState T × PacerEvent T)}

/-- What has settled stays settled, and later turns settle after it. -/
theorem settled_prefix (run : Run (pacer minimumIntervalMs) v later w) :
    v.settled <+: w.settled := by
  refine run.invariant (fun s => v.settled <+: s.settled) List.prefix_rfl ?_
  intro s event before _
  refine before.trans ?_
  cases event with
  | call turn => exact List.prefix_rfl
  | begin_ now again =>
    simp only [pacer, pacerStep]
    split
    · exact List.prefix_rfl
    · exact s.settle_prefix _
  | wake now => exact s.settle_prefix _
  | reject => exact s.settle_prefix _

variable [IsOrderedAddMonoid T]

theorem paced (run : Run (pacer minimumIntervalMs) { clock := start } history v) :
    Paced minimumIntervalMs v := by
  refine run.invariant (Paced minimumIntervalMs) ?_ fun s event kept admitted => kept.step admitted
  exact ⟨rfl, List.nodup_nil, rfl, List.isChain_nil, fun _ asleep => by cases asleep⟩

/-- Turns settle in the order of their calls, those that complete do so an interval apart, and
the first one that has not settled can complete as soon as an interval has passed since the
last one that did, whatever was rejected in between. -/
theorem request_pacer (minimumIntervalMs : T)
    (run : Run (pacer minimumIntervalMs) { clock := start } history v) :
    v.called.Nodup ∧ v.settled.map Prod.fst ++ v.tail = v.called ∧
    (∀ later w, Run (pacer minimumIntervalMs) v later w → v.settled <+: w.settled) ∧
    v.completions.IsChain (fun earlier later => earlier + minimumIntervalMs ≤ later) ∧
    v.nextRequestAt = dueAfter minimumIntervalMs v.completions ∧
    (∀ until_, v.asleep = some until_ → until_ = v.nextRequestAt) ∧
    ∀ turn rest, v.tail = turn :: rest → ∀ now, v.clock ≤ now → v.nextRequestAt ≤ now →
      ∃ event, (pacer minimumIntervalMs).admits v event ∧
        ((pacer minimumIntervalMs).next v event).settled = v.settled ++ [(turn, some now)] := by
  have kept := paced run
  refine ⟨kept.distinct, kept.order, fun later w more => settled_prefix more, kept.spaced, kept.due,
    fun until_ asleep => (kept.sleeping until_ asleep).1, ?_⟩
  intro turn rest queue now later late
  obtain ⟨event, admitted, reached⟩ := kept.grants queue later late
  exact ⟨event, admitted, by rw [reached]⟩

end Runs

namespace PacerWalkthrough

/-- Three callers; the sleep of the second one fails. -/
def path : List (PacerEvent Int) :=
  [.call 1, .call 2, .begin_ 10 11, .call 3, .begin_ 11 11, .reject, .begin_ 12 12, .wake 700]

def reached : PacerState Int := (pacer (650 : Int)).replay { clock := 10 } path

theorem admitted : (pacer (650 : Int)).AdmitsAll { clock := 10 } path := by
  refine ⟨?_, ?_, ?_, ?_, ?_, ?_, ?_, ?_, trivial⟩ <;> simp [pacer, pacerStep, PacerState.waitMs,
    PacerState.complete, PacerState.settle]

theorem run : Run (pacer (650 : Int)) { clock := 10 }
    ((pacer 650).record { clock := 10 } [] path) reached :=
  (pacer (650 : Int)).replay_run .refl path admitted

end PacerWalkthrough

open PacerWalkthrough in
theorem request_pacer_walkthrough :
    reached.settled = [(1, some 11), (2, none), (3, some 700)] ∧
      reached.completions.IsChain (fun earlier later => earlier + 650 ≤ later) :=
  ⟨by decide, (request_pacer 650 run).2.2.2.1⟩

end VapiArc.Judge
