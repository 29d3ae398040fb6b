import VapiArc.Lib.Transition

/-!
# Calls that nest and may be undone

A component runs calls. A call either finishes, or hands control to other code with
work of its own left to do; that code may call the component again, any number of
times, before it answers. A call that fails restores the state it was entered in, and
so does other code that fails after it called the component.
-/
namespace Reentrancy

open Transition

variable {σ α κ ρ ε : Type}

/-- Where a call that has not failed stands. -/
inductive Progress (σ κ : Type) where
  | finished (s : σ)
  | calling (s : σ) (pending : κ)

def Progress.state : Progress σ κ → σ
  | .finished s => s
  | .calling s _ => s

structure Component (σ α κ ρ ε : Type) where
  invoke : σ → α → Except ε (Progress σ κ)
  resume : σ → κ → ρ → Except ε σ

/-- An open frame: the work its call has left and the state to restore when it fails.
A frame of other code has no work that the component knows of. -/
structure Frame (σ κ : Type) where
  pending : Option κ
  saved : σ

/-- The state and the open frames, the innermost first. -/
structure Stacked (σ κ : Type) where
  current : σ
  frames : List (Frame σ κ)

def Stacked.idle (s : σ) : Stacked σ κ := ⟨s, []⟩

inductive Step (α ρ : Type) where
  | invoke (call : α)
  | answer (reply : ρ)
  | enter
  | leave
  | rollback

/-- Only the innermost frame answers, returns or fails. -/
def admits (v : Stacked σ κ) : Step α ρ → Prop
  | .invoke _ => True
  | .answer _ => ∃ pending saved below, v.frames = ⟨some pending, saved⟩ :: below
  | .enter => True
  | .leave => ∃ saved below, v.frames = ⟨none, saved⟩ :: below
  | .rollback => ∃ saved below, v.frames = ⟨none, saved⟩ :: below

namespace Component

variable (C : Component σ α κ ρ ε)

def next (v : Stacked σ κ) : Step α ρ → Stacked σ κ
  | .invoke call =>
    match C.invoke v.current call with
    | .error _ => v
    | .ok (.finished s) => ⟨s, v.frames⟩
    | .ok (.calling s pending) => ⟨s, ⟨some pending, v.current⟩ :: v.frames⟩
  | .answer reply =>
    match v.frames with
    | ⟨some pending, saved⟩ :: below =>
      match C.resume v.current pending reply with
      | .error _ => ⟨saved, below⟩
      | .ok s => ⟨s, below⟩
    | _ => v
  | .enter => ⟨v.current, ⟨none, v.current⟩ :: v.frames⟩
  | .leave =>
    match v.frames with
    | ⟨none, _⟩ :: below => ⟨v.current, below⟩
    | _ => v
  | .rollback =>
    match v.frames with
    | ⟨none, saved⟩ :: below => ⟨saved, below⟩
    | _ => v

def system : System (Stacked σ κ) (Step α ρ) := ⟨admits, C.next⟩

/-- The step ends the innermost frame with a failure. -/
def Undoes (v : Stacked σ κ) : Step α ρ → Prop
  | .answer reply => ∃ pending saved below error, v.frames = ⟨some pending, saved⟩ :: below ∧
      C.resume v.current pending reply = .error error
  | .rollback => True
  | _ => False

/-- Everything one step can do. -/
inductive Does : Stacked σ κ → Step α ρ → Stacked σ κ → Prop
  | refused {v call error} : C.invoke v.current call = .error error → Does v (.invoke call) v
  | finished {v call s} : C.invoke v.current call = .ok (.finished s) →
      Does v (.invoke call) ⟨s, v.frames⟩
  | calling {v call s pending} : C.invoke v.current call = .ok (.calling s pending) →
      Does v (.invoke call) ⟨s, ⟨some pending, v.current⟩ :: v.frames⟩
  | resumed {now pending saved below reply s} : C.resume now pending reply = .ok s →
      Does ⟨now, ⟨some pending, saved⟩ :: below⟩ (.answer reply) ⟨s, below⟩
  | entered {v} : Does v .enter ⟨v.current, ⟨none, v.current⟩ :: v.frames⟩
  | left {now saved below} : Does ⟨now, ⟨none, saved⟩ :: below⟩ .leave ⟨now, below⟩
  | undone {now frame below t} : C.Undoes ⟨now, frame :: below⟩ t →
      Does ⟨now, frame :: below⟩ t ⟨frame.saved, below⟩

variable {C} {v : Stacked σ κ} {t : Step α ρ}

theorem next_invoked {call : α} {progress : Progress σ κ}
    (done : C.invoke v.current call = .ok progress) :
    (C.next v (.invoke call)).current = progress.state := by
  cases progress <;> simp [next, done, Progress.state]

theorem answer_effective {now saved s : σ} {pending : κ} {below : List (Frame σ κ)} {reply : ρ}
    (done : C.resume now pending reply = .ok s) :
    ¬ C.Undoes ⟨now, ⟨some pending, saved⟩ :: below⟩ (.answer reply) := by
  rintro ⟨_, _, _, _, same, failed⟩
  cases same
  rw [done] at failed
  cases failed

theorem next_does (admitted : admits v t) : C.Does v t (C.next v t) := by
  cases t with
  | invoke call =>
    simp only [next]
    split
    next failed => exact .refused failed
    next done => exact .finished done
    next calls => exact .calling calls
  | answer reply =>
    obtain ⟨now, frames⟩ := v
    obtain ⟨pending, saved, below, rfl⟩ := admitted
    simp only [next]
    split
    next failed => exact .undone ⟨pending, saved, below, _, rfl, failed⟩
    next done => exact .resumed done
  | enter => exact .entered
  | leave =>
    obtain ⟨now, frames⟩ := v
    obtain ⟨saved, below, rfl⟩ := admitted
    exact .left
  | rollback =>
    obtain ⟨now, frames⟩ := v
    obtain ⟨saved, below, rfl⟩ := admitted
    exact .undone trivial

/-- `I` holds now, and would hold again after any failure. -/
structure Holds (I : σ → Prop) (v : Stacked σ κ) : Prop where
  current : I v.current
  saved : ∀ frame ∈ v.frames, I frame.saved

/-- What calls preserve holds in every state that is reached, also between a call of
other code and its answer. -/
theorem holds {start : Stacked σ κ} {history : List (Stacked σ κ × Step α ρ)} (I : σ → Prop)
    (run : Run C.system start history v) (initial : Holds I start)
    (invoked : ∀ s call progress, I s → C.invoke s call = .ok progress → I progress.state)
    (resumed : ∀ s pending reply s', I s → C.resume s pending reply = .ok s' → I s') :
    Holds I v := by
  refine run.invariant (Holds I) initial ?_
  intro v t kept admitted
  have does : C.Does v t (C.next v t) := next_does admitted
  change Holds I (C.next v t)
  generalize C.next v t = w at does
  cases does with
  | refused failed => exact kept
  | finished done => exact ⟨invoked _ _ _ kept.current done, kept.saved⟩
  | calling calls =>
    refine ⟨invoked _ _ _ kept.current calls, ?_⟩
    intro frame member
    rcases List.mem_cons.mp member with rfl | older
    · exact kept.current
    · exact kept.saved frame older
  | resumed done =>
    exact ⟨resumed _ _ _ _ kept.current done, fun frame older =>
      kept.saved frame (List.mem_cons_of_mem _ older)⟩
  | entered =>
    refine ⟨kept.current, ?_⟩
    intro frame member
    rcases List.mem_cons.mp member with rfl | older
    · exact kept.current
    · exact kept.saved frame older
  | left => exact ⟨kept.current, fun frame older => kept.saved frame (List.mem_cons_of_mem _ older)⟩
  | undone failed =>
    exact ⟨kept.saved _ List.mem_cons_self, fun frame older =>
      kept.saved frame (List.mem_cons_of_mem _ older)⟩

/-- The work that the open frames have left, the innermost first. -/
def owed (frames : List (Frame σ κ)) : List κ := frames.filterMap Frame.pending

/-- `I` holds now of the work left, and would hold again after any failure. -/
structure HoldsOwing (I : σ → List κ → Prop) (v : Stacked σ κ) : Prop where
  current : I v.current (owed v.frames)
  saved : ∀ frame below, (frame :: below) <:+ v.frames → I frame.saved (owed below)

/-- A frame that opens saves a state that `I` holds of. -/
theorem HoldsOwing.push {I : σ → List κ → Prop} (kept : HoldsOwing I v) {s : σ}
    {pending : Option κ} (here : I s (owed (⟨pending, v.current⟩ :: v.frames))) :
    HoldsOwing I ⟨s, ⟨pending, v.current⟩ :: v.frames⟩ := by
  refine ⟨here, fun frame below suffix => ?_⟩
  rcases List.suffix_cons_iff.mp suffix with whole | older
  · cases whole
    exact kept.current
  · exact kept.saved frame below older

theorem HoldsOwing.pop {I : σ → List κ → Prop} {now s : σ} {frame : Frame σ κ}
    {below : List (Frame σ κ)} (kept : HoldsOwing I ⟨now, frame :: below⟩)
    (here : I s (owed below)) : HoldsOwing I ⟨s, below⟩ :=
  ⟨here, fun older rest suffix => kept.saved older rest (suffix.trans (List.suffix_cons _ _))⟩

/-- What calls preserve when it may depend on the work that the open frames have left. -/
theorem holds_owing {start : Stacked σ κ} {history : List (Stacked σ κ × Step α ρ)}
    (I : σ → List κ → Prop) (run : Run C.system start history v) (initial : HoldsOwing I start)
    (finished : ∀ s left call s', I s left → C.invoke s call = .ok (.finished s') → I s' left)
    (calling : ∀ s left call s' pending, I s left →
      C.invoke s call = .ok (.calling s' pending) → I s' (pending :: left))
    (resumed : ∀ s left pending reply s', I s (pending :: left) →
      C.resume s pending reply = .ok s' → I s' left) : HoldsOwing I v := by
  refine run.invariant (HoldsOwing I) initial ?_
  intro v t kept admitted
  have does : C.Does v t (C.next v t) := next_does admitted
  change HoldsOwing I (C.next v t)
  generalize C.next v t = w at does
  cases does with
  | refused failed => exact kept
  | finished done => exact ⟨finished _ _ _ _ kept.current done, kept.saved⟩
  | calling calls => exact kept.push (calling _ _ _ _ _ kept.current calls)
  | resumed done => exact kept.pop (resumed _ _ _ _ _ kept.current done)
  | entered => exact kept.push kept.current
  | left => exact kept.pop kept.current
  | undone failed => exact kept.pop (kept.saved _ _ (List.suffix_refl _))

/-- The states reached from `u` without undoing it: frames that fail were opened
after `u`. `floor` counts the frames of `u` that are still open. -/
inductive Since (C : Component σ α κ ρ ε) (u : Stacked σ κ) :
    Nat → List (Stacked σ κ × Step α ρ) → Stacked σ κ → Prop
  | refl : Since C u u.frames.length [] u
  | step {floor later v} (t : Step α ρ) : Since C u floor later v → admits v t →
      (C.Undoes v t → floor < v.frames.length) →
      Since C u (min floor (C.next v t).frames.length) ((v, t) :: later) (C.next v t)

namespace Since

variable {u : Stacked σ κ} {floor : Nat} {later : List (Stacked σ κ × Step α ρ)}

theorem run (since : Since C u floor later v) : Run C.system u later v := by
  induction since with
  | refl => exact .refl
  | step t _ admitted _ ih => exact .step t ih admitted

theorem floor_le (since : Since C u floor later v) :
    floor ≤ u.frames.length ∧ floor ≤ v.frames.length := by
  induction since with
  | refl => exact ⟨le_refl _, le_refl _⟩
  | step t _ _ _ ih => exact ⟨(min_le_left _ _).trans ih.1, min_le_right _ _⟩

/-- What `u` is related to now and in every frame opened since. -/
structure Related (R : σ → σ → Prop) (u : Stacked σ κ) (floor : Nat) (v : Stacked σ κ) :
    Prop where
  current : R u.current v.current
  frames : ∃ opened, v.frames = opened ++ u.frames.drop (u.frames.length - floor) ∧
    ∀ frame ∈ opened, R u.current frame.saved

/-- Dropping the innermost frame either drops one opened since, or lowers the floor. -/
theorem Related.pop {R : σ → σ → Prop} {now : σ} {frame : Frame σ κ} {below : List (Frame σ κ)}
    (related : Related R u floor ⟨now, frame :: below⟩) (bounded : floor ≤ u.frames.length)
    {s : σ} (here : R u.current s) : Related R u (min floor below.length) ⟨s, below⟩ := by
  obtain ⟨-, opened, shape, saved⟩ := related
  refine ⟨here, ?_⟩
  have count : (u.frames.drop (u.frames.length - floor)).length = floor := by
    rw [List.length_drop]
    omega
  cases opened with
  | nil =>
    -- the frame is one of `u`'s own
    have own : frame :: below = u.frames.drop (u.frames.length - floor) := shape
    have total : below.length + 1 = floor := by rw [← count, ← own, List.length_cons]
    refine ⟨[], ?_, by simp⟩
    have one : u.frames.length - min floor below.length = (u.frames.length - floor) + 1 := by omega
    rw [one, ← List.drop_drop, ← own]
    rfl
  | cons newest rest =>
    obtain ⟨rfl, rfl⟩ : frame = newest ∧ below = rest ++ _ := List.cons_eq_cons.mp shape
    refine ⟨rest, ?_, fun frame member => saved frame (List.mem_cons_of_mem _ member)⟩
    have low : min floor (rest ++ u.frames.drop (u.frames.length - floor)).length = floor := by
      rw [List.length_append, count]
      omega
    rw [low]

/-- A preorder that calls respect relates `u` to everything reached without undoing it. -/
theorem related (R : σ → σ → Prop) (refl : ∀ s, R s s)
    (trans : ∀ a b c, R a b → R b c → R a c)
    (invoked : ∀ s call progress, C.invoke s call = .ok progress → R s progress.state)
    (resumed : ∀ s pending reply s', C.resume s pending reply = .ok s' → R s s')
    (since : Since C u floor later v) : Related R u floor v := by
  induction since with
  | refl => exact ⟨refl _, [], by simp, by simp⟩
  | @step floor later v t since admitted kept ih =>
    have bounds := since.floor_le
    have does : C.Does v t (C.next v t) := next_does admitted
    generalize C.next v t = w at does ⊢
    -- a push keeps the floor and opens a frame that saves the current state
    have push {s : σ} {pending : Option κ} (here : R u.current s) : Related R u
        (min floor (⟨pending, v.current⟩ :: v.frames : List (Frame σ κ)).length)
        ⟨s, ⟨pending, v.current⟩ :: v.frames⟩ := by
      obtain ⟨current, opened, shape, saved⟩ := ih
      have low : min floor (⟨pending, v.current⟩ :: v.frames : List (Frame σ κ)).length =
          floor := by
        rw [List.length_cons]
        omega
      rw [low]
      refine ⟨here, ⟨pending, v.current⟩ :: opened, congrArg (_ :: ·) shape, ?_⟩
      intro frame member
      rcases List.mem_cons.mp member with rfl | older
      · exact current
      · exact saved frame older
    -- the other steps leave the frames below the floor alone
    have same : min floor v.frames.length = floor := min_eq_left bounds.2
    cases does with
    | refused failed =>
      rw [same]
      exact ih
    | finished done =>
      rw [same]
      exact ⟨trans _ _ _ ih.current (invoked _ _ _ done), ih.frames⟩
    | calling calls => exact push (trans _ _ _ ih.current (invoked _ _ _ calls))
    | resumed done => exact ih.pop bounds.1 (trans _ _ _ ih.current (resumed _ _ _ _ done))
    | entered => exact push ih.current
    | left => exact ih.pop bounds.1 ih.current
    | @undone now frame below t failed =>
      refine ih.pop bounds.1 ?_
      obtain ⟨-, opened, shape, saved⟩ := ih
      -- the frame that fails lies above the floor
      have above := kept failed
      cases opened with
      | nil =>
        have total := congrArg List.length (show frame :: below = _ from shape)
        rw [List.nil_append, List.length_drop] at total
        simp only at above
        omega
      | cons newest rest =>
        obtain ⟨rfl, -⟩ : frame = newest ∧ below = rest ++ _ := List.cons_eq_cons.mp shape
        exact saved frame List.mem_cons_self

end Since

/-- A call that fails leaves the state it was entered in, whatever other code did
before it answered. -/
theorem next_undone {u : Stacked σ κ} {call : α} {s : σ} {pending : κ} {floor : Nat}
    {later : List (Stacked σ κ × Step α ρ)}
    (calls : C.invoke u.current call = .ok (.calling s pending))
    (since : Since C (C.next u (.invoke call)) floor later v)
    (innermost : v.frames.length = u.frames.length + 1) (open_ : floor = u.frames.length + 1)
    (admitted : admits v t) (fails : C.Undoes v t) : C.next v t = u := by
  have entered : C.next u (.invoke call) = ⟨s, ⟨some pending, u.current⟩ :: u.frames⟩ := by
    simp [next, calls]
  obtain ⟨-, opened, shape, -⟩ := since.related (fun _ _ => True) (fun _ => trivial)
    (fun _ _ _ _ _ => trivial) (fun _ _ _ _ => trivial) (fun _ _ _ _ _ => trivial)
  rw [entered, open_] at shape
  simp only [List.length_cons, Nat.sub_self, List.drop_zero] at shape
  have none_ : opened = [] := by
    have total := congrArg List.length shape
    rw [List.length_append, List.length_cons] at total
    exact List.eq_nil_of_length_eq_zero (by omega)
  subst none_
  obtain ⟨now, frames⟩ := v
  obtain rfl : frames = _ := shape
  have does : C.Does _ t (C.next _ t) := next_does admitted
  generalize C.next _ t = w at does ⊢
  cases does with
  | undone _ => rfl
  | resumed done => exact absurd fails (answer_effective done)
  | refused => exact fails.elim
  | finished => exact fails.elim
  | calling => exact fails.elim
  | entered => exact fails.elim

/-- A step of the history made `Q` true, and has not been undone: of its frames, at
most `height` are still open. -/
structure Origin (C : Component σ α κ ρ ε) (Q : σ → Prop)
    (history : List (Stacked σ κ × Step α ρ)) (height : Nat) (v : Stacked σ κ)
    (entry : Stacked σ κ × Step α ρ) : Prop where
  before : ¬ Q entry.1.current
  after : Q (C.next entry.1 entry.2).current
  admitted : admits entry.1 entry.2
  effective : ¬ C.Undoes entry.1 entry.2
  since : ∃ later earlier floor, history = later ++ entry :: earlier ∧ floor ≤ height ∧
    Since C (C.next entry.1 entry.2) floor later v

namespace Origin

variable {Q : σ → Prop} {history : List (Stacked σ κ × Step α ρ)} {height : Nat}
  {entry : Stacked σ κ × Step α ρ}

theorem mem (origin : Origin C Q history height v entry) : entry ∈ history := by
  obtain ⟨later, earlier, floor, rfl, -, -⟩ := origin.since
  simp

/-- When answers make nothing true, the origin is an accepted call. -/
theorem invoked (origin : Origin C Q history height v entry)
    (resumed : ∀ s pending reply s', C.resume s pending reply = .ok s' → Q s' → Q s) :
    ∃ call progress, entry.2 = .invoke call ∧
      C.invoke entry.1.current call = .ok progress ∧ Q progress.state := by
  obtain ⟨u, t⟩ := entry
  obtain ⟨before, after, admitted, effective, -⟩ := origin
  have does : C.Does u t (C.next u t) := next_does admitted
  generalize C.next u t = w at does after
  cases does with
  | refused failed => exact absurd after before
  | finished done => exact ⟨_, _, rfl, done, after⟩
  | calling calls => exact ⟨_, _, rfl, calls, after⟩
  | resumed done => exact absurd (resumed _ _ _ _ done after) before
  | entered => exact absurd after before
  | left => exact absurd after before
  | undone failed => exact absurd failed effective

/-- The origin stays one as long as what fails was opened after it. -/
theorem step (origin : Origin C Q history height v entry) (admitted : admits v t)
    (kept : C.Undoes v t → height < v.frames.length) {height' : Nat}
    (low : min height (C.next v t).frames.length ≤ height') :
    Origin C Q ((v, t) :: history) height' (C.next v t) entry := by
  obtain ⟨later, earlier, floor, rfl, bounded, since⟩ := origin.since
  refine ⟨origin.before, origin.after, origin.admitted, origin.effective, (v, t) :: later, earlier,
    _, rfl, ?_, since.step t admitted ?_⟩
  · omega
  · intro failed
    have := kept failed
    omega

end Origin

/-- Everything that holds now, or would hold again after a failure, has an origin. -/
structure Originated (C : Component σ α κ ρ ε) (Q : σ → Prop)
    (history : List (Stacked σ κ × Step α ρ)) (v : Stacked σ κ) : Prop where
  current : Q v.current → ∃ entry, Origin C Q history v.frames.length v entry
  saved : ∀ frame below, frame :: below <:+ v.frames → Q frame.saved →
    ∃ entry, Origin C Q history below.length v entry

/-- What did not hold at the start was made true by a step that is still in effect. -/
theorem originated {s : σ} {history : List (Stacked σ κ × Step α ρ)} (Q : σ → Prop)
    (run : Run C.system (.idle s) history v) (initial : ¬ Q s) : Originated C Q history v := by
  refine run.historyInvariant (Originated C Q) ⟨fun holds => absurd holds initial, ?_⟩ ?_
  · intro frame below suffix
    cases (List.suffix_nil.mp suffix)
  · intro history v t run kept admitted
    change Originated C Q ((v, t) :: history) (C.next v t)
    have does : C.Does v t (C.next v t) := next_does admitted
    -- a frame that was open before keeps its origin, unless it is the one that fails
    have older (frame : Frame σ κ) (below : List (Frame σ κ)) (suffix : frame :: below <:+ v.frames)
        (high : C.Undoes v t → below.length < (C.next v t).frames.length ∧
          (C.next v t).frames.length < v.frames.length) (holds : Q frame.saved) :
        ∃ entry, Origin C Q ((v, t) :: history) below.length (C.next v t) entry := by
      obtain ⟨entry, origin⟩ := kept.saved frame below suffix holds
      refine ⟨entry, origin.step admitted (fun failed => ?_) (min_le_left _ _)⟩
      have := high failed
      omega
    -- a step that ends without a failure keeps the current origin, or is one
    have fresh (effective : ¬ C.Undoes v t) (holds : Q (C.next v t).current) :
        ∃ entry, Origin C Q ((v, t) :: history) (C.next v t).frames.length (C.next v t) entry := by
      by_cases already : Q v.current
      · obtain ⟨entry, origin⟩ := kept.current already
        exact ⟨entry, origin.step admitted (absurd · effective)
          (min_le_right _ _)⟩
      · exact ⟨(v, t), already, holds, admitted, effective, [], history, _, rfl, le_refl _, .refl⟩
    -- a frame opened by the step saves the state before it
    have pushed (effective : ¬ C.Undoes v t) (holds : Q v.current) :
        ∃ entry, Origin C Q ((v, t) :: history) v.frames.length (C.next v t) entry := by
      obtain ⟨entry, origin⟩ := kept.current holds
      exact ⟨entry, origin.step admitted (absurd · effective) (min_le_left _ _)⟩
    have push (effective : ¬ C.Undoes v t) (pending : Option κ) (frame : Frame σ κ)
        (below : List (Frame σ κ)) (suffix : frame :: below <:+ ⟨pending, v.current⟩ :: v.frames)
        (holds : Q frame.saved) :
        ∃ entry, Origin C Q ((v, t) :: history) below.length (C.next v t) entry := by
      rcases List.suffix_cons_iff.mp suffix with newest | old
      · cases newest
        exact pushed effective holds
      · exact older frame below old (absurd · effective) holds
    -- what is restored keeps its origin, which lies below the frame that fails
    have restored (frame : Frame σ κ) (below : List (Frame σ κ))
        (suffix : frame :: below <:+ v.frames) (holds : Q frame.saved) :
        ∃ entry, Origin C Q ((v, t) :: history) (C.next v t).frames.length (C.next v t) entry := by
      obtain ⟨entry, origin⟩ := kept.saved frame below suffix holds
      exact ⟨entry, origin.step admitted (fun _ => suffix.length_le) (min_le_right _ _)⟩
    -- each kind of step, with the frames that it opens, closes or restores
    generalize C.next v t = w at does older fresh pushed push restored ⊢
    cases does with
    | refused failed =>
      exact ⟨fresh id, fun frame below suffix => older frame below suffix (absurd · id)⟩
    | finished done =>
      exact ⟨fresh id, fun frame below suffix => older frame below suffix (absurd · id)⟩
    | calling calls => exact ⟨fresh id, push id (some _)⟩
    | entered => exact ⟨fresh id, push id none⟩
    | left =>
      exact ⟨fresh id, fun frame below suffix =>
        older frame below (suffix.trans (List.suffix_cons _ _)) (absurd · id)⟩
    | @resumed now pending saved below reply s done =>
      have effective := @answer_effective _ _ _ _ _ C now saved s pending below reply done
      exact ⟨fresh effective, fun frame below suffix =>
        older frame below (suffix.trans (List.suffix_cons _ _)) (absurd · effective)⟩
    | @undone now frame below t failed =>
      refine ⟨restored frame below (List.suffix_refl _), fun other lower suffix => ?_⟩
      exact older other lower (suffix.trans (List.suffix_cons _ _))
        (fun _ => ⟨suffix.length_le, Nat.lt_succ_self _⟩)

end Component

end Reentrancy
