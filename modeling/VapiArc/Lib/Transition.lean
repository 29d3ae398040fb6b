import Mathlib

/-!
# Transition systems with recorded histories

`next` is total: a transaction that fails is a step too, one that leaves the
data of the state as it was. A history lists the executed transactions together
with the states they were executed in, the newest first, so that a property of
the past is a property of the history's entries.
-/
namespace Transition

variable {σ τ : Type}

structure System (σ τ : Type) where
  admits : σ → τ → Prop
  next : σ → τ → σ

inductive Run (S : System σ τ) (start : σ) : List (σ × τ) → σ → Prop
  | refl : Run S start [] start
  | step {history s} (t : τ) : Run S start history s → S.admits s t →
      Run S start ((s, t) :: history) (S.next s t)

namespace Run

variable {S : System σ τ} {start s : σ} {history : List (σ × τ)}

/-- What holds at the start and survives every step holds at the end of every run. -/
theorem invariant (I : σ → Prop) (run : Run S start history s) (initial : I start)
    (preserved : ∀ s t, I s → S.admits s t → I (S.next s t)) : I s := by
  induction run with
  | refl => exact initial
  | step t _ admitted ih => exact preserved _ t ih admitted

/-- The invariant rule for properties of the state together with its past. A step
may use that its state ends a run. -/
theorem historyInvariant (J : List (σ × τ) → σ → Prop) (run : Run S start history s)
    (initial : J [] start)
    (preserved : ∀ history s t, Run S start history s → J history s → S.admits s t →
      J ((s, t) :: history) (S.next s t)) : J history s := by
  induction run with
  | refl => exact initial
  | step t run admitted ih => exact preserved _ _ t run ih admitted

theorem trans {middle : σ} {earlier later : List (σ × τ)} (first : Run S start earlier middle)
    (second : Run S middle later s) : Run S start (later ++ earlier) s := by
  induction second with
  | refl => exact first
  | step t _ admitted ih => exact .step t ih admitted

/-- Cut a run at one of its entries. -/
theorem cut {later earlier : List (σ × τ)} {entry : σ × τ}
    (run : Run S start (later ++ entry :: earlier) s) :
    Run S start earlier entry.1 ∧ S.admits entry.1 entry.2 ∧
      Run S (S.next entry.1 entry.2) later s := by
  induction later generalizing s with
  | nil =>
    cases run with
    | step t run admitted => exact ⟨run, admitted, .refl⟩
  | cons newest later ih =>
    cases run with
    | step t run admitted =>
      obtain ⟨before, here, after⟩ := ih run
      exact ⟨before, here, .step t after admitted⟩

theorem of_mem {entry : σ × τ} (run : Run S start history s) (member : entry ∈ history) :
    ∃ earlier later, history = later ++ entry :: earlier ∧ Run S start earlier entry.1 ∧
      S.admits entry.1 entry.2 ∧ Run S (S.next entry.1 entry.2) later s := by
  obtain ⟨later, earlier, rfl⟩ := List.append_of_mem member
  exact ⟨earlier, later, rfl, run.cut⟩

/-- A step that leads into a persistent region from outside of it is taken at most
once: whatever came later started inside the region. -/
theorem atMostOnce (enters : σ × τ → Prop) (inside : σ → Prop)
    (into : ∀ entry, enters entry → inside (S.next entry.1 entry.2))
    (outside : ∀ entry, enters entry → ¬ inside entry.1)
    (persistent : ∀ s t, inside s → S.admits s t → inside (S.next s t))
    {newest between oldest : List (σ × τ)} {second first : σ × τ}
    (run : Run S start (newest ++ second :: between ++ first :: oldest) s)
    (entered : enters first) : ¬ enters second := by
  intro again
  -- cut after the first entry: the second one started later, inside the region
  obtain ⟨_, _, after⟩ := run.cut
  obtain ⟨reached, _, _⟩ := after.cut
  exact outside second again (reached.invariant inside (into first entered) persistent)

end Run

/-- Execute a list of transactions, the oldest first. -/
def System.replay (S : System σ τ) (s : σ) : List τ → σ
  | [] => s
  | t :: rest => S.replay (S.next s t) rest

/-- The history that a replay leaves on top of an earlier one. -/
def System.record (S : System σ τ) (s : σ) (history : List (σ × τ)) : List τ → List (σ × τ)
  | [] => history
  | t :: rest => S.record (S.next s t) ((s, t) :: history) rest

def System.AdmitsAll (S : System σ τ) (s : σ) : List τ → Prop
  | [] => True
  | t :: rest => S.admits s t ∧ S.AdmitsAll (S.next s t) rest

theorem System.replay_run (S : System σ τ) {start s : σ} {history : List (σ × τ)}
    (run : Run S start history s) (ts : List τ) (admitted : S.AdmitsAll s ts) :
    Run S start (S.record s history ts) (S.replay s ts) := by
  induction ts generalizing s history with
  | nil => exact run
  | cons t rest ih => exact ih (.step t run admitted.1) admitted.2

/-- Every state of a replay satisfies `P`. -/
def System.Throughout (S : System σ τ) (P : σ → Prop) (s : σ) : List τ → Prop
  | [] => P s
  | t :: rest => P s ∧ S.Throughout P (S.next s t) rest

theorem System.Throughout.recorded {S : System σ τ} {P : σ → Prop} {s : σ} {ts : List τ}
    {history : List (σ × τ)} (throughout : S.Throughout P s ts)
    (old : ∀ entry ∈ history, P entry.1) :
    (∀ entry ∈ S.record s history ts, P entry.1) ∧ P (S.replay s ts) := by
  induction ts generalizing s history with
  | nil => exact ⟨old, throughout⟩
  | cons t rest ih =>
    refine ih throughout.2 ?_
    intro entry member
    rcases List.mem_cons.mp member with rfl | older
    · exact throughout.1
    · exact old entry older

end Transition
