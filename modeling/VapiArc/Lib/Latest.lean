import Mathlib

/-!
# The latest entry of a log

The positions of a log's entries rise. Of the entries that a question is about the latest is the
last one in the log, in whatever order they are listed.
-/
namespace Latest

variable {α β : Type} [LinearOrder β] {position : α → β} {log listed : List α}

def Ordered (position : α → β) (log : List α) : Prop := log.Pairwise (position · < position ·)

theorem Ordered.filter (ordered : Ordered position log) (p : α → Bool) :
    Ordered position (log.filter p) := List.Pairwise.filter p ordered

/-- The entry with the highest position is the last one of the log. -/
theorem argmax_of_perm (ordered : Ordered position log) (perm : listed.Perm log) :
    listed.argmax position = log.getLast? := by
  rcases List.eq_nil_or_concat log with rfl | ⟨before, last, rfl⟩
  · rw [perm.eq_nil]
    rfl
  · rw [List.concat_eq_append] at ordered perm ⊢
    rw [List.getLast?_concat]
    cases found : listed.argmax position with
    | none =>
      rw [List.argmax_eq_none.mp found] at perm
      exact absurd perm.symm.eq_nil (by simp)
    | some latest =>
      have member := perm.subset (List.argmax_mem found)
      have highest : position last ≤ position latest :=
        List.le_of_mem_argmax (perm.symm.subset (by simp)) found
      rcases List.mem_append.mp member with old | new
      · -- an entry before the last one has a lower position
        have lower := (List.pairwise_append.mp ordered).2.2 latest old last (by simp)
        exact absurd highest (not_le.mpr lower)
      · rw [List.mem_singleton.mp new]

/-- Among the entries from some point on, the last one is the last of all. -/
theorem getLast?_filter {p : α → Bool} (closed : log.Pairwise fun a b => p a = true → p b = true) :
    (log.filter p).getLast? = log.getLast?.filter p := by
  rcases List.eq_nil_or_concat log with rfl | ⟨before, last, rfl⟩
  · rfl
  · rw [List.concat_eq_append] at closed ⊢
    rw [List.getLast?_concat, List.filter_append]
    cases inside : p last with
    | true => simp [inside, Option.filter]
    | false =>
      have none_ : before.filter p = [] := by
        rw [List.filter_eq_nil_iff]
        intro a member holds
        have later := (List.pairwise_append.mp closed).2.2 a member last (by simp) holds
        simp [inside] at later
      simp [inside, none_, Option.filter]

end Latest
