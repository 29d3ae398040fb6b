import Mathlib

/-!
# Admission by the weight of a prefix

Items are admitted one by one under a limit. Each counts the weights of the items that come
before it in some order, whatever the order in which the items are checked.
-/
namespace Admission

variable {ι : Type} (before : ι → ι → Bool) (weight : ι → ℕ)

/-- What an item counts. -/
def through (items : List ι) (item : ι) : ℕ := ((items.filter (before · item)).map weight).sum

variable {before weight} {items : List ι} {item : ι}

@[simp] theorem through_nil : through before weight [] item = 0 := rfl

theorem through_cons (first : ι) : through before weight (first :: items) item =
    (if before first item then weight first else 0) + through before weight items item := by
  unfold through
  rw [List.filter_cons]
  split <;> simp

theorem through_append (more : List ι) : through before weight (items ++ more) item =
    through before weight items item + through before weight more item := by
  simp [through]

theorem through_sublist {fewer : List ι} (sublist : fewer.Sublist items) :
    through before weight fewer item ≤ through before weight items item :=
  ((sublist.filter _).map weight).sum_le_sum fun _ _ => Nat.zero_le _

/-- Items change places: they do not get heavier, nor in front of the item that counts. -/
theorem through_map {weight' : ι → ℕ} {change : ι → ι} {item' : ι}
    (behind : ∀ x ∈ items, before (change x) item' = true →
      before x item = true ∧ weight' (change x) ≤ weight x) :
    through before weight' (items.map change) item' ≤ through before weight items item := by
  induction items with
  | nil => exact Nat.zero_le _
  | cons first items ih =>
    have rest := ih fun x member => behind x (List.mem_cons_of_mem _ member)
    rw [List.map_cons, through_cons, through_cons]
    have here := behind first List.mem_cons_self
    split
    next ahead =>
      rw [if_pos (here ahead).1]
      exact Nat.add_le_add (here ahead).2 rest
    next => exact (Nat.zero_add _).trans_le (rest.trans (Nat.le_add_left _ _))

theorem through_mono {item' : ι} (counted : ∀ x ∈ items, before x item = true → before x item' = true) :
    through before weight items item ≤ through before weight items item' := by
  have fewer : through before weight (items.map id) item ≤ through before weight items item' :=
    through_map fun x member front => ⟨counted x member front, Nat.le_refl _⟩
  rwa [List.map_id] at fewer

/-- An item that leaves takes its weight out of what counts it. -/
theorem through_filter {keep : ι → Bool} {gone : ι} (member : gone ∈ items)
    (removed : keep gone = false) (ahead : before gone item = true) :
    through before weight (items.filter keep) item + weight gone ≤
      through before weight items item := by
  induction items with
  | nil => cases member
  | cons first items ih =>
    rw [through_cons, List.filter_cons]
    rcases List.mem_cons.mp member with rfl | inside
    · have fewer : through before weight (items.filter keep) item ≤ through before weight items item :=
        through_sublist List.filter_sublist
      rw [if_neg (by simp [removed]), if_pos ahead]
      omega
    · have rest := ih inside
      split
      next =>
        rw [through_cons]
        omega
      next => omega

/-- An item counts what any item in front of it counts, and its own weight. -/
theorem through_add_le {last : ι} (trans : ∀ a b c, before a b = true → before b c = true →
      before a c = true) (refl : ∀ a, before a a = true) (member : last ∈ items)
    (ahead : before item last = true) (behind : before last item = false) :
    through before weight items item + weight last ≤ through before weight items last := by
  have counted : ∀ x, before x item = true → before x last = true := fun x front =>
    trans x item last front ahead
  induction items with
  | nil => cases member
  | cons first items ih =>
    rw [through_cons, through_cons]
    rcases List.mem_cons.mp member with rfl | inside
    · have fewer : through before weight items item ≤ through before weight items last :=
        through_mono fun x _ => counted x
      rw [if_neg (by simp [behind]), if_pos (refl last)]
      omega
    · have rest := ih inside
      by_cases front : before first item = true
      · rw [if_pos front, if_pos (counted first front)]
        omega
      · rw [if_neg front]
        omega

theorem exists_last (trans : ∀ a b c, before a b = true → before b c = true → before a c = true)
    (total : ∀ a b, before a b = true ∨ before b a = true) (nonempty : items ≠ []) :
    ∃ last ∈ items, ∀ x ∈ items, before x last = true := by
  induction items with
  | nil => exact absurd rfl nonempty
  | cons first items ih =>
    have refl (a : ι) : before a a = true := (total a a).elim id id
    by_cases rest : items = []
    · subst rest
      exact ⟨first, List.mem_cons_self, by simp [refl]⟩
    · obtain ⟨last, member, front⟩ := ih rest
      rcases total first last with ahead | behind
      · refine ⟨last, List.mem_cons_of_mem _ member, fun x inside => ?_⟩
        rcases List.mem_cons.mp inside with rfl | inside
        · exact ahead
        · exact front x inside
      · refine ⟨first, List.mem_cons_self, fun x inside => ?_⟩
        rcases List.mem_cons.mp inside with rfl | inside
        · exact refl x
        · exact trans x last first (front x inside) behind

/-- The last of some items counts all of them. -/
theorem total_le (trans : ∀ a b c, before a b = true → before b c = true → before a c = true)
    (total : ∀ a b, before a b = true ∨ before b a = true) {admitted : List ι}
    (sublist : admitted.Sublist items) {limit : ℕ}
    (each : ∀ x ∈ admitted, through before weight items x ≤ limit) :
    (admitted.map weight).sum ≤ limit := by
  by_cases nonempty : admitted = []
  · subst nonempty
    exact Nat.zero_le _
  · obtain ⟨last, member, front⟩ := exists_last trans total nonempty
    calc (admitted.map weight).sum
        = through before weight admitted last := by
          rw [through, List.filter_eq_self.mpr front]
      _ ≤ through before weight items last := through_sublist sublist
      _ ≤ limit := each last member

end Admission
