import Mathlib

/-!
# Rolls

A flag that is only ever raised has a roll: the list of the elements it was raised
for, each once, the newest first. Counting flagged elements is counting on the roll.
-/

/-- `l` lists exactly the elements that `flag` marks, each once. -/
structure Roll {α : Type} (flag : α → Bool) (l : List α) : Prop where
  nodup : l.Nodup
  mem : ∀ a, a ∈ l ↔ flag a = true

namespace Roll

variable {α : Type} {flag : α → Bool} {l l' : List α}

theorem nil : Roll (fun _ : α => false) [] := by
  constructor
  · exact List.nodup_nil
  · intro a
    simp

/-- Raising a flag that was down puts its element on the roll. -/
theorem raise [DecidableEq α] (roll : Roll flag l) {a : α} (down : flag a = false) :
    Roll (Function.update flag a true) (a :: l) := by
  -- the flag was down, so the element is not on the roll yet
  have absent : a ∉ l := by
    intro member
    rw [(roll.mem a).mp member] at down
    cases down
  constructor
  · exact List.nodup_cons.mpr ⟨absent, roll.nodup⟩
  · intro b
    by_cases same : b = a
    · simp [same]
    · simp [same, roll.mem b]

/-- The number of flagged elements with a property is a count on the roll. -/
theorem ncard_eq_countP (roll : Roll flag l) (p : α → Bool) :
    {a | flag a = true ∧ p a = true}.ncard = l.countP p := by
  classical
  have listed : {a | flag a = true ∧ p a = true} = ((l.filter p).toFinset : Set α) := by
    ext a
    simp [roll.mem a]
  rw [listed, Set.ncard_coe_finset, List.toFinset_card_of_nodup (roll.nodup.filter p),
    List.countP_eq_length_filter]

theorem ncard_eq_length (roll : Roll flag l) : {a | flag a = true}.ncard = l.length := by
  have all := roll.ncard_eq_countP (fun _ => true)
  simpa using all

/-- At most as many elements are flagged as a set has that holds them all. -/
theorem length_le (roll : Roll flag l) {S : Finset α} (within : ∀ a, flag a = true → a ∈ S) :
    l.length ≤ S.card := by
  classical
  rw [← List.toFinset_card_of_nodup roll.nodup]
  apply Finset.card_le_card
  intro a member
  exact within a ((roll.mem a).mp (List.mem_toFinset.mp member))

/-- With as many flags raised as the set has elements, none of the set is left. -/
theorem full (roll : Roll flag l) {S : Finset α} (within : ∀ a, flag a = true → a ∈ S)
    (many : S.card ≤ l.length) {a : α} (member : a ∈ S) : flag a = true := by
  classical
  -- a subset with as many elements as the whole set is the whole set
  have below : l.toFinset ⊆ S := by
    intro b listed
    exact within b ((roll.mem b).mp (List.mem_toFinset.mp listed))
  have all : l.toFinset = S := by
    apply Finset.eq_of_subset_of_card_le below
    rwa [List.toFinset_card_of_nodup roll.nodup]
  rw [← all] at member
  exact (roll.mem a).mp (List.mem_toFinset.mp member)

end Roll
