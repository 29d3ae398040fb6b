import Mathlib

/-!
# Threshold votes

Two options, a number of votes that decides, and a default. The verdict is a
function of the multiset of votes, so neither order nor authorship matter to it.
-/
namespace Threshold

variable {α : Type} [DecidableEq α] {threshold : Nat} {first second : α} {votes : Multiset α}

/-- The first option that has enough votes; nothing when neither has. -/
def verdict (threshold : Nat) (first second : α) (votes : Multiset α) : Option α :=
  if threshold ≤ votes.count first then some first
  else if threshold ≤ votes.count second then some second
  else none

theorem count_add_count_le (votes : Multiset α) (distinct : first ≠ second) :
    votes.count first + votes.count second ≤ votes.card := by
  -- a vote is for at most one of the two options
  induction votes using Multiset.induction with
  | empty => simp
  | cons vote votes ih =>
    rw [Multiset.count_cons, Multiset.count_cons, Multiset.card_cons]
    by_cases one : first = vote
    · have other : second ≠ vote := fun two => distinct (one.trans two.symm)
      rw [if_pos one, if_neg other]
      omega
    · rw [if_neg one]
      split <;> omega

/-- Two options reach the threshold together only in twice as many votes. -/
theorem not_both (distinct : first ≠ second) (few : votes.card < 2 * threshold)
    (one : threshold ≤ votes.count first) : votes.count second < threshold := by
  have sum := count_add_count_le votes distinct
  omega

theorem verdict_first (distinct : first ≠ second) :
    verdict threshold first second votes = some first ↔ threshold ≤ votes.count first := by
  unfold verdict
  by_cases one : threshold ≤ votes.count first
  · simp [one]
  · by_cases two : threshold ≤ votes.count second
    · simp [one, two, distinct.symm]
    · simp [one, two]

theorem verdict_second (distinct : first ≠ second) (few : votes.card < 2 * threshold) :
    verdict threshold first second votes = some second ↔ threshold ≤ votes.count second := by
  unfold verdict
  by_cases one : threshold ≤ votes.count first
  · have two := not_both distinct few one
    simp [one, distinct, two]
  · by_cases two : threshold ≤ votes.count second
    · simp [one, two]
    · simp [one, two]

theorem verdict_none : verdict threshold first second votes = none ↔
    votes.count first < threshold ∧ votes.count second < threshold := by
  unfold verdict
  by_cases one : threshold ≤ votes.count first
  · simp [one]
  · by_cases two : threshold ≤ votes.count second
    · simp [one, two]
    · simp [one, two]
      omega

end Threshold
