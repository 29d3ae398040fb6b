import Mathlib

/-!
# Tables with unique columns

A table is the list of its rows. What keeps a column free of repetitions when a row is added
or the row of a key is rewritten, and what rewriting leaves alone.
-/
namespace Table

variable {ρ κ μ : Type} [DecidableEq κ] {rows : List ρ} {key : ρ → κ}

/-- No two rows have the same value in the column. -/
def Unique (column : ρ → μ) (rows : List ρ) : Prop := (rows.map column).Nodup

/-- `UPDATE ... WHERE key = k` -/
def update (key : ρ → κ) (k : κ) (change : ρ → ρ) (rows : List ρ) : List ρ :=
  rows.map fun row => if key row = k then change row else row

theorem Unique.nil (column : ρ → μ) : Unique column ([] : List ρ) := List.nodup_nil

theorem Unique.insert {column : ρ → μ} (unique : Unique column rows) {row : ρ}
    (fresh : ∀ old ∈ rows, column old ≠ column row) : Unique column (rows ++ [row]) := by
  unfold Unique
  rw [List.map_append, List.nodup_append]
  refine ⟨unique, by simp, ?_⟩
  intro value there value' added same
  obtain ⟨old, member, rfl⟩ := List.mem_map.mp there
  rw [List.map_singleton, List.mem_singleton] at added
  exact fresh old member (same.trans added)

/-- Of two rows with the same value in a unique column there is one only. -/
theorem Unique.inj {column : ρ → μ} (unique : Unique column rows) {a b : ρ} (first : a ∈ rows)
    (second : b ∈ rows) (same : column a = column b) : a = b :=
  List.inj_on_of_nodup_map unique first second same

theorem mem_update {k : κ} {change : ρ → ρ} {row : ρ} : row ∈ update key k change rows ↔
    ∃ old ∈ rows, (key old = k ∧ row = change old) ∨ (key old ≠ k ∧ row = old) := by
  simp only [update, List.mem_map]
  constructor
  · rintro ⟨old, member, rfl⟩
    by_cases here : key old = k
    · exact ⟨old, member, .inl ⟨here, if_pos here⟩⟩
    · exact ⟨old, member, .inr ⟨here, if_neg here⟩⟩
  · rintro ⟨old, member, ⟨here, rfl⟩ | ⟨elsewhere, rfl⟩⟩
    · exact ⟨old, member, if_pos here⟩
    · exact ⟨row, member, if_neg elsewhere⟩

/-- A column stays unique if the rewritten row gets a value that no other row has. -/
theorem Unique.update {column : ρ → μ} (keys : Unique key rows) (unique : Unique column rows)
    {k : κ} {change : ρ → ρ}
    (fresh : ∀ row ∈ rows, key row = k → ∀ other ∈ rows, key other ≠ k →
      column other ≠ column (change row)) : Unique column (update key k change rows) := by
  unfold Unique Table.update at *
  rw [List.map_map]
  apply List.pairwise_map.mpr
  have apart := (List.pairwise_map.mp keys).and (List.pairwise_map.mp unique)
  refine apart.imp_of_mem ?_
  rintro a b first second ⟨otherKey, otherValue⟩
  simp only [Function.comp_apply]
  by_cases here : key a = k
  · have elsewhere : key b ≠ k := fun there => otherKey (here.trans there.symm)
    rw [if_pos here, if_neg elsewhere]
    exact (fresh a first here b second elsewhere).symm
  · by_cases there : key b = k
    · rw [if_neg here, if_pos there]
      exact fresh b second there a first here
    · rw [if_neg here, if_neg there]
      exact otherValue

/-- A column that the change does not write is as unique as before. -/
theorem Unique.untouched {column : ρ → μ} (unique : Unique column rows) {k : κ} {change : ρ → ρ}
    (kept : ∀ row, column (change row) = column row) : Unique column (Table.update key k change rows) := by
  unfold Unique Table.update at *
  rw [List.map_map]
  have same : (fun row => column (if key row = k then change row else row)) = column := by
    funext row
    split
    next => exact kept row
    next => rfl
  exact (congrArg (fun f => (rows.map f).Nodup) same).mpr unique

end Table
