import Mathlib

/-!
# Maps and sets that list what they hold in the order of its insertion

A value that is set again keeps the place of its key.
-/

/-- The keys are different. -/
structure OrderedMap (κ α : Type) where
  entries : List (κ × α)
  distinct : (entries.map Prod.fst).Nodup

namespace OrderedMap

variable {κ α : Type} [DecidableEq κ]

def empty : OrderedMap κ α := ⟨[], .nil⟩

def keys (m : OrderedMap κ α) : List κ := m.entries.map Prod.fst

def get (m : OrderedMap κ α) (key : κ) : Option α := (m.entries.find? (·.1 = key)).map Prod.snd

/-- The entries once the value of a key is set. -/
def setEntries (m : OrderedMap κ α) (key : κ) (value : α) : List (κ × α) :=
  if key ∈ m.keys then m.entries.map fun entry => if entry.1 = key then (key, value) else entry
  else m.entries ++ [(key, value)]

theorem setEntries_distinct (m : OrderedMap κ α) (key : κ) (value : α) :
    ((m.setEntries key value).map Prod.fst).Nodup := by
  unfold setEntries
  split
  next =>
    have same : (m.entries.map fun entry => if entry.1 = key then (key, value) else entry).map
        Prod.fst = m.entries.map Prod.fst := by
      rw [List.map_map]
      refine List.map_congr_left fun entry _ => ?_
      simp only [Function.comp_apply]
      split
      next here => exact here.symm
      next => rfl
    rw [same]
    exact m.distinct
  next absent =>
    rw [List.map_append, List.nodup_append]
    refine ⟨m.distinct, by simp, fun old member new added same => ?_⟩
    obtain rfl : new = key := List.mem_singleton.mp added
    exact absent (same ▸ member)

def set (m : OrderedMap κ α) (key : κ) (value : α) : OrderedMap κ α :=
  ⟨m.setEntries key value, m.setEntries_distinct key value⟩

/-- The map without the entries that a condition does not hold of. -/
def keep (m : OrderedMap κ α) (condition : κ → α → Bool) : OrderedMap κ α :=
  ⟨m.entries.filter fun entry => condition entry.1 entry.2,
    m.distinct.sublist (List.filter_sublist.map _)⟩

/-- The key that was inserted first. -/
def oldest (m : OrderedMap κ α) : Option κ := m.keys.head?

def delete (m : OrderedMap κ α) (key : κ) : OrderedMap κ α := m.keep fun other _ => other ≠ key

def deleteOldest (m : OrderedMap κ α) : OrderedMap κ α := ⟨m.entries.tail, m.distinct.sublist
  ((List.tail_sublist _).map _)⟩

def size (m : OrderedMap κ α) : Nat := m.entries.length

/-- Setting a value in a map that drops its oldest entry when it is full. -/
def remember (m : OrderedMap κ α) (capacity : Nat) (key : κ) (value : α) : OrderedMap κ α :=
  (if capacity ≤ m.size then m.deleteOldest else m).set key value

variable {m : OrderedMap κ α} {key other : κ} {value : α}

theorem get_eq_some : m.get key = some value ↔ (key, value) ∈ m.entries := by
  constructor
  · intro found
    obtain ⟨entry, there, rfl⟩ := Option.map_eq_some_iff.mp found
    obtain rfl : entry.1 = key := by simpa using List.find?_some there
    exact List.mem_of_find?_eq_some there
  · intro member
    cases found : m.entries.find? (·.1 = key) with
    | none => exact absurd (List.find?_eq_none.mp found _ member) (by simp)
    | some entry =>
      have here : entry.1 = key := by simpa using List.find?_some found
      have same : entry = (key, value) :=
        List.inj_on_of_nodup_map m.distinct (List.mem_of_find?_eq_some found) member here
      simp [get, found, same]

theorem mem_keys : key ∈ m.keys ↔ ∃ value, m.get key = some value := by
  simp only [keys, List.mem_map, get_eq_some]
  constructor
  · rintro ⟨⟨_, value⟩, member, rfl⟩
    exact ⟨value, member⟩
  · rintro ⟨value, member⟩
    exact ⟨(key, value), member, rfl⟩

theorem get_eq_none : m.get key = none ↔ key ∉ m.keys := by
  rw [mem_keys, Option.eq_none_iff_forall_ne_some, not_exists]

theorem mem_set {new : α} : (other, new) ∈ (m.set key value).entries ↔
    other = key ∧ new = value ∨ other ≠ key ∧ (other, new) ∈ m.entries := by
  simp only [set, setEntries]
  split
  next present =>
    simp only [List.mem_map]
    constructor
    · rintro ⟨entry, member, same⟩
      split at same
      next => cases same; exact .inl ⟨rfl, rfl⟩
      next different => cases same; exact .inr ⟨different, member⟩
    · rintro (⟨rfl, rfl⟩ | ⟨different, member⟩)
      · obtain ⟨entry, member, rfl⟩ := List.mem_map.mp present
        exact ⟨entry, member, if_pos rfl⟩
      · exact ⟨_, member, if_neg different⟩
  next absent =>
    have old (member : (other, new) ∈ m.entries) : other ≠ key := by
      rintro rfl
      exact absent (List.mem_map_of_mem member)
    simp only [List.mem_append, List.mem_singleton, Prod.mk.injEq]
    constructor
    · rintro (member | same)
      · exact .inr ⟨old member, member⟩
      · exact .inl same
    · rintro (same | ⟨-, member⟩)
      · exact .inr same
      · exact .inl member

theorem get_set :
    (m.set key value).get other = if other = key then some value else m.get other := by
  refine Option.ext fun new => ?_
  rw [get_eq_some, mem_set]
  split
  next same => simp [same, eq_comm]
  next different => simp [different, get_eq_some]

theorem get_keep {condition : κ → α → Bool} :
    (m.keep condition).get key = (m.get key).filter (condition key) := by
  refine Option.ext fun value => ?_
  rw [get_eq_some, Option.filter_eq_some_iff, get_eq_some]
  simp [keep]

theorem get_delete : (m.delete key).get other = if other = key then none else m.get other := by
  rw [delete, get_keep]
  split
  next same => simp [same]
  next different =>
    cases m.get other
    · rfl
    · simp [different]

theorem get_deleteOldest :
    m.deleteOldest.get key = if m.oldest = some key then none else m.get key := by
  refine Option.ext fun value => ?_
  have distinct := m.distinct
  rw [get_eq_some]
  cases listed : m.entries with
  | nil => simp [deleteOldest, get, listed]
  | cons first rest =>
    rw [listed, List.map_cons, List.nodup_cons] at distinct
    have others : (key, value) ∈ rest → first.1 ≠ key := by
      intro member same
      exact distinct.1 (same ▸ List.mem_map_of_mem (f := Prod.fst) member)
    simp only [deleteOldest, oldest, keys, listed, List.tail_cons, List.map_cons, List.head?_cons,
      Option.some.injEq]
    split
    next same => simpa using fun member => others member same
    next different =>
      rw [get_eq_some, listed, List.mem_cons]
      constructor
      · exact .inr
      · rintro (rfl | member)
        · exact absurd rfl different
        · exact member

omit [DecidableEq κ] in
theorem size_deleteOldest : m.deleteOldest.size = m.size - 1 := List.length_tail

omit [DecidableEq κ] in
theorem size_keep_le {condition : κ → α → Bool} : (m.keep condition).size ≤ m.size :=
  List.length_filter_le _ _

theorem size_set_le : (m.set key value).size ≤ m.size + 1 := by
  simp only [size, set, setEntries]
  split <;> simp

/-- Setting a key that is there again adds nothing. -/
theorem size_set_of_mem (there : key ∈ m.keys) : (m.set key value).size = m.size := by
  simp [size, set, setEntries, there]

@[simp] theorem get_remember {capacity : Nat} : (m.remember capacity key value).get key = some value := by
  rw [remember, get_set, if_pos rfl]

variable (m value) in
theorem get_remember_other (capacity : Nat) (different : other ≠ key) :
    (m.remember capacity key value).get other = m.get other ∨
      capacity ≤ m.size ∧ (m.remember capacity key value).get other = none := by
  rw [remember, get_set, if_neg different]
  split
  next full =>
    rw [get_deleteOldest]
    split
    · exact .inr ⟨full, rfl⟩
    · exact .inl rfl
  next => exact .inl rfl

theorem size_remember_le {capacity : Nat} (positive : 0 < capacity) (small : m.size ≤ capacity) :
    (m.remember capacity key value).size ≤ capacity := by
  apply size_set_le.trans
  split
  · rw [size_deleteOldest]
    omega
  · omega

@[simp] theorem get_empty : (empty : OrderedMap κ α).get key = none := rfl

end OrderedMap

/-- The elements in the order of their first occurrences. -/
def List.distinct {κ : Type} [DecidableEq κ] (l : List κ) : List κ :=
  l.foldl (fun seen a => if a ∈ seen then seen else seen ++ [a]) []

section Distinct

variable {κ : Type} [DecidableEq κ]

theorem foldl_distinct {l seen : List κ} (nodup : seen.Nodup) :
    (l.foldl (fun seen a => if a ∈ seen then seen else seen ++ [a]) seen).Nodup ∧
      ∀ a, a ∈ l.foldl (fun seen a => if a ∈ seen then seen else seen ++ [a]) seen ↔
        a ∈ seen ∨ a ∈ l := by
  induction l generalizing seen with
  | nil => exact ⟨nodup, fun a => by simp⟩
  | cons first rest ih =>
    simp only [List.foldl_cons]
    split
    next present =>
      obtain ⟨kept, members⟩ := ih nodup
      refine ⟨kept, fun a => (members a).trans ?_⟩
      simp only [List.mem_cons]
      constructor
      · exact fun member => member.imp_right .inr
      · rintro (old | rfl | later)
        · exact .inl old
        · exact .inl present
        · exact .inr later
    next absent =>
      have more : (seen ++ [first]).Nodup := by
        rw [List.nodup_append]
        refine ⟨nodup, by simp, fun old member new added same => ?_⟩
        obtain rfl := List.mem_singleton.mp added
        exact absent (same ▸ member)
      obtain ⟨kept, members⟩ := ih more
      refine ⟨kept, fun a => (members a).trans ?_⟩
      simp only [List.mem_append, List.mem_cons, List.not_mem_nil, or_false, or_assoc]

theorem nodup_distinct (l : List κ) : l.distinct.Nodup := (foldl_distinct .nil).1

@[simp] theorem mem_distinct {l : List κ} {a : κ} : a ∈ l.distinct ↔ a ∈ l := by
  unfold List.distinct
  simpa using (foldl_distinct (l := l) .nil).2 a

end Distinct
