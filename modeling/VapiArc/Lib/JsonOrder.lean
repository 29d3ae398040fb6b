import VapiArc.Lib.Number

/-!
# Values up to the order of their keys

Two values have one canonical form, and one canonical text, if and only if they differ in the
order of their keys only.
-/
namespace Json

variable {ν μ : Type}

section Keys

theorem codeUnits_cons_inj {a b : Char} {as bs : List Nat}
    (same : codeUnits a ++ as = codeUnits b ++ bs) : a = b ∧ as = bs := by
  have valid (c : Char) : c.toNat < 0xD800 ∨ 0xDFFF < c.toNat ∧ c.toNat < 0x110000 := c.valid
  have char {a b : Char} (same : a.toNat = b.toNat) : a = b := Char.ext (UInt32.toNat_inj.mp same)
  have validA := valid a
  have validB := valid b
  unfold codeUnits at same
  split at same
  next =>
    split at same
    next =>
      obtain ⟨first, rest⟩ := List.cons.inj same
      exact ⟨char first, rest⟩
    next =>
      -- the first unit of a pair is no character
      obtain ⟨first, -⟩ := List.cons.inj same
      omega
  next =>
    split at same
    next =>
      obtain ⟨first, -⟩ := List.cons.inj same
      omega
    next =>
      obtain ⟨first, others⟩ := List.cons.inj same
      obtain ⟨second, rest⟩ := List.cons.inj others
      exact ⟨char (by omega), rest⟩

theorem flatMap_codeUnits_inj {as bs : List Char}
    (same : as.flatMap codeUnits = bs.flatMap codeUnits) : as = bs := by
  have nonempty (c : Char) : codeUnits c ≠ [] := by
    unfold codeUnits
    split <;> simp
  induction as generalizing bs with
  | nil =>
    cases bs with
    | nil => rfl
    | cons b bs => simp [nonempty] at same
  | cons a as ih =>
    cases bs with
    | nil => simp [nonempty] at same
    | cons b bs =>
      simp only [List.flatMap_cons] at same
      obtain ⟨rfl, rest⟩ := codeUnits_cons_inj same
      rw [ih rest]

theorem lexLE_antisymm {as bs : List Nat} (first : lexLE as bs) (second : lexLE bs as) : as = bs := by
  induction as generalizing bs with
  | nil =>
    cases bs with
    | nil => rfl
    | cons b bs => cases second
  | cons a as ih =>
    cases bs with
    | nil => cases first
    | cons b bs =>
      simp only [lexLE, Bool.or_eq_true, Bool.and_eq_true, decide_eq_true_eq] at first second
      rcases first with less | ⟨rfl, first⟩
      · omega
      · rcases second with less | ⟨-, second⟩
        · omega
        · rw [ih first second]

theorem arrayIndex_some {key : String} {n : Nat} (index : arrayIndex key = some n) :
    toString n = key := by
  unfold arrayIndex at index
  split at index
  next m _ =>
    split at index
    next canonical =>
      cases index
      exact canonical.1
    next => cases index
  next => cases index

theorem keyLE_antisymm {a b : String} (first : keyLE a b) (second : keyLE b a) : a = b := by
  revert first second
  simp only [keyLE]
  cases indexA : arrayIndex a <;> cases indexB : arrayIndex b <;> intro first second
  case none.none =>
    exact String.toList_inj.mp (flatMap_codeUnits_inj (lexLE_antisymm first second))
  case some.some m n =>
    simp only [decide_eq_true_eq] at first second
    rw [← arrayIndex_some indexA, ← arrayIndex_some indexB, Nat.le_antisymm first second]
  all_goals simp at first second

/-- Sorting forgets the order of fields with different keys. -/
theorem mergeSort_eq_of_perm {fields fields' : List (String × Value ν)} (perm : fields.Perm fields')
    (distinct : (fields.map Prod.fst).Nodup) :
    fields.mergeSort (fun a b => keyLE a.1 b.1) = fields'.mergeSort (fun a b => keyLE a.1 b.1) := by
  have sorted := List.mergeSort_perm fields fun a b => keyLE a.1 b.1
  have sorted' := List.mergeSort_perm fields' fun a b => keyLE a.1 b.1
  refine List.Perm.eq_of_pairwise ?_ (sorted_mergeSort fields) (sorted_mergeSort fields')
    ((sorted.trans perm).trans sorted'.symm)
  intro a b memberA memberB first second
  exact List.inj_on_of_nodup_map distinct (sorted.mem_iff.mp memberA)
    (perm.mem_iff.mpr (sorted'.mem_iff.mp memberB)) (keyLE_antisymm first second)

end Keys

section Reordered

mutual

/-- The same values, apart from the order of the fields of objects at any depth. -/
inductive Reordered : Value ν → Value ν → Prop
  | null : Reordered .null .null
  | bool (b : Bool) : Reordered (.bool b) (.bool b)
  | number (n : ν) : Reordered (.number n) (.number n)
  | string (s : String) : Reordered (.string s) (.string s)
  | array {items items' : List (Value ν)} : ReorderedItems items items' →
      Reordered (.array items) (.array items')
  | object {fields between fields' : List (String × Value ν)} : ReorderedFields fields between →
      between.Perm fields' → Reordered (.object fields) (.object fields')

inductive ReorderedItems : List (Value ν) → List (Value ν) → Prop
  | nil : ReorderedItems [] []
  | cons {value value' : Value ν} {rest rest' : List (Value ν)} : Reordered value value' →
      ReorderedItems rest rest' → ReorderedItems (value :: rest) (value' :: rest')

/-- The values of fields may be reordered inside; the fields stand in one order. -/
inductive ReorderedFields : List (String × Value ν) → List (String × Value ν) → Prop
  | nil : ReorderedFields [] []
  | cons {value value' : Value ν} {rest rest' : List (String × Value ν)} (key : String) :
      Reordered value value' → ReorderedFields rest rest' →
      ReorderedFields ((key, value) :: rest) ((key, value') :: rest')

end

mutual

theorem canonicalize_of_reordered : ∀ {value value' : Value ν}, Distinct value →
    Reordered value value' → canonicalize value = canonicalize value'
  | _, _, _, .null => rfl
  | _, _, _, .bool _ => rfl
  | _, _, _, .number _ => rfl
  | _, _, _, .string _ => rfl
  | _, _, distinct, .array same =>
    congrArg Value.array (canonicalizeItems_of_reordered distinct same)
  | .object fields, .object fields', distinct, .object same perm => by
    have keys : ((canonicalizeFields fields).map Prod.fst).Nodup := by
      rw [keys_canonicalizeFields]
      exact distinct.1
    have fieldwise := canonicalizeFields_of_reordered distinct.2 same
    refine congrArg Value.object (mergeSort_eq_of_perm ?_ keys)
    rw [fieldwise, canonicalizeFields_eq, canonicalizeFields_eq]
    exact perm.map _

theorem canonicalizeItems_of_reordered : ∀ {items items' : List (Value ν)}, DistinctItems items →
    ReorderedItems items items' → canonicalizeItems items = canonicalizeItems items'
  | _, _, _, .nil => rfl
  | _, _, distinct, .cons first rest => by
    rw [canonicalizeItems, canonicalizeItems, canonicalize_of_reordered distinct.1 first,
      canonicalizeItems_of_reordered distinct.2 rest]

theorem canonicalizeFields_of_reordered : ∀ {fields fields' : List (String × Value ν)},
    DistinctFields fields → ReorderedFields fields fields' →
    canonicalizeFields fields = canonicalizeFields fields'
  | _, _, _, .nil => rfl
  | _, _, distinct, .cons _ first rest => by
    rw [canonicalizeFields, canonicalizeFields, canonicalize_of_reordered distinct.1 first,
      canonicalizeFields_of_reordered distinct.2 rest]

end

mutual

theorem reordered_of_canonicalize : ∀ {value value' : Value ν},
    canonicalize value = canonicalize value' → Reordered value value'
  | .null, value', same => by
    cases value' <;> simp only [canonicalize] at same <;> cases same
    exact .null
  | .bool b, value', same => by
    cases value' <;> simp only [canonicalize] at same <;> cases same
    exact .bool b
  | .number n, value', same => by
    cases value' <;> simp only [canonicalize] at same <;> cases same
    exact .number n
  | .string s, value', same => by
    cases value' <;> simp only [canonicalize] at same <;> cases same
    exact .string s
  | .array items, value', same => by
    cases value' with
    | array items' =>
      exact .array (reorderedItems_of_canonicalize (Value.array.inj same))
    | _ => simp only [canonicalize] at same; cases same
  | .object fields, value', same => by
    cases value' with
    | object fields' =>
      have sorted : (canonicalizeFields fields).Perm (canonicalizeFields fields') := by
        have first := List.mergeSort_perm (canonicalizeFields fields) fun a b => keyLE a.1 b.1
        have second := List.mergeSort_perm (canonicalizeFields fields') fun a b => keyLE a.1 b.1
        have same := Value.object.inj same
        rw [same] at first
        exact first.symm.trans second
      rw [canonicalizeFields_eq fields'] at sorted
      -- bring the fields of the second object into the order of the first one
      have apart := congrFun (congrFun (List.eq_map_comp_perm fun field : String × Value ν =>
        (field.1, canonicalize field.2)) (canonicalizeFields fields)) fields'
      obtain ⟨between, fieldwise, perm⟩ := apart.mpr sorted
      rw [← canonicalizeFields_eq] at fieldwise
      exact .object (reorderedFields_of_canonicalize fieldwise) perm
    | _ => simp only [canonicalize] at same; cases same

theorem reorderedItems_of_canonicalize : ∀ {items items' : List (Value ν)},
    canonicalizeItems items = canonicalizeItems items' → ReorderedItems items items'
  | [], [], _ => .nil
  | [], _ :: _, same => by cases same
  | _ :: _, [], same => by cases same
  | _ :: _, _ :: _, same =>
    .cons (reordered_of_canonicalize (List.cons.inj same).1)
      (reorderedItems_of_canonicalize (List.cons.inj same).2)

theorem reorderedFields_of_canonicalize : ∀ {fields fields' : List (String × Value ν)},
    canonicalizeFields fields = canonicalizeFields fields' → ReorderedFields fields fields'
  | [], [], _ => .nil
  | [], _ :: _, same => by cases same
  | _ :: _, [], same => by cases same
  | (key, _) :: _, (key', _) :: _, same => by
    obtain ⟨first, rest⟩ := List.cons.inj same
    obtain ⟨rfl, value⟩ := Prod.mk.inj first
    exact .cons key (reordered_of_canonicalize value) (reorderedFields_of_canonicalize rest)

end

/-- Canonical forms are equal if and only if the values differ in the order of keys only. -/
theorem canonicalize_eq_iff {value value' : Value ν} (distinct : Distinct value) :
    canonicalize value = canonicalize value' ↔ Reordered value value' :=
  ⟨reordered_of_canonicalize, canonicalize_of_reordered distinct⟩

end Reordered

section Map

variable (f : ν → μ)

mutual

/-- The same value with other numbers. -/
def Value.map : Value ν → Value μ
  | .null => .null
  | .bool b => .bool b
  | .number n => .number (f n)
  | .string s => .string s
  | .array items => .array (Value.mapItems items)
  | .object fields => .object (Value.mapFields fields)

def Value.mapItems : List (Value ν) → List (Value μ)
  | [] => []
  | value :: rest => value.map :: Value.mapItems rest

def Value.mapFields : List (String × Value ν) → List (String × Value μ)
  | [] => []
  | (key, value) :: rest => (key, value.map) :: Value.mapFields rest

end

theorem Value.mapFields_eq (fields : List (String × Value ν)) :
    Value.mapFields f fields = fields.map fun field => (field.1, field.2.map f) := by
  induction fields with
  | nil => rfl
  | cons field rest ih => simp [Value.mapFields, ih]

theorem Value.keys_mapFields (fields : List (String × Value ν)) :
    (Value.mapFields f fields).map Prod.fst = fields.map Prod.fst := by
  simp [Value.mapFields_eq]

mutual

theorem distinct_map : ∀ {value : Value ν}, Distinct value → Distinct (value.map f)
  | .null, _ | .bool _, _ | .number _, _ | .string _, _ => trivial
  | .array _, distinct => distinctItems_map distinct
  | .object fields, distinct =>
    ⟨by rw [Value.keys_mapFields]; exact distinct.1, distinctFields_map distinct.2⟩

theorem distinctItems_map : ∀ {items : List (Value ν)}, DistinctItems items →
    DistinctItems (Value.mapItems f items)
  | [], _ => trivial
  | _ :: _, distinct => ⟨distinct_map distinct.1, distinctItems_map distinct.2⟩

theorem distinctFields_map : ∀ {fields : List (String × Value ν)}, DistinctFields fields →
    DistinctFields (Value.mapFields f fields)
  | [], _ => trivial
  | (_, _) :: _, distinct => ⟨distinct_map distinct.1, distinctFields_map distinct.2⟩

end

mutual

theorem canonicalize_map : ∀ value : Value ν, canonicalize (value.map f) = (canonicalize value).map f
  | .null | .bool _ | .number _ | .string _ => rfl
  | .array items => congrArg Value.array (canonicalizeItems_map items)
  | .object fields => by
    have sorted : ((canonicalizeFields fields).mergeSort fun a b => keyLE a.1 b.1).map
        (fun field => (field.1, field.2.map f)) =
        ((canonicalizeFields fields).map fun field => (field.1, field.2.map f)).mergeSort
          fun a b => keyLE a.1 b.1 := List.map_mergeSort fun _ _ _ _ => rfl
    refine congrArg Value.object ?_
    rw [canonicalizeFields_map fields, Value.mapFields_eq, Value.mapFields_eq]
    exact sorted.symm

theorem canonicalizeItems_map : ∀ items : List (Value ν),
    canonicalizeItems (Value.mapItems f items) = Value.mapItems f (canonicalizeItems items)
  | [] => rfl
  | value :: rest => by
    rw [Value.mapItems, canonicalizeItems, canonicalizeItems, Value.mapItems, canonicalize_map value,
      canonicalizeItems_map rest]

theorem canonicalizeFields_map : ∀ fields : List (String × Value ν),
    canonicalizeFields (Value.mapFields f fields) = Value.mapFields f (canonicalizeFields fields)
  | [] => rfl
  | (_, value) :: rest => by
    rw [Value.mapFields, canonicalizeFields, canonicalizeFields, Value.mapFields,
      canonicalize_map value, canonicalizeFields_map rest]

end

variable [NumberText ν] [NumberText μ] {f} (gap : List Char)

mutual

/-- Numbers that are written alike give the same text. -/
theorem text_map (same : ∀ n, NumberText.text (f n) = NumberText.text n) :
    ∀ (indent : List Char) (value : Value ν), text gap indent (value.map f) = text gap indent value
  | _, .null | _, .bool true | _, .bool false | _, .string _ => rfl
  | _, .number n => same n
  | _, .array [] => rfl
  | indent, .array (value :: rest) => by
    simp only [Value.map, Value.mapItems, text, text_map same (indent ++ gap) value,
      itemsText_map same (indent ++ gap) rest]
  | _, .object [] => rfl
  | indent, .object ((key, value) :: rest) => by
    simp only [Value.map, Value.mapFields, text, text_map same (indent ++ gap) value,
      fieldsText_map same (indent ++ gap) rest]

theorem itemsText_map (same : ∀ n, NumberText.text (f n) = NumberText.text n) :
    ∀ (indent : List Char) (items : List (Value ν)),
      itemsText gap indent (Value.mapItems f items) = itemsText gap indent items
  | _, [] => rfl
  | indent, value :: rest => by
    simp only [Value.mapItems, itemsText, text_map same indent value, itemsText_map same indent rest]

theorem fieldsText_map (same : ∀ n, NumberText.text (f n) = NumberText.text n) :
    ∀ (indent : List Char) (fields : List (String × Value ν)),
      fieldsText gap indent (Value.mapFields f fields) = fieldsText gap indent fields
  | _, [] => rfl
  | indent, (key, value) :: rest => by
    simp only [Value.mapFields, fieldsText, text_map same indent value, fieldsText_map same indent rest]

end

end Map

section Text

/-- Canonical texts tell values apart, up to the order of keys. -/
theorem stringify_canonicalize_eq_iff [NumberText ν] [LawfulNumberText ν] (gap : Nat)
    {value value' : Value ν} (distinct : Distinct value) (distinct' : Distinct value') :
    stringify gap (canonicalize value) = stringify gap (canonicalize value') ↔
      Reordered value value' := by
  rw [← canonicalize_eq_iff distinct]
  constructor
  · intro same
    have first := (parse_canonical gap distinct).1
    rw [same, (parse_canonical gap distinct').1] at first
    exact (Option.some.inj first).symm
  · intro same
    rw [same]

end Text

section Lookup

variable {α : Type}

theorem lookup_eq_some_iff {fields : List (String × α)} (distinct : (fields.map Prod.fst).Nodup)
    {key : String} {a : α} : fields.lookup key = some a ↔ (key, a) ∈ fields := by
  induction fields with
  | nil => simp
  | cons field rest ih =>
    obtain ⟨name, value⟩ := field
    obtain ⟨fresh, others⟩ := List.nodup_cons.mp distinct
    by_cases own : key = name
    · subst own
      have absent : (key, a) ∉ rest := by
        intro member
        exact fresh (List.mem_map.mpr ⟨(key, a), member, rfl⟩)
      simp [absent, eq_comm]
    · have apart : (key == name) = false := beq_false_of_ne own
      simp [List.lookup_cons, apart, own, ih others]

theorem lookup_of_perm {fields fields' : List (String × α)} (perm : fields.Perm fields')
    (distinct : (fields.map Prod.fst).Nodup) (key : String) :
    fields.lookup key = fields'.lookup key := by
  have distinct' : (fields'.map Prod.fst).Nodup := ((perm.map Prod.fst).nodup_iff).mp distinct
  refine Option.ext fun a => ?_
  rw [lookup_eq_some_iff distinct, lookup_eq_some_iff distinct', perm.mem_iff]

theorem lookup_map {β : Type} (f : α → β) (fields : List (String × α)) (key : String) :
    (fields.map fun field => (field.1, f field.2)).lookup key = (fields.lookup key).map f := by
  induction fields with
  | nil => rfl
  | cons field rest ih =>
    obtain ⟨name, value⟩ := field
    by_cases own : key = name
    · simp [own]
    · have apart : (key == name) = false := beq_false_of_ne own
      simp [List.lookup_cons, apart, ih]

/-- A field of a canonical object is the canonical field. -/
theorem lookup_canonicalize {fields : List (String × Value ν)}
    (distinct : (fields.map Prod.fst).Nodup) (key : String) :
    ((canonicalizeFields fields).mergeSort fun a b => keyLE a.1 b.1).lookup key =
      (fields.lookup key).map canonicalize := by
  have sorted := List.mergeSort_perm (canonicalizeFields fields) fun a b => keyLE a.1 b.1
  rw [← lookup_of_perm sorted.symm (by rwa [keys_canonicalizeFields]), canonicalizeFields_eq,
    lookup_map]

/-- Canonical objects have the same keys. -/
theorem keys_canonicalize (fields : List (String × Value ν)) (allowed : String → Prop) :
    (∀ field ∈ (canonicalizeFields fields).mergeSort fun a b => keyLE a.1 b.1, allowed field.1) ↔
      ∀ field ∈ fields, allowed field.1 := by
  have sorted := List.mergeSort_perm (canonicalizeFields fields) fun a b => keyLE a.1 b.1
  constructor
  · intro all field member
    refine all (field.1, canonicalize field.2) (sorted.mem_iff.mpr ?_)
    rw [canonicalizeFields_eq]
    exact List.mem_map_of_mem member
  · intro all field member
    have member := sorted.mem_iff.mp member
    rw [canonicalizeFields_eq] at member
    obtain ⟨old, known, rfl⟩ := List.mem_map.mp member
    exact all old known

end Lookup

/-- A key with a character that is no digit is no array index. -/
theorem arrayIndex_eq_none {key : String} (name : key.toList.all Char.isDigit = false) :
    arrayIndex key = none := by
  cases index : arrayIndex key with
  | none => rfl
  | some n =>
    have digits : (toString n).toList = Nat.toDigits 10 n := by simp [Nat.toList_repr]
    rw [← arrayIndex_some index, digits, List.all_eq_true.mpr (Literal.digits_toDigits n)] at name
    cases name

/-- Fields whose keys are no array indices keep their order when they are read. -/
theorem ofEntries_of_names {fields : List (String × Value ν)} (keys : List String)
    (same : fields.map Prod.fst = keys) (distinct : keys.Nodup)
    (names : ∀ key ∈ keys, key.toList.all Char.isDigit = false) :
    ofEntries fields = .object fields := by
  subst same
  have none (field) (member : field ∈ fields) : arrayIndex field.1 = none :=
    arrayIndex_eq_none (names field.1 (List.mem_map_of_mem member))
  have all : fields.foldl setField [] = fields := by
    simpa using foldl_setField [] fields (by simpa using distinct)
  have indices : fields.filter (fun field => (arrayIndex field.1).isSome) = [] :=
    List.filter_eq_nil_iff.mpr fun field member => by simp [none field member]
  have others : fields.filter (fun field => (arrayIndex field.1).isNone) = fields :=
    List.filter_eq_self.mpr fun field member => by simp [none field member]
  simp [ofEntries, all, enumerate, indices, others]

end Json
