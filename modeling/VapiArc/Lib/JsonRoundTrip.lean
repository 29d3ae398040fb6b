import VapiArc.Lib.Json

/-!
# Reading back what was written

Parsing the text of a value gives the value, with any indentation. A canonical value is
one whose text reads back, and it is its own canonical form.
-/
namespace Json

variable {ν : Type}

section Keys

theorem lexLE_total (as bs : List Nat) : lexLE as bs || lexLE bs as := by
  induction as generalizing bs with
  | nil => simp [lexLE]
  | cons a as ih =>
    cases bs with
    | nil => simp [lexLE]
    | cons b bs =>
      have rest := ih bs
      simp only [lexLE, Bool.or_eq_true, Bool.and_eq_true, decide_eq_true_eq] at rest ⊢
      rcases Nat.lt_trichotomy a b with less | rfl | less
      · exact .inl (.inl less)
      · rcases rest with rest | rest
        · exact .inl (.inr ⟨rfl, rest⟩)
        · exact .inr (.inr ⟨rfl, rest⟩)
      · exact .inr (.inl less)

theorem lexLE_trans {as bs cs : List Nat} (first : lexLE as bs) (second : lexLE bs cs) :
    lexLE as cs := by
  induction as generalizing bs cs with
  | nil => rfl
  | cons a as ih =>
    cases bs with
    | nil => cases first
    | cons b bs =>
      cases cs with
      | nil => cases second
      | cons c cs =>
        simp only [lexLE, Bool.or_eq_true, Bool.and_eq_true, decide_eq_true_eq] at first second ⊢
        rcases first with less | ⟨rfl, first⟩
        · exact .inl (by omega)
        · rcases second with less | ⟨rfl, second⟩
          · exact .inl less
          · exact .inr ⟨rfl, ih first second⟩

theorem keyLE_total (a b : String) : keyLE a b || keyLE b a := by
  simp only [keyLE]
  cases arrayIndex a with
  | none =>
    cases arrayIndex b with
    | none => exact lexLE_total _ _
    | some n => rfl
  | some m =>
    cases arrayIndex b with
    | none => rfl
    | some n =>
      simp only [Bool.or_eq_true, decide_eq_true_eq]
      exact Nat.le_total m n

theorem keyLE_trans {a b c : String} (first : keyLE a b) (second : keyLE b c) : keyLE a c := by
  revert first second
  simp only [keyLE]
  cases arrayIndex a <;> cases arrayIndex b <;> cases arrayIndex c <;> intro first second
  case none.none.none => exact lexLE_trans first second
  case some.some.some =>
    simp only [decide_eq_true_eq] at first second ⊢
    exact Nat.le_trans first second
  all_goals simp_all

end Keys

section Fields

/-- The fields of a canonical object, apart from their values. -/
def Sorted (fields : List (String × Value ν)) : Prop :=
  fields.Pairwise fun a b => keyLE a.1 b.1

theorem sorted_mergeSort (fields : List (String × Value ν)) :
    Sorted (fields.mergeSort fun a b => keyLE a.1 b.1) := by
  apply List.pairwise_mergeSort
  · exact fun a b c first second => keyLE_trans first second
  · exact fun a b => keyLE_total a.1 b.1

theorem Sorted.mergeSort {fields : List (String × Value ν)} (sorted : Sorted fields) :
    fields.mergeSort (fun a b => keyLE a.1 b.1) = fields :=
  List.mergeSort_of_pairwise sorted

/-- The keys that are array indices come first. -/
theorem Sorted.filter_append {fields : List (String × Value ν)} (sorted : Sorted fields) :
    (fields.filter fun field => (arrayIndex field.1).isSome) ++
      (fields.filter fun field => (arrayIndex field.1).isNone) = fields := by
  induction fields with
  | nil => rfl
  | cons field rest ih =>
    obtain ⟨head, tail⟩ := List.pairwise_cons.mp sorted
    cases index : arrayIndex field.1 with
    | some n => simp [index, ih tail]
    | none =>
      have others : ∀ other ∈ rest, arrayIndex other.1 = none := by
        intro other member
        have after := head other member
        cases there : arrayIndex other.1 with
        | none => rfl
        | some n => simp [keyLE, index, there] at after
      have noIndex : rest.filter (fun field => (arrayIndex field.1).isSome) = [] :=
        List.filter_eq_nil_iff.mpr fun other member => by simp [others other member]
      have all : rest.filter (fun field => (arrayIndex field.1).isNone) = rest :=
        List.filter_eq_self.mpr fun other member => by simp [others other member]
      simp [index, noIndex, all]

/-- Sorted fields are enumerated in their order. -/
theorem Sorted.enumerate {fields : List (String × Value ν)} (sorted : Sorted fields) :
    enumerate fields = fields := by
  have indices : Sorted (fields.filter fun field => (arrayIndex field.1).isSome) :=
    List.Pairwise.filter _ sorted
  rw [Json.enumerate, indices.mergeSort, sorted.filter_append]

/-- Fields of different keys are all appended. -/
theorem foldl_setField (fields entries : List (String × Value ν))
    (distinct : ((fields ++ entries).map Prod.fst).Nodup) :
    entries.foldl setField fields = fields ++ entries := by
  induction entries generalizing fields with
  | nil => simp
  | cons entry rest ih =>
    have absent : fields.any (·.1 = entry.1) = false := by
      rw [List.any_eq_false]
      intro field member same
      simp only [decide_eq_true_eq] at same
      rw [List.map_append] at distinct
      exact (List.nodup_append.mp distinct).2.2 _ (List.mem_map_of_mem member) entry.1
        (by simp) same
    have set : setField fields entry = fields ++ [entry] := by simp [setField, absent]
    rw [List.foldl_cons, set, ih _ (by simpa using distinct)]
    simp

/-- Sorted fields of different keys are what they are when they are read one by one. -/
theorem ofEntries_eq {fields : List (String × Value ν)} (sorted : Sorted fields)
    (distinct : (fields.map Prod.fst).Nodup) : ofEntries fields = .object fields := by
  have all : fields.foldl setField [] = fields := by
    simpa using foldl_setField [] fields (by simpa using distinct)
  rw [ofEntries, all, sorted.enumerate]

end Fields

section Canonical

mutual

/-- No object has two fields of one key. -/
def Distinct : Value ν → Prop
  | .array items => DistinctItems items
  | .object fields => (fields.map Prod.fst).Nodup ∧ DistinctFields fields
  | _ => True

def DistinctItems : List (Value ν) → Prop
  | [] => True
  | value :: rest => Distinct value ∧ DistinctItems rest

def DistinctFields : List (String × Value ν) → Prop
  | [] => True
  | (_, value) :: rest => Distinct value ∧ DistinctFields rest

end

mutual

/-- Every object's fields stand in the order in which they are enumerated. -/
def Enumerated : Value ν → Prop
  | .array items => EnumeratedItems items
  | .object fields => ofEntries fields = .object fields ∧ EnumeratedFields fields
  | _ => True

def EnumeratedItems : List (Value ν) → Prop
  | [] => True
  | value :: rest => Enumerated value ∧ EnumeratedItems rest

def EnumeratedFields : List (String × Value ν) → Prop
  | [] => True
  | (_, value) :: rest => Enumerated value ∧ EnumeratedFields rest

end

theorem enumeratedFields_iff {fields : List (String × Value ν)} :
    EnumeratedFields fields ↔ ∀ field ∈ fields, Enumerated field.2 := by
  induction fields with
  | nil => simp [EnumeratedFields]
  | cons field rest ih => simp [EnumeratedFields, ih]

theorem canonicalizeFields_eq (fields : List (String × Value ν)) :
    canonicalizeFields fields = fields.map fun field => (field.1, canonicalize field.2) := by
  induction fields with
  | nil => rfl
  | cons field rest ih => simp [canonicalizeFields, ih]

theorem keys_canonicalizeFields (fields : List (String × Value ν)) :
    (canonicalizeFields fields).map Prod.fst = fields.map Prod.fst := by
  simp [canonicalizeFields_eq]

mutual

/-- Canonical values are enumerated in their order. -/
theorem enumerated_canonicalize :
    ∀ value : Value ν, Distinct value → Enumerated (canonicalize value)
  | .null, _ | .bool _, _ | .number _, _ | .string _, _ => trivial
  | .array items, distinct => enumerated_canonicalizeItems items distinct
  | .object fields, distinct => by
    have inside := enumerated_canonicalizeFields fields distinct.2
    have keys : ((canonicalizeFields fields).map Prod.fst).Nodup := by
      rw [keys_canonicalizeFields]
      exact distinct.1
    refine ⟨ofEntries_eq (sorted_mergeSort _) ?_, enumeratedFields_iff.mpr fun field member => ?_⟩
    · exact (((List.mergeSort_perm _ _).map Prod.fst).nodup_iff).mpr keys
    · exact enumeratedFields_iff.mp inside field (List.mem_mergeSort.mp member)

theorem enumerated_canonicalizeItems :
    ∀ items : List (Value ν), DistinctItems items → EnumeratedItems (canonicalizeItems items)
  | [], _ => trivial
  | value :: rest, distinct =>
    ⟨enumerated_canonicalize value distinct.1, enumerated_canonicalizeItems rest distinct.2⟩

theorem enumerated_canonicalizeFields : ∀ fields : List (String × Value ν),
    DistinctFields fields → EnumeratedFields (canonicalizeFields fields)
  | [], _ => trivial
  | (_, value) :: rest, distinct =>
    ⟨enumerated_canonicalize value distinct.1, enumerated_canonicalizeFields rest distinct.2⟩

end

mutual

theorem canonicalize_canonicalize :
    ∀ value : Value ν, canonicalize (canonicalize value) = canonicalize value
  | .null | .bool _ | .number _ | .string _ => rfl
  | .array items => congrArg Value.array (canonicalizeItems_canonicalizeItems items)
  | .object fields => by
    have inside := canonicalizeFields_canonicalizeFields fields
    have sorted := sorted_mergeSort (canonicalizeFields fields)
    have same : canonicalizeFields ((canonicalizeFields fields).mergeSort
        fun a b => keyLE a.1 b.1) =
        (canonicalizeFields fields).mergeSort fun a b => keyLE a.1 b.1 := by
      rw [canonicalizeFields_eq] at inside ⊢
      refine (List.map_congr_left fun field member => ?_).trans (List.map_id _)
      refine List.map_eq_map_iff.mp (inside.trans (List.map_id _).symm) field ?_
      exact List.mem_mergeSort.mp (by simpa only [canonicalizeFields_eq] using member)
    simp only [canonicalize]
    rw [same, sorted.mergeSort]

theorem canonicalizeItems_canonicalizeItems : ∀ items : List (Value ν),
    canonicalizeItems (canonicalizeItems items) = canonicalizeItems items
  | [] => rfl
  | value :: rest => by
    simp only [canonicalizeItems, canonicalize_canonicalize value,
      canonicalizeItems_canonicalizeItems rest]

theorem canonicalizeFields_canonicalizeFields : ∀ fields : List (String × Value ν),
    canonicalizeFields (canonicalizeFields fields) = canonicalizeFields fields
  | [] => rfl
  | (key, value) :: rest => by
    simp only [canonicalizeFields, canonicalize_canonicalize value,
      canonicalizeFields_canonicalizeFields rest]

end

end Canonical

section Strings

theorem hexValue_hexDigit : ∀ n < 16, hexValue (hexDigit n) = some n := by decide

theorem hexWord_control {n : Nat} (small : n < 32) :
    hexWord '0' '0' (hexDigit (n / 16)) (hexDigit (n % 16)) = some n := by
  have zero : hexValue '0' = some 0 := by decide
  simp only [hexWord, zero, hexValue_hexDigit (n / 16) (by omega),
    hexValue_hexDigit (n % 16) (by omega)]
  exact congrArg some (by omega)

private theorem bind_some_eq_map (c : Char) (read : Option (List Char × List Char)) :
    (do let (chars, rest) ← read; return (c :: chars, rest)) =
      read.map fun (chars, rest) => (c :: chars, rest) := by
  cases read <;> rfl

theorem readString_plain {c : Char} (quote : c ≠ '"') (backslash : c ≠ '\\') (large : 32 ≤ c.toNat)
    (rest : List Char) :
    readString (c :: rest) = (readString rest).map fun (chars, rest) => (c :: chars, rest) := by
  rw [readString.eq_def]
  split
  case h_6 same =>
    cases same
    simpa [large] using bind_some_eq_map c (readString rest)
  all_goals simp_all

theorem readString_unescape {c d : Char} (escaped : unescape c = some d) (rest : List Char) :
    readString ('\\' :: c :: rest) =
      (readString rest).map fun (chars, rest) => (d :: chars, rest) := by
  have simple : c ≠ 'u' := by
    rintro rfl
    simp [unescape] at escaped
  rw [readString.eq_def]
  split
  case h_5 same =>
    cases same
    simpa [escaped] using bind_some_eq_map d (readString rest)
  case h_6 other same =>
    cases same
    exact absurd rfl (other _ _ rfl)
  all_goals simp_all

/-- A control character is no surrogate, so that what follows does not matter. -/
theorem readString_control {c : Char} (control : c.toNat < 32) (rest : List Char) :
    readString ('\\' :: 'u' :: '0' :: '0' :: hexDigit (c.toNat / 16) :: hexDigit (c.toNat % 16) ::
        rest) = (readString rest).map fun (chars, rest) => (c :: chars, rest) := by
  have hex := hexWord_control control
  have high : ¬ 0xD800 ≤ c.toNat := by omega
  have high' : ¬ 0xDC00 ≤ c.toNat := by omega
  rw [readString.eq_def]
  split
  case h_3 same =>
    cases same
    simpa [hex, high, high'] using bind_some_eq_map c (readString _)
  case h_4 same =>
    cases same
    simpa [hex, high, high'] using bind_some_eq_map c (readString _)
  case h_5 other same =>
    cases same
    exact absurd rfl (other _ _ _ _ _ rfl)
  case h_6 other same =>
    cases same
    exact absurd rfl (other _ _ rfl)
  all_goals simp_all

/-- An escaped character is read back, whatever follows. -/
theorem readString_escape (c : Char) (rest : List Char) :
    readString (escape c ++ rest) =
      (readString rest).map fun (chars, rest) => (c :: chars, rest) := by
  unfold escape
  split_ifs with quote backslash backspace tab newline formfeed carriage control
  case neg => exact readString_plain quote backslash (by omega) rest
  on_goal 8 => exact readString_control control rest
  all_goals
    simp only [List.cons_append, List.nil_append]
    apply readString_unescape
    subst_vars
    rfl

theorem readString_quote (s : String) (rest : List Char) :
    readString (s.toList.flatMap escape ++ '"' :: rest) = some (s.toList, rest) := by
  induction s.toList with
  | nil => simp [readString]
  | cons c chars ih =>
    rw [List.flatMap_cons, List.append_assoc, readString_escape, ih]
    rfl

end Strings

/-- Numbers are read back, and none of their characters stands where a text starts or ends. -/
class LawfulNumberText (ν : Type) [NumberText ν] : Prop where
  ne_nil : ∀ n : ν, NumberText.text n ≠ []
  digits : ∀ n : ν, ∀ c ∈ NumberText.text n, NumberText.digit (ν := ν) c = true
  read_text : ∀ n : ν, NumberText.read (NumberText.text n) = some n
  apart : ∀ c, NumberText.digit (ν := ν) c = true →
    c ∉ [' ', '\t', '\n', '\r', '"', ',', '[', ']', '{', '}', 'n', 't', 'f']

section Blanks

/-- Characters that stand between two tokens. -/
def Blanks (chars : List Char) : Prop := ∀ c ∈ chars, isBlank c = true

theorem Blanks.append {first second : List Char} (left : Blanks first) (right : Blanks second) :
    Blanks (first ++ second) := by
  intro c member
  rcases List.mem_append.mp member with member | member
  · exact left c member
  · exact right c member

theorem Blanks.newline {gap indent : List Char} (blanks : Blanks indent) :
    Blanks (newline gap indent) := by
  intro c member
  unfold Json.newline at member
  split at member
  · cases member
  · rcases List.mem_cons.mp member with rfl | member
    · rfl
    · exact blanks c member

theorem Blanks.skip {chars : List Char} (blanks : Blanks chars) (rest : List Char) :
    skipBlanks (chars ++ rest) = skipBlanks rest := by
  induction chars with
  | nil => rfl
  | cons c chars ih =>
    simp only [List.cons_append, skipBlanks, blanks c (by simp), if_true]
    exact ih fun d member => blanks d (by simp [member])

variable [NumberText ν]

theorem Blanks.readValue {chars : List Char} (blanks : Blanks chars) (fuel : Nat)
    (rest : List Char) : readValue (ν := ν) fuel (chars ++ rest) = readValue fuel rest := by
  cases fuel with
  | zero => rfl
  | succ fuel => simp only [Json.readValue, blanks.skip]

theorem Blanks.readItems {chars : List Char} (blanks : Blanks chars) (fuel : Nat)
    (rest : List Char) : readItems (ν := ν) fuel (chars ++ rest) = readItems fuel rest := by
  cases fuel with
  | zero => rfl
  | succ fuel => simp only [Json.readItems, blanks.readValue]

theorem Blanks.readFields {chars : List Char} (blanks : Blanks chars) (fuel : Nat)
    (rest : List Char) : readFields (ν := ν) fuel (chars ++ rest) = readFields fuel rest := by
  cases fuel with
  | zero => rfl
  | succ fuel => simp only [Json.readFields, blanks.skip]

end Blanks

section Parts

variable [NumberText ν] {gap : List Char}

/-- No number goes on in these characters. -/
def Stops (ν : Type) [NumberText ν] (rest : List Char) : Prop :=
  ∀ c tail, rest = c :: tail → NumberText.digit (ν := ν) c = false

/-- The value is read back, whatever follows that does not go on with a number. -/
def Reads (gap : List Char) (value : Value ν) : Prop :=
  ∀ fuel indent rest, Blanks indent → (text gap indent value).length < fuel → Stops ν rest →
    readValue fuel (text gap indent value ++ rest) = some (value, rest)

theorem reads_null : Reads (ν := ν) gap .null := by
  intro fuel indent rest _ fueled _
  obtain ⟨fuel, rfl⟩ := Nat.exists_eq_add_one_of_ne_zero (Nat.ne_zero_of_lt fueled)
  rfl

theorem reads_bool (b : Bool) : Reads (ν := ν) gap (.bool b) := by
  intro fuel indent rest _ fueled _
  obtain ⟨fuel, rfl⟩ := Nat.exists_eq_add_one_of_ne_zero (Nat.ne_zero_of_lt fueled)
  cases b <;> rfl

theorem reads_string (s : String) : Reads (ν := ν) gap (.string s) := by
  intro fuel indent rest _ fueled _
  obtain ⟨fuel, rfl⟩ := Nat.exists_eq_add_one_of_ne_zero (Nat.ne_zero_of_lt fueled)
  have blank : isBlank '"' = false := rfl
  simp only [text, quote, List.cons_append, List.append_assoc, List.nil_append, readValue,
    skipBlanks, blank, Bool.false_eq_true, if_false, readString_quote, Option.map_some,
    String.ofList_toList]

theorem colon_eq (gap : List Char) : ∃ space, colon gap = ':' :: space ∧ Blanks space := by
  unfold colon
  split
  · exact ⟨[], rfl, by simp [Blanks]⟩
  · exact ⟨[' '], rfl, by simp [Blanks, isBlank]⟩

section Fields

variable {fuel : Nat} {value : Value ν} {input rest tail : List Char} (key : String)
  (read : readValue fuel input = some (value, rest))
include read

theorem readFields_last (closing : skipBlanks rest = '}' :: tail) :
    readFields (fuel + 1) (quote key ++ (colon gap ++ input)) = some ([(key, value)], tail) := by
  obtain ⟨space, written, blank⟩ := colon_eq gap
  simp [quote, written, readFields, skipBlanks, isBlank, readString_quote, blank.readValue, read,
    closing]

theorem readFields_more (comma : skipBlanks rest = ',' :: tail)
    {fields : List (String × Value ν)} {after : List Char}
    (others : readFields fuel tail = some (fields, after)) :
    readFields (fuel + 1) (quote key ++ (colon gap ++ input)) =
      some ((key, value) :: fields, after) := by
  obtain ⟨space, written, blank⟩ := colon_eq gap
  simp [quote, written, readFields, skipBlanks, isBlank, readString_quote, blank.readValue, read,
    comma, others]

end Fields

end Parts

section Values

variable [NumberText ν] [LawfulNumberText ν] {gap : List Char}

theorem stops_cons {c : Char} {rest : List Char}
    (stop : c ∈ [' ', '\t', '\n', '\r', '"', ',', '[', ']', '{', '}', 'n', 't', 'f']) :
    Stops ν (c :: rest) := by
  rintro _ _ ⟨⟩
  rw [Bool.eq_false_iff]
  exact fun digit => LawfulNumberText.apart c digit stop

theorem stops_newline {indent rest : List Char} (stops : Stops ν rest) :
    Stops ν (newline gap indent ++ rest) := by
  unfold newline
  split
  · exact stops
  · exact stops_cons (by decide)

theorem reads_number (n : ν) : Reads gap (.number n) := by
  intro fuel indent rest _ fueled stops
  obtain ⟨fuel, rfl⟩ := Nat.exists_eq_add_one_of_ne_zero (Nat.ne_zero_of_lt fueled)
  have digits := LawfulNumberText.digits n
  have span : (NumberText.text n ++ rest).span (NumberText.digit (ν := ν)) =
      (NumberText.text n, rest) := by
    have stop : rest.takeWhile (NumberText.digit (ν := ν)) = [] ∧
        rest.dropWhile (NumberText.digit (ν := ν)) = rest := by
      cases rest with
      | nil => exact ⟨rfl, rfl⟩
      | cons c rest => simp [stops c rest rfl]
    rw [List.span_eq_takeWhile_dropWhile, List.takeWhile_append_of_pos digits,
      List.dropWhile_append_of_pos digits, stop.1, stop.2, List.append_nil]
  cases written : NumberText.text n with
  | nil => exact absurd written (LawfulNumberText.ne_nil n)
  | cons c chars =>
    have apart := LawfulNumberText.apart c (digits c (by simp [written]))
    have unblank : isBlank c = false := by
      simp [isBlank]
      grind
    rw [written, List.cons_append] at span
    simp only [text, written, List.cons_append, readValue, skipBlanks, unblank, Bool.false_eq_true,
      if_false]
    split
    case h_7 => 
      rw [span, ← written, LawfulNumberText.read_text]
      rfl
    all_goals simp_all

/-- A text starts with a character that closes no array. -/
theorem text_head (gap indent : List Char) (value : Value ν) :
    ∃ c chars, text gap indent value = c :: chars ∧ isBlank c = false ∧ c ≠ ']' := by
  cases value with
  | null => exact ⟨_, _, rfl, rfl, by decide⟩
  | bool b => cases b <;> exact ⟨_, _, rfl, rfl, by decide⟩
  | string s => exact ⟨_, _, rfl, rfl, by decide⟩
  | array items => cases items <;> exact ⟨_, _, rfl, rfl, by decide⟩
  | object fields => cases fields <;> exact ⟨_, _, rfl, rfl, by decide⟩
  | number n =>
    cases written : NumberText.text n with
    | nil => exact absurd written (LawfulNumberText.ne_nil n)
    | cons c chars =>
      have apart := LawfulNumberText.apart c (LawfulNumberText.digits n c (by simp [written]))
      refine ⟨c, chars, by rw [text, written], ?_, ?_⟩
      · simp [isBlank]
        grind
      · rintro rfl
        simp at apart

/-- A list of items is read back when its items are. -/
theorem reads_items {first : Value ν} {items : List (Value ν)} (readsFirst : Reads gap first)
    (reads : ∀ item ∈ items, Reads gap item) (fuel : Nat) {indent indent' : List Char}
    (rest : List Char) (blanks : Blanks indent) (blanks' : Blanks indent')
    (fueled : (text gap indent first).length + (itemsText gap indent items).length + 2 ≤ fuel) :
    readItems fuel (text gap indent first ++ (itemsText gap indent items ++
      (newline gap indent' ++ ']' :: rest))) = some (first :: items, rest) := by
  induction items generalizing first fuel with
  | nil =>
    obtain ⟨fuel, rfl⟩ := Nat.exists_eq_add_one_of_ne_zero (n := fuel) (by omega)
    have stops : Stops ν (newline gap indent' ++ ']' :: rest) :=
      stops_newline (stops_cons (by decide))
    rw [itemsText, List.nil_append, readItems, readsFirst fuel indent _ blanks (by omega) stops]
    simp [blanks'.newline.skip, skipBlanks, isBlank]
  | cons second items ih =>
    obtain ⟨fuel, rfl⟩ := Nat.exists_eq_add_one_of_ne_zero (n := fuel) (by omega)
    simp only [itemsText, List.length_cons, List.length_append] at fueled
    have others := ih (reads second (by simp)) (fun item member => reads item (by simp [member]))
      fuel (by omega)
    simp only [itemsText, List.cons_append, List.append_assoc]
    rw [readItems, readsFirst fuel indent _ blanks (by omega) (stops_cons (by decide))]
    simp [skipBlanks, isBlank, blanks.newline.readItems, others]

theorem reads_array (blankGap : Blanks gap) (items : List (Value ν))
    (reads : ∀ item ∈ items, Reads gap item) : Reads gap (.array items) := by
  intro fuel indent rest blanks fueled _
  obtain ⟨fuel, rfl⟩ := Nat.exists_eq_add_one_of_ne_zero (Nat.ne_zero_of_lt fueled)
  cases items with
  | nil => simp [text, readValue, skipBlanks, isBlank]
  | cons first items =>
    have inside := blanks.append blankGap
    simp only [text, List.length_cons, List.length_append, List.length_nil] at fueled
    have others : ∀ item ∈ items, Reads gap item := fun item member => reads item (by simp [member])
    have readsItems := reads_items (reads first (by simp)) others fuel rest inside blanks (by omega)
    obtain ⟨c, chars, head, unblank, notClosing⟩ := text_head gap (indent ++ gap) first
    have opened (tail : List Char) : skipBlanks (newline gap (indent ++ gap) ++
        (text gap (indent ++ gap) first ++ tail)) = c :: (chars ++ tail) := by
      rw [inside.newline.skip, head]
      simp [skipBlanks, unblank]
    simp only [text, List.cons_append, List.append_assoc, List.nil_append, readValue]
    rw [show skipBlanks ('[' :: _) = '[' :: _ from rfl]
    simp only [opened]
    split
    next closing =>
      cases closing
      exact absurd rfl notClosing
    next => rw [inside.newline.readItems, readsItems]; rfl

theorem reads_fields (key : String) {first : Value ν} {fields : List (String × Value ν)}
    (readsFirst : Reads gap first) (reads : ∀ field ∈ fields, Reads gap field.2) (fuel : Nat)
    {indent indent' : List Char} (rest : List Char) (blanks : Blanks indent)
    (blanks' : Blanks indent')
    (fueled : (text gap indent first).length + (fieldsText gap indent fields).length + 2 ≤ fuel) :
    readFields fuel (quote key ++ (colon gap ++ (text gap indent first ++
      (fieldsText gap indent fields ++ (newline gap indent' ++ '}' :: rest))))) =
        some ((key, first) :: fields, rest) := by
  induction fields generalizing key first fuel with
  | nil =>
    obtain ⟨fuel, rfl⟩ := Nat.exists_eq_add_one_of_ne_zero (n := fuel) (by omega)
    have stops : Stops ν (newline gap indent' ++ '}' :: rest) :=
      stops_newline (stops_cons (by decide))
    rw [fieldsText, List.nil_append]
    exact readFields_last key (readsFirst fuel indent _ blanks (by omega) stops) (by
      simp [blanks'.newline.skip, skipBlanks, isBlank])
  | cons second fields ih =>
    obtain ⟨fuel, rfl⟩ := Nat.exists_eq_add_one_of_ne_zero (n := fuel) (by omega)
    obtain ⟨key', second⟩ := second
    simp only [fieldsText, List.length_cons, List.length_append] at fueled
    have readsSecond : Reads gap second := reads (key', second) (by simp)
    have others := ih key' readsSecond (fun field member => reads field (by simp [member])) fuel
      (by omega)
    simp only [fieldsText, List.cons_append, List.append_assoc]
    refine readFields_more key
      (readsFirst fuel indent _ blanks (by omega) (stops_cons (by decide))) rfl ?_
    rw [blanks.newline.readFields]
    exact others

theorem reads_object (blankGap : Blanks gap) (fields : List (String × Value ν))
    (enumerated : ofEntries fields = .object fields)
    (reads : ∀ field ∈ fields, Reads gap field.2) : Reads gap (.object fields) := by
  intro fuel indent rest blanks fueled _
  obtain ⟨fuel, rfl⟩ := Nat.exists_eq_add_one_of_ne_zero (Nat.ne_zero_of_lt fueled)
  cases fields with
  | nil => simp [text, readValue, skipBlanks, isBlank]
  | cons field fields =>
    obtain ⟨key, first⟩ := field
    have inside := blanks.append blankGap
    simp only [text, List.length_cons, List.length_append, List.length_nil] at fueled
    have others : ∀ field ∈ fields, Reads gap field.2 :=
      fun field member => reads field (by simp [member])
    have readsFirst : Reads gap first := reads (key, first) (by simp)
    have readsFields := reads_fields key readsFirst others fuel rest inside blanks (by omega)
    have opened (tail : List Char) : skipBlanks (newline gap (indent ++ gap) ++
        (quote key ++ tail)) = quote key ++ tail := by
      rw [inside.newline.skip]
      rfl
    simp only [text, List.cons_append, List.append_assoc, List.nil_append, readValue]
    rw [show skipBlanks ('{' :: _) = '{' :: _ from rfl]
    simp only [opened]
    split
    next closing => cases closing
    next => rw [inside.newline.readFields, readsFields, Option.map_some, enumerated]

end Values

section RoundTrip

mutual

/-- Every value whose fields stand in order is read back. -/
theorem reads_text [NumberText ν] [LawfulNumberText ν] {gap : List Char} (blankGap : Blanks gap) :
    ∀ value : Value ν, Enumerated value → Reads gap value
  | .null, _ => reads_null
  | .bool b, _ => reads_bool b
  | .number n, _ => reads_number n
  | .string s, _ => reads_string s
  | .array items, enumerated =>
    reads_array blankGap items (reads_itemsText blankGap items enumerated)
  | .object fields, enumerated =>
    reads_object blankGap fields enumerated.1 (reads_fieldsText blankGap fields enumerated.2)

theorem reads_itemsText [NumberText ν] [LawfulNumberText ν] {gap : List Char}
    (blankGap : Blanks gap) :
    ∀ items : List (Value ν), EnumeratedItems items → ∀ item ∈ items, Reads gap item
  | [], _ => by simp
  | value :: rest, enumerated => by
    simp only [List.forall_mem_cons]
    exact ⟨reads_text blankGap value enumerated.1, reads_itemsText blankGap rest enumerated.2⟩

theorem reads_fieldsText [NumberText ν] [LawfulNumberText ν] {gap : List Char}
    (blankGap : Blanks gap) :
    ∀ fields : List (String × Value ν), EnumeratedFields fields →
      ∀ field ∈ fields, Reads gap field.2
  | [], _ => by simp
  | (key, value) :: rest, enumerated => by
    simp only [List.forall_mem_cons]
    exact ⟨reads_text blankGap value enumerated.1, reads_fieldsText blankGap rest enumerated.2⟩

end

variable [NumberText ν] [LawfulNumberText ν]

/-- `JSON.parse` inverts `JSON.stringify`. -/
theorem parse_stringify (gap : Nat) {value : Value ν} (enumerated : Enumerated value) :
    parse (stringify gap value) = some value := by
  have blankGap : Blanks (List.replicate gap ' ') := by
    intro c member
    rw [List.eq_of_mem_replicate member]
    rfl
  have read := reads_text blankGap value enumerated
    ((text (List.replicate gap ' ') [] value).length + 1) [] [] (by simp [Blanks]) (by omega)
    (by simp [Stops])
  rw [List.append_nil] at read
  simp [parse, stringify, read, skipBlanks]

/-- A canonical value is read back, and it is its own canonical form. -/
theorem parse_canonical (gap : Nat) {value : Value ν} (distinct : Distinct value) :
    parse (stringify gap (canonicalize value)) = some (canonicalize value) ∧
      canonicalize (canonicalize value) = canonicalize value :=
  ⟨parse_stringify gap (enumerated_canonicalize value distinct), canonicalize_canonicalize value⟩

end RoundTrip

end Json
