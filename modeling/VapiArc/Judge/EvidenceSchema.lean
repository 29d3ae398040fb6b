import VapiArc.Judge.Evidence

/-! # What the evidence schema accepts, and what it leaves of a record -/
namespace VapiArc.Judge

open Checked Json
open Review (Hex Library ReasonCode trim utf16Length)

section Trim

/-- What starts with no blank does not after its end is trimmed. -/
theorem dropWhile_rdropWhile {α : Type} (p : α → Bool) {chars : List α}
    (trimmed : chars.dropWhile p = chars) :
    (chars.reverse.dropWhile p).reverse.dropWhile p = (chars.reverse.dropWhile p).reverse := by
  obtain ⟨rest, whole⟩ : (chars.reverse.dropWhile p).reverse <+: chars := List.rdropWhile_prefix p chars
  cases start : (chars.reverse.dropWhile p).reverse with
  | nil => rfl
  | cons c others =>
    rw [start] at whole
    rw [← whole, List.cons_append, List.dropWhile_cons] at trimmed
    split at trimmed
    next =>
      have longer := congrArg List.length trimmed
      have shorter := (List.dropWhile_sublist p (l := others ++ rest)).length_le
      simp only [List.length_cons] at longer
      omega
    next kept => rw [List.dropWhile_cons, if_neg kept]

/-- Nothing is left to trim. -/
theorem trim_trim (text : String) : trim (trim text) = trim text := by
  unfold trim
  simp only [String.toList_ofList]
  rw [dropWhile_rdropWhile _ (List.dropWhile_idempotent _ _), List.reverse_reverse,
    dropWhile_rdropWhile _ (List.dropWhile_idempotent _ _)]

end Trim

section Canonical

variable {fields : Fields}

/-- The fields of a canonical object. -/
def Fields.canonical (fields : Fields) : Fields :=
  (canonicalizeFields fields).mergeSort fun a b => keyLE a.1 b.1

theorem Fields.strict_canonical (fields : Fields) (keys : List String) :
    fields.canonical.strict keys ↔ fields.strict keys :=
  keys_canonicalize fields (· ∈ keys)

theorem Fields.string_canonical (distinct : (fields.map Prod.fst).Nodup) (key : String) :
    fields.canonical.string key = fields.string key := by
  unfold string canonical
  rw [lookup_canonicalize distinct]
  cases fields.lookup key with
  | none => rfl
  | some value => cases value <;> rfl

theorem Fields.number_canonical (distinct : (fields.map Prod.fst).Nodup) (key : String) :
    fields.canonical.number key = fields.number key := by
  unfold number canonical
  rw [lookup_canonicalize distinct]
  cases fields.lookup key with
  | none => rfl
  | some value => cases value <;> rfl

theorem Fields.bool_canonical (distinct : (fields.map Prod.fst).Nodup) (key : String) :
    fields.canonical.bool key = fields.bool key := by
  unfold bool canonical
  rw [lookup_canonicalize distinct]
  cases fields.lookup key with
  | none => rfl
  | some value => cases value <;> rfl

theorem verdictSchema_canonicalize {value : JsonValue} (distinct : Distinct value) :
    verdictSchema (canonicalize value) = verdictSchema value := by
  cases value with
  | object fields =>
    have same : canonicalize (.object fields) = .object (Fields.canonical fields) := rfl
    rw [same]
    simp only [verdictSchema, Fields.strict_canonical, Fields.string_canonical distinct.1,
      Fields.number_canonical distinct.1, Fields.bool_canonical distinct.1]
  | _ => rfl

theorem distinct_of_lookup {key : String} {value : JsonValue} (distinct : DistinctFields fields)
    (found : fields.lookup key = some value) : Distinct value := by
  induction fields with
  | nil => cases found
  | cons field rest ih =>
    obtain ⟨name, first⟩ := field
    rw [List.lookup_cons] at found
    split at found
    next =>
      cases found
      exact distinct.1
    next => exact ih distinct.2 found

theorem aiEvidenceV1Schema_canonicalize {lib : JudgeLibrary} {value : JsonValue}
    (distinct : Distinct value) :
    aiEvidenceV1Schema lib (canonicalize value) = aiEvidenceV1Schema lib value := by
  cases value with
  | object fields =>
    have same : canonicalize (.object fields) = .object (Fields.canonical fields) := rfl
    have verdict : ((Fields.canonical fields).lookup "verdict").bind verdictSchema =
        (fields.lookup "verdict").bind verdictSchema := by
      rw [Fields.canonical, lookup_canonicalize distinct.1]
      cases found : fields.lookup "verdict" with
      | none => rfl
      | some value => exact verdictSchema_canonicalize (distinct_of_lookup distinct.2 found)
    rw [same]
    simp only [aiEvidenceV1Schema, Fields.strict_canonical, Fields.string_canonical distinct.1,
      verdict]
  | _ => rfl

end Canonical

section Records

variable {lib : JudgeLibrary} {fields : Fields} {key : String}

theorem Fields.string_of_mem (distinct : (fields.map Prod.fst).Nodup) {text : String}
    (member : (key, .string text) ∈ fields) : fields.string key = some text := by
  rw [string, (lookup_eq_some_iff distinct).mpr member]

theorem Fields.number_of_mem (distinct : (fields.map Prod.fst).Nodup) {n : Binary64}
    (member : (key, .number n) ∈ fields) : fields.number key = some n := by
  rw [number, (lookup_eq_some_iff distinct).mpr member]

theorem Fields.bool_of_mem (distinct : (fields.map Prod.fst).Nodup) {b : Bool}
    (member : (key, .bool b) ∈ fields) : fields.bool key = some b := by
  rw [bool, (lookup_eq_some_iff distinct).mpr member]

theorem Verdict.nodup (verdict : Verdict) : (verdict.fields.map Prod.fst).Nodup :=
  (by decide : ["approve", "confidenceBP", "reasoning", "injectionSuspected"].Nodup)

theorem AIEvidence.nodup (record : AIEvidence) : (record.fields.map Prod.fst).Nodup :=
  (by decide : ["type", "jobId", "verdict", "reasonCode", "model", "promptVersion",
    "deliverableHash", "timestamp"].Nodup)

theorem AIEvidence.distinct (record : AIEvidence) : Distinct record.toJson :=
  ⟨record.nodup, trivial, trivial, ⟨record.verdict.nodup, trivial, trivial, trivial, trivial, trivial⟩,
    trivial, trivial, trivial, trivial, trivial, trivial⟩

theorem basisPoints_ofNat {n : Nat} (small : n ≤ 10000) (fits : n < 2 ^ 53) :
    basisPoints (.ofNat n fits) = some ⟨n, small⟩ := by
  simp [basisPoints, Binary64.ofNat, small]

theorem verdictSchema_fields (verdict : Verdict) :
    verdictSchema (.object verdict.fields) = some verdict := by
  have strict : Fields.strict verdict.fields
      ["approve", "confidenceBP", "reasoning", "injectionSuspected"] := by
    simp [Fields.strict, Verdict.fields]
  have bool {name : String} {b : Bool} (member : (name, .bool b) ∈ verdict.fields) :
      Fields.bool verdict.fields name = some b := Fields.bool_of_mem verdict.nodup member
  have approve := @bool "approve" verdict.approve (by simp [Verdict.fields])
  have injection := @bool "injectionSuspected" verdict.injectionSuspected (by simp [Verdict.fields])
  have reasoning : Fields.string verdict.fields "reasoning" = some verdict.reasoning :=
    Fields.string_of_mem verdict.nodup (by simp [Verdict.fields])
  have fits : verdict.confidenceBP < 2 ^ 53 :=
    lt_of_le_of_lt verdict.confidenceBP_le (by norm_num)
  have confidence : Fields.number verdict.fields "confidenceBP" =
      some (.ofNat verdict.confidenceBP fits) :=
    Fields.number_of_mem verdict.nodup (by simp [Verdict.fields])
  simp only [verdictSchema, strict, approve, injection, reasoning, confidence, guard_true,
    Option.bind_eq_bind, Option.bind_some, basisPoints_ofNat verdict.confidenceBP_le, Option.pure_def,
    dif_pos verdict.reasoning_le]

theorem find_name (code : ReasonCode) : reasonCodes.find? (·.name = code.name) = some code := by
  cases code <;> rfl

/-- What the schema demands of a record. -/
structure AIEvidence.Valid (lib : JudgeLibrary) (record : AIEvidence) : Prop where
  jobId : isJobId record.jobId = true
  model : 1 ≤ utf16Length (trim record.model) ∧ utf16Length (trim record.model) ≤ 200
  deliverableHash : (hex32 record.deliverableHash).isSome = true
  timestamp : lib.isDateTime record.timestamp = true

/-- A record that is parsed loses the blanks around its model, and nothing else. -/
theorem aiEvidenceV1Schema_toJson {record parsed : AIEvidence} :
    aiEvidenceV1Schema lib record.toJson = some parsed ↔
      record.Valid lib ∧ { record with model := trim record.model } = parsed := by
  have strict : Fields.strict record.fields ["type", "jobId", "verdict", "reasonCode", "model",
      "promptVersion", "deliverableHash", "timestamp"] := by
    simp [Fields.strict, AIEvidence.fields]
  have string {name text : String} (member : (name, .string text) ∈ record.fields) :
      Fields.string record.fields name = some text := Fields.string_of_mem record.nodup member
  have kind := @string "type" "ai-v1" (by simp [AIEvidence.fields])
  have jobId := @string "jobId" record.jobId (by simp [AIEvidence.fields])
  have reasonCode := @string "reasonCode" record.reasonCode.name (by simp [AIEvidence.fields])
  have model := @string "model" record.model (by simp [AIEvidence.fields])
  have promptVersion := @string "promptVersion" "v1" (by simp [AIEvidence.fields])
  have deliverableHash := @string "deliverableHash" record.deliverableHash (by simp [AIEvidence.fields])
  have timestamp := @string "timestamp" record.timestamp (by simp [AIEvidence.fields])
  have verdict : record.fields.lookup "verdict" = some (.object record.verdict.fields) :=
    (lookup_eq_some_iff record.nodup).mpr (by simp [AIEvidence.fields])
  simp only [aiEvidenceV1Schema, AIEvidence.toJson, strict, kind, jobId, reasonCode, model,
    promptVersion, deliverableHash, timestamp, verdict, guard_true, Option.bind_eq_bind,
    Option.bind_some, verdictSchema_fields, find_name, Option.map_some, Option.pure_def,
    Option.bind_eq_some_iff, Option.filter_eq_some_iff, Option.some.injEq, Bool.and_eq_true,
    decide_eq_true_eq]
  constructor
  · rintro ⟨_, ⟨rfl, jobId⟩, _, ⟨rfl, model⟩, _, ⟨rfl, deliverableHash⟩, _, ⟨rfl, timestamp⟩, rfl⟩
    exact ⟨⟨jobId, model, deliverableHash, timestamp⟩, rfl⟩
  · rintro ⟨⟨jobId, model, deliverableHash, timestamp⟩, rfl⟩
    exact ⟨_, ⟨rfl, jobId⟩, _, ⟨rfl, model⟩, _, ⟨rfl, deliverableHash⟩, _, ⟨rfl, timestamp⟩, rfl⟩

/-- A record that was parsed is valid, and its model is trimmed. -/
theorem aiEvidenceV1Schema_valid {value : JsonValue} {parsed : AIEvidence}
    (accepted : aiEvidenceV1Schema lib value = some parsed) :
    parsed.Valid lib ∧ trim parsed.model = parsed.model := by
  unfold aiEvidenceV1Schema at accepted
  split at accepted
  next fields =>
    simp only [Option.bind_eq_bind, Option.bind_eq_some_iff, Option.filter_eq_some_iff,
      Option.map_eq_some_iff, Option.pure_def, Option.some.injEq, Bool.and_eq_true,
      decide_eq_true_eq] at accepted
    obtain ⟨_, -, _, -, jobId, ⟨-, isJobId⟩, _, -, _, -, model, ⟨⟨text, -, rfl⟩, short⟩, _, -, hash,
      ⟨-, isHash⟩, timestamp, ⟨-, isTime⟩, rfl⟩ := accepted
    refine ⟨⟨isJobId, ?_, isHash, isTime⟩, trim_trim text⟩
    rw [trim_trim]
    exact short
  next => cases accepted

/-- A record that was parsed is parsed again as it is. -/
theorem aiEvidenceV1Schema_again {value : JsonValue} {parsed : AIEvidence}
    (accepted : aiEvidenceV1Schema lib value = some parsed) :
    aiEvidenceV1Schema lib parsed.toJson = some parsed := by
  obtain ⟨valid, trimmed⟩ := aiEvidenceV1Schema_valid accepted
  refine aiEvidenceV1Schema_toJson.mpr ⟨valid, ?_⟩
  rw [trimmed]

/-- The canonical text of a record is read back as the record. -/
theorem parse_canonicalJson {value : JsonValue} {parsed : AIEvidence}
    (accepted : aiEvidenceV1Schema lib value = some parsed) :
    ∃ decoded, Json.parse (canonicalJson parsed.toJson) = some decoded ∧
      aiEvidenceV1Schema lib decoded = some parsed := by
  refine ⟨_, (parse_canonical 0 parsed.distinct).1, ?_⟩
  rw [aiEvidenceV1Schema_canonicalize parsed.distinct]
  exact aiEvidenceV1Schema_again accepted

end Records

end VapiArc.Judge
