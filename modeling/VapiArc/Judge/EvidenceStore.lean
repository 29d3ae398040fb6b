import VapiArc.Judge.EvidenceSchema
import VapiArc.Lib.Transition
import VapiArc.Review.EvidenceStable

/-!
# The store of AI evidence

A record that was stored is read back verified, and storing it again changes nothing.
-/
namespace VapiArc.Judge

open Checked Function Json Transition
open Review (Failure Hex Timestamp)

section Rows

variable {lib : JudgeLibrary} {records : AIEvidenceRecords} {hash : Hex} {input : JsonValue}
  {evidence : AIEvidence}

theorem parseAIEvidence_ok :
    parseAIEvidence lib input = .ok evidence ↔ aiEvidenceV1Schema lib input = some evidence :=
  demand_ok _ _ _

theorem verifyAIEvidence_toJson (accepted : aiEvidenceV1Schema lib input = some evidence) :
    verifyAIEvidence lib evidence.toJson hash = decide (computeEvidenceHash lib evidence.toJson = hash) := by
  rw [verifyAIEvidence, aiEvidenceV1Schema_again accepted]

theorem serializeAIEvidence_toJson (accepted : aiEvidenceV1Schema lib input = some evidence) :
    serializeAIEvidence lib evidence.toJson = .ok (canonicalJson evidence.toJson) := by
  rw [serializeAIEvidence, parseAIEvidence_ok.mpr (aiEvidenceV1Schema_again accepted)]
  rfl

/-- The row of a record. -/
def AIEvidence.row (evidence : AIEvidence) (receivedAt : Timestamp) : AIEvidenceRow where
  evidenceJson := canonicalJson evidence.toJson
  jobId := evidence.jobId
  deliverableHash := evidence.deliverableHash
  reasonCode := evidence.reasonCode.name
  receivedAt := receivedAt

/-- What reading the row of a record returns. -/
def AIEvidence.stored (evidence : AIEvidence) (hash : Hex) (receivedAt : Timestamp) :
    StoredAIEvidence where
  evidenceHash := hash
  evidenceJson := canonicalJson evidence.toJson
  evidence := evidence
  receivedAt := receivedAt

theorem getAIEvidence_row {receivedAt : Timestamp}
    (accepted : aiEvidenceV1Schema lib input = some evidence)
    (hashes : computeEvidenceHash lib evidence.toJson = hash)
    (found : records hash = some (evidence.row receivedAt)) :
    getAIEvidence lib records hash = .ok (some (evidence.stored hash receivedAt)) := by
  obtain ⟨decoded, read, parsed⟩ := parse_canonicalJson accepted
  have verified : verifyAIEvidence lib evidence.toJson hash = true :=
    (verifyAIEvidence_toJson accepted).trans (decide_eq_true hashes)
  unfold getAIEvidence
  simp only [found, AIEvidence.row, read, demand, bind, Except.bind, parseAIEvidence, parsed, verified]
  simp [revertIf, AIEvidence.stored, pure, Except.pure]

/-- What a store accepts: a record that is no human one, under its own hash. -/
theorem storeAIEvidence_eq {receivedAt : Timestamp}
    (accepted : aiEvidenceV1Schema lib input = some evidence)
    (hashes : computeEvidenceHash lib evidence.toJson = hash)
    (judged : evidence.reasonCode ≠ .humanLaneRequested) :
    storeAIEvidence lib records hash input receivedAt = do
      match ← getAIEvidence lib records hash with
      | some existing =>
        revertIf (existing.evidenceJson ≠ canonicalJson evidence.toJson)
          (.error "AI evidence hash is already bound to another record")
        return ((existing, false), records)
      | none =>
        return ((evidence.stored hash receivedAt, true),
          update records hash (some (evidence.row receivedAt))) := by
  have verified : verifyAIEvidence lib evidence.toJson hash = true :=
    (verifyAIEvidence_toJson accepted).trans (decide_eq_true hashes)
  simp only [storeAIEvidence, parseAIEvidence_ok.mpr accepted, verified, judged, revertIf,
    serializeAIEvidence_toJson accepted, bind, Except.bind, Bool.true_eq_false, if_false]
  rfl

/-- A record of the human lane is refused. -/
theorem storeAIEvidence_human {receivedAt : Timestamp}
    (accepted : aiEvidenceV1Schema lib input = some evidence)
    (hashes : computeEvidenceHash lib evidence.toJson = hash)
    (human : evidence.reasonCode = .humanLaneRequested) :
    storeAIEvidence lib records hash input receivedAt =
      .error (.error "human-only lane provenance is not an AI evidence record") := by
  have verified : verifyAIEvidence lib evidence.toJson hash = true :=
    (verifyAIEvidence_toJson accepted).trans (decide_eq_true hashes)
  simp only [storeAIEvidence, parseAIEvidence_ok.mpr accepted, verified, human, revertIf, bind,
    Except.bind, Bool.true_eq_false, if_false, if_true]

/-- A store that succeeds leaves the table as it was, or adds the record's row. -/
theorem storeAIEvidence_ok {receivedAt : Timestamp} {stored : StoredAIEvidence} {created : Bool}
    {records' : AIEvidenceRecords}
    (done : storeAIEvidence lib records hash input receivedAt = .ok ((stored, created), records')) :
    records' = records ∨ ∃ evidence, aiEvidenceV1Schema lib input = some evidence ∧
      computeEvidenceHash lib evidence.toJson = hash ∧
      records' = update records hash (some (evidence.row receivedAt)) := by
  unfold storeAIEvidence at done
  simp only [bind_ok, revertIf_ok, exists_const, parseAIEvidence_ok] at done
  obtain ⟨evidence, accepted, verified, -, text, serialized, existing, -, done⟩ := done
  rw [verifyAIEvidence_toJson accepted, Bool.not_eq_false, decide_eq_true_eq] at verified
  rw [serializeAIEvidence_toJson accepted] at serialized
  cases serialized
  split at done
  next =>
    simp only [bind_ok, pure_ok, Prod.mk.injEq] at done
    obtain ⟨_, -, -, rfl⟩ := done
    exact .inl rfl
  next =>
    cases done
    exact .inr ⟨evidence, accepted, verified, rfl⟩

end Rows

structure StoreCall where
  evidenceHash : Hex
  evidence : JsonValue
  receivedAt : Timestamp

/-- Calls that hand evidence over, of any hash and any value. -/
def evidenceStore (lib : JudgeLibrary) : System AIEvidenceRecords StoreCall where
  admits _ _ := True
  next records call :=
    match storeAIEvidence lib records call.evidenceHash call.evidence call.receivedAt with
    | .ok (_, records') => records'
    | .error _ => records

section Runs

variable {lib : JudgeLibrary} {records : AIEvidenceRecords} {hash : Hex} {input : JsonValue}
  {evidence : AIEvidence} {history : List (AIEvidenceRecords × StoreCall)}

/-- Every row is that of a record, under the record's hash. -/
def Recorded (lib : JudgeLibrary) (records : AIEvidenceRecords) : Prop :=
  ∀ hash row, records hash = some row → ∃ input evidence receivedAt,
    aiEvidenceV1Schema lib input = some evidence ∧
      computeEvidenceHash lib evidence.toJson = hash ∧ row = evidence.row receivedAt

theorem recorded_step {call : StoreCall} (recorded : Recorded lib records) :
    Recorded lib ((evidenceStore lib).next records call) := by
  cases done : storeAIEvidence lib records call.evidenceHash call.evidence call.receivedAt with
  | error failure =>
    simp only [evidenceStore, done]
    exact recorded
  | ok result =>
    obtain ⟨⟨stored, created⟩, records'⟩ := result
    simp only [evidenceStore, done]
    rcases storeAIEvidence_ok done with rfl | ⟨evidence, accepted, hashes, rfl⟩
    · exact recorded
    · intro hash row found
      by_cases same : hash = call.evidenceHash
      · subst same
        rw [update_self] at found
        cases found
        exact ⟨call.evidence, evidence, call.receivedAt, accepted, hashes, rfl⟩
      · rw [update_of_ne same] at found
        exact recorded hash row found

theorem recorded_run (run : Run (evidenceStore lib) (fun _ => none) history records) :
    Recorded lib records := by
  refine run.invariant (Recorded lib) ?_ ?_
  · intro hash row found
    cases found
  · intro records call recorded _
    exact recorded_step recorded

/-- The text that is stored under a hash is the only one with this hash. -/
def CollisionFree (lib : JudgeLibrary) (records : AIEvidenceRecords) (hash : Hex) (text : String) :
    Prop :=
  ∀ row, records hash = some row → lib.keccak256 row.evidenceJson = lib.keccak256 text →
    row.evidenceJson = text

/-- A record is stored, is read back as it is, and is not stored twice. -/
theorem storeAIEvidence_kept (recorded : Recorded lib records)
    (accepted : aiEvidenceV1Schema lib input = some evidence)
    (hashes : computeEvidenceHash lib evidence.toJson = hash)
    (judged : evidence.reasonCode ≠ .humanLaneRequested)
    (collisionFree : CollisionFree lib records hash (canonicalJson evidence.toJson))
    (receivedAt : Timestamp) :
    ∃ stored created records',
      storeAIEvidence lib records hash input receivedAt = .ok ((stored, created), records') ∧
      getAIEvidence lib records' hash = .ok (some stored) ∧ stored.evidence = evidence ∧
      verifyAIEvidence lib stored.evidence.toJson hash = true ∧
      ∀ again, storeAIEvidence lib records' hash input again = .ok ((stored, false), records') := by
  have verified : verifyAIEvidence lib evidence.toJson hash = true := by
    rw [verifyAIEvidence_toJson accepted]
    exact decide_eq_true hashes
  -- once the row is there, a store finds it
  have found {records : AIEvidenceRecords} {since : Timestamp}
      (there : records hash = some (evidence.row since)) (now : Timestamp) :
      storeAIEvidence lib records hash input now = .ok ((evidence.stored hash since, false), records) := by
    rw [storeAIEvidence_eq accepted hashes judged, getAIEvidence_row accepted hashes there]
    simp [bind, Except.bind, revertIf, AIEvidence.stored, pure, Except.pure]
  cases there : records hash with
  | none =>
    have fresh : update records hash (some (evidence.row receivedAt)) hash =
        some (evidence.row receivedAt) := update_self _ _ _
    refine ⟨evidence.stored hash receivedAt, true, _, ?_, getAIEvidence_row accepted hashes fresh, rfl,
      verified, found fresh⟩
    rw [storeAIEvidence_eq accepted hashes judged, getAIEvidence, there]
    rfl
  | some row =>
    obtain ⟨_, other, since, acceptedOther, hashesOther, rfl⟩ := recorded hash row there
    -- the stored record has the same text, so it is the same record
    have text := collisionFree _ there (hashesOther.trans hashes.symm)
    have same : other = evidence := by
      obtain ⟨decoded, read, parsed⟩ := parse_canonicalJson acceptedOther
      obtain ⟨decoded', read', parsed'⟩ := parse_canonicalJson accepted
      simp only [AIEvidence.row] at text
      rw [text, read'] at read
      cases read
      rw [parsed'] at parsed
      exact (Option.some.inj parsed).symm
    subst same
    exact ⟨other.stored hash since, false, records, found there receivedAt,
      getAIEvidence_row accepted hashes there, rfl, verified, found there⟩

end Runs

/-- A JSON value as JavaScript has it: its numbers are of both zeros, its keys are distinct. -/
abbrev JavaScriptValue := { value : Value Number // Distinct value }

/-- The canonical form is idempotent and is the same for values that differ in the order of
their keys, and so is its text, which tells other values apart; a record of AI evidence is
stored once and read back verified; and the text of human evidence, read back, has the
record's hash. -/
theorem canonical_evidence :
    (∀ value : JavaScriptValue, canonicalize (canonicalize value.1) = canonicalize value.1) ∧
    (∀ value value' : JavaScriptValue, Reordered value.1 value'.1 →
      canonicalize value.1 = canonicalize value'.1) ∧
    (∀ value value' : JavaScriptValue, canonicalJson value.1 = canonicalJson value'.1 ↔
      Reordered (value.1.map Number.unsigned) (value'.1.map Number.unsigned)) ∧
    (∀ (lib : JudgeLibrary) history records,
      Run (evidenceStore lib) (fun _ => none) history records →
      ∀ (input : JsonValue) evidence, aiEvidenceV1Schema lib input = some evidence →
      evidence.reasonCode ≠ .humanLaneRequested →
      CollisionFree lib records (computeEvidenceHash lib evidence.toJson)
        (canonicalJson evidence.toJson) →
      ∀ receivedAt, ∃ stored created records',
        storeAIEvidence lib records (computeEvidenceHash lib evidence.toJson) input receivedAt =
          .ok ((stored, created), records') ∧
        getAIEvidence lib records' (computeEvidenceHash lib evidence.toJson) = .ok (some stored) ∧
        stored.evidence = evidence ∧
        verifyAIEvidence lib stored.evidence.toJson (computeEvidenceHash lib evidence.toJson) =
          true ∧
        ∀ again, storeAIEvidence lib records' (computeEvidenceHash lib evidence.toJson) input again =
          .ok ((stored, false), records')) ∧
    (∀ lib (evidence : Review.HumanEvidence), ∃ record,
      Json.parse (Review.serializeHumanEvidence lib evidence) = some record ∧
        Review.verifyHumanEvidence lib record (Review.humanEvidenceHash lib evidence) = true) := by
  refine ⟨fun value => canonicalize_canonicalize value.1,
    fun value value' same => canonicalize_of_reordered value.2 same, fun value value' => ?_,
    fun lib history records run input evidence accepted judged collisionFree receivedAt => ?_,
    fun lib evidence => evidence.verified lib⟩
  · -- the text does not see the sign of a zero
    have written (n : Number) : NumberText.text n.unsigned = NumberText.text n := rfl
    have unsigned (value : Value Number) : canonicalJson value =
        canonicalJson (value.map Number.unsigned) := by
      rw [canonicalJson, canonicalJson, canonicalize_map, stringify, stringify, text_map _ written]
    rw [unsigned value.1, unsigned value'.1]
    exact stringify_canonicalize_eq_iff 0 (distinct_map _ value.2) (distinct_map _ value'.2)
  · exact storeAIEvidence_kept (recorded_run run) accepted rfl judged collisionFree receivedAt

namespace EvidenceWalkthrough

/-- A library whose hashes tell texts apart. -/
def library : JudgeLibrary where
  keccak256 text := Encodable.encode (text.toList.map Char.toNat)
  addressText address := toString address
  isHttpUrl text := "http://".toList.isPrefixOf text.toList
  getAddress text := (text.toList.getLast?).bind hexValue
  isPrivateKey _ := true
  isDateTime text := decide (text.toList.head? ≠ some '+')
  isDateTime_toISOString _ := rfl

def record (reasonCode : Review.ReasonCode) : AIEvidence where
  jobId := "7"
  verdict := invalidVerdict
  reasonCode := reasonCode
  model := "judge"
  deliverableHash := "0x0000000000000000000000000000000000000000000000000000000000000000"
  timestamp := "2026-01-01T00:00:00.000Z"

theorem accepted (reasonCode : Review.ReasonCode) :
    aiEvidenceV1Schema library (record reasonCode).toJson = some (record reasonCode) := by
  refine aiEvidenceV1Schema_toJson.mpr ⟨⟨?_, ?_, ?_, ?_⟩, ?_⟩
  · exact (by decide : isJobId "7" = true)
  · exact (by decide : 1 ≤ Review.utf16Length (Review.trim "judge") ∧
      Review.utf16Length (Review.trim "judge") ≤ 200)
  · exact (by decide : (hex32
      "0x0000000000000000000000000000000000000000000000000000000000000000").isSome = true)
  · exact decide_eq_true (by decide : "2026-01-01T00:00:00.000Z".toList.head? ≠ some '+')
  · have trimmed : Review.trim "judge" = "judge" := by decide
    simp only [record, trimmed]

end EvidenceWalkthrough

open EvidenceWalkthrough in
/-- A record with the reason of the human lane is valid, and is refused. -/
theorem human_lane_refused :
    aiEvidenceV1Schema library (record .humanLaneRequested).toJson =
        some (record .humanLaneRequested) ∧
      storeAIEvidence library (fun _ => none)
        (computeEvidenceHash library (record .humanLaneRequested).toJson)
        (record .humanLaneRequested).toJson 0 =
          .error (.error "human-only lane provenance is not an AI evidence record") := by
  have valid := accepted .humanLaneRequested
  exact ⟨valid, storeAIEvidence_human valid rfl rfl⟩

open EvidenceWalkthrough in
theorem canonical_evidence_walkthrough :
    ∃ stored created records',
      storeAIEvidence library (fun _ => none)
        (computeEvidenceHash library (record .budgetAboveCap).toJson)
        (record .budgetAboveCap).toJson 5 = .ok ((stored, created), records') ∧
      stored.evidence = record .budgetAboveCap := by
  obtain ⟨-, -, -, stores, -⟩ := canonical_evidence
  obtain ⟨stored, created, records', done, -, same, -⟩ := stores library [] _ .refl _ _
    (accepted .budgetAboveCap) (by decide) (by rintro row ⟨⟩) 5
  exact ⟨stored, created, records', done, same⟩

end VapiArc.Judge
