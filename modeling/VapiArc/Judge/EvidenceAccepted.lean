import VapiArc.Judge.EvidenceStore
import VapiArc.Judge.Gates

/-!
# Evidence that is written and evidence that is accepted

The worker hashes the record that it has built, with the model's name as it was configured. The
publisher and the store hash the record that the schema leaves, whose model is trimmed.
-/
namespace VapiArc.Judge

open Checked Function Json
open Review (Failure Hex ReasonCode Timestamp hashText toISOString trim utf16Length)

section Texts

theorem hexValue_digitChar {d : Nat} (small : d < 16) : (hexValue d.digitChar).isSome = true := by
  interval_cases d <;> decide

theorem hexValue_toDigits (n : Nat) : ∀ c ∈ Nat.toDigits 16 n, (hexValue c).isSome = true := by
  induction n using Nat.strong_induction_on with
  | _ n ih =>
    by_cases small : n < 16
    · rw [Nat.toDigits_of_lt_base small]
      intro c member
      rw [List.mem_singleton.mp member]
      exact hexValue_digitChar small
    · rw [Nat.toDigits_of_base_le (by decide) (by omega)]
      intro c member
      rcases List.mem_append.mp member with high | low
      · exact ih (n / 16) (by omega) c high
      · rw [List.mem_singleton.mp low]
        exact hexValue_digitChar (Nat.mod_lt n (by decide))

theorem mapM_isSome {α β : Type} {f : α → Option β} {as : List α}
    (all : ∀ a ∈ as, (f a).isSome = true) : (as.mapM f).isSome = true := by
  induction as with
  | nil => rfl
  | cons a rest ih =>
    obtain ⟨b, first⟩ := Option.isSome_iff_exists.mp (all a List.mem_cons_self)
    obtain ⟨bs, others⟩ := Option.isSome_iff_exists.mp (ih fun a member =>
      all a (List.mem_cons_of_mem _ member))
    simp [List.mapM_cons, first, others]

/-- The text of 32 bytes is one that the schema takes. -/
theorem hex32_hashText {hash : Hex} (bytes32 : hash < 2 ^ 256) :
    (hex32 (hashText hash)).isSome = true := by
  have short : (Nat.toDigits 16 hash).length ≤ 64 := by
    refine (Nat.length_toDigits_le_iff (by decide) (by decide)).mpr ?_
    rwa [show 16 ^ 64 = 2 ^ 256 by norm_num]
  have hex : ∀ c ∈ List.replicate (64 - (Nat.toDigits 16 hash).length) '0' ++ Nat.toDigits 16 hash,
      (hexValue c).isSome = true := by
    refine List.forall_mem_append.mpr ⟨fun c member => ?_, hexValue_toDigits hash⟩
    rw [List.eq_of_mem_replicate member]
    rfl
  have digits : (hashText hash).toList = '0' :: 'x' ::
      (List.replicate (64 - (Nat.toDigits 16 hash).length) '0' ++ Nat.toDigits 16 hash) := by
    simp [hashText]
  have long : (List.replicate (64 - (Nat.toDigits 16 hash).length) '0' ++
      Nat.toDigits 16 hash).length = 64 := by
    rw [List.length_append, List.length_replicate]
    omega
  simp only [hex32, digits, long, if_true, Option.isSome_map]
  exact mapM_isSome hex

theorem isJobId_toString (n : Nat) : isJobId (toString n) = true := by
  rcases Nat.eq_zero_or_pos n with rfl | positive
  · decide
  · have digits : (toString n).toList = Nat.toDigits 10 n := by simp [Nat.toList_repr]
    have nonempty : toString n ≠ "" := by
      intro empty
      rw [empty] at digits
      exact Nat.toDigits_ne_nil digits.symm
    have all : (Nat.toDigits 10 n).all Char.isDigit = true :=
      List.all_eq_true.mpr (Literal.digits_toDigits n)
    simp [isJobId, toDigits_head_ne_zero positive, all]

theorem utf16Length_pos {text : String} (nonempty : text ≠ "") : 1 ≤ utf16Length text := by
  unfold utf16Length
  cases chars : text.toList with
  | nil => exact absurd (String.toList_inj.mp chars) nonempty
  | cons c rest =>
    rw [List.flatMap_cons, List.length_append]
    have : 1 ≤ (codeUnits c).length := by
      unfold codeUnits
      split <;> simp
    omega

end Texts

section Settings

variable {lib : JudgeLibrary} {environment : ProcessEnv}

theorem requiredSetting_of_issueOf {name : String} {check : String → Option String}
    (clean : issueOf environment name check = []) :
    ∃ value, requiredSetting environment none name = .ok value := by
  unfold issueOf requiredValue at clean
  unfold requiredSetting
  cases given : (environment name).map trim with
  | none =>
    rw [given] at clean
    cases clean
  | some value =>
    rw [given] at clean
    by_cases empty : value = ""
    · subst empty
      cases clean
    · exact ⟨value, by simp [Option.filter, empty, demand]⟩

/-- What the check of the settings leaves to the publisher. -/
theorem validateLiveJudgeEnvironment_ok (live : validateLiveJudgeEnvironment lib environment = .ok ()) :
    (∃ url, requiredSetting environment none "REVIEW_SERVICE_INTERNAL_URL" = .ok url) ∧
      (∃ token, requiredSetting environment none "REVIEW_INTERNAL_TOKEN" = .ok token) ∧
      trim (getJudgeModel environment) ≠ "" := by
  rw [validateLiveJudgeEnvironment, revertIf_ok, not_not] at live
  simp only [liveJudgeIssues, List.append_eq_nil_iff] at live
  obtain ⟨⟨⟨⟨⟨⟨⟨⟨⟨⟨-, -⟩, -⟩, -⟩, -⟩, url⟩, token⟩, -⟩, model⟩, -⟩, -⟩ := live
  refine ⟨requiredSetting_of_issueOf url, requiredSetting_of_issueOf token, ?_⟩
  unfold judgeModelIssue at model
  unfold getJudgeModel
  split at model
  next => cases model
  next named =>
    cases given : environment "JUDGE_MODEL" with
    | none => decide
    | some configured =>
      by_cases empty : configured = ""
      · subst empty
        decide
      · intro blank
        simp only at blank
        rw [given] at named
        exact named (congrArg some blank)

end Settings

section Acceptance

variable {lib : JudgeLibrary} {environment : ProcessEnv} {record parsed : AIEvidence}

/-- Two texts that have one hash are the same. -/
def Tells (lib : JudgeLibrary) (text text' : String) : Prop :=
  lib.keccak256 text = lib.keccak256 text' → text = text'

theorem model_of_canonicalJson {record record' : AIEvidence}
    (same : canonicalJson record.toJson = canonicalJson record'.toJson) :
    record.model = record'.model := by
  have model (record : AIEvidence) : Fields.string record.fields "model" = some record.model :=
    Fields.string_of_mem record.nodup (by simp [AIEvidence.fields])
  have canonical : canonicalize record.toJson = canonicalize record'.toJson := by
    have first := (parse_canonical 0 record.distinct).1
    have second := (parse_canonical 0 record'.distinct).1
    unfold canonicalJson at same
    rw [same, second] at first
    exact (Option.some.inj first).symm
  have fields : Fields.canonical record.fields = Fields.canonical record'.fields :=
    Value.object.inj canonical
  have read := Fields.string_canonical record.nodup "model"
  rw [fields, Fields.string_canonical record'.nodup, model, model] at read
  exact (Option.some.inj read).symm

/-- The publisher takes a record under its own hash if and only if the schema leaves it as it is. -/
theorem verify_own_iff (accepted : aiEvidenceV1Schema lib record.toJson = some parsed)
    (tells : Tells lib (canonicalJson parsed.toJson) (canonicalJson record.toJson)) :
    verifyAIEvidence lib parsed.toJson (computeEvidenceHash lib record.toJson) = true ↔
      trim record.model = record.model := by
  obtain ⟨-, rfl⟩ := aiEvidenceV1Schema_toJson.mp accepted
  rw [verifyAIEvidence_toJson accepted, decide_eq_true_eq]
  constructor
  · intro same
    exact model_of_canonicalJson (tells same)
  · intro trimmed
    rw [trimmed]

/-- A record and the one with its model trimmed have two hashes, unless they are the same text. -/
def TellsTrimmed (lib : JudgeLibrary) (record : AIEvidence) : Prop :=
  Tells lib (canonicalJson { record with model := trim record.model }.toJson)
    (canonicalJson record.toJson)

/-- A record whose model is not trimmed is refused under its own hash. -/
theorem publishAIEvidence_mismatch {options : PublishOptions}
    {fetch : Hex → AIEvidence → Nat → Fetched} (valid : record.Valid lib)
    (untrimmed : trim record.model ≠ record.model) (tells : TellsTrimmed lib record) :
    publishAIEvidence lib environment record.toJson (computeEvidenceHash lib record.toJson) options
      fetch = .error (.error "AI evidence does not match its canonical evidence hash") := by
  have schema := aiEvidenceV1Schema_toJson.mpr ⟨valid, rfl⟩
  have refused : verifyAIEvidence lib { record with model := trim record.model }.toJson
      (computeEvidenceHash lib record.toJson) = false := by
    refine Bool.eq_false_iff.mpr fun verified => untrimmed ?_
    exact (verify_own_iff schema tells).mp verified
  rw [publishAIEvidence, parseAIEvidence_ok.mpr schema]
  simp only [bind, Except.bind, refused, revertIf, if_true]

/-- A service that takes every request. -/
def accepting : Hex → AIEvidence → Nat → Fetched := fun _ _ _ => .response 201 ""

/-- What is written is accepted: the publisher gets it to the service, and the service stores the
record as it was written. -/
structure Accepted (lib : JudgeLibrary) (environment : ProcessEnv) (written : WrittenEvidence) :
    Prop where
  published : publishAIEvidence lib environment written.record.toJson written.evidenceHash {}
    accepting = .ok ()
  stored : ∀ records, Recorded lib records →
    CollisionFree lib records written.evidenceHash (canonicalJson written.record.toJson) →
    ∀ receivedAt, ∃ stored created records',
      storeAIEvidence lib records written.evidenceHash written.record.toJson receivedAt =
        .ok ((stored, created), records') ∧ stored.evidence = written.record

theorem publishAIEvidence_ok (live : validateLiveJudgeEnvironment lib environment = .ok ())
    {hash : Hex} :
    publishAIEvidence lib environment record.toJson hash {} accepting = .ok () ↔
      ∃ parsed, aiEvidenceV1Schema lib record.toJson = some parsed ∧
        verifyAIEvidence lib parsed.toJson hash = true := by
  obtain ⟨⟨url, urlGiven⟩, ⟨token, tokenGiven⟩, -⟩ := validateLiveJudgeEnvironment_ok live
  have sent (hash : Hex) (parsed : AIEvidence) :
      publishAttempts hash 3 (accepting hash parsed) 3 "unknown error" = .ok () := rfl
  simp [publishAIEvidence, parseAIEvidence_ok, urlGiven, tokenGiven, sent]

/-- What the worker writes of a decision. -/
def decisionEvidence (lib : JudgeLibrary) (environment : ProcessEnv) (input : ValidateInput)
    (decision : GateResult) (deliverableHash : Hex) (now : Timestamp) : WrittenEvidence :=
  writeEvidence lib {
    jobId := input.job.id
    verdict := decision.verdict
    reasonCode := decision.reasonCode
    model := getJudgeModel environment
    deliverableHash } now

theorem validateDecision_judged {env : Environment} {input : ValidateInput} {decision : GateResult}
    (decided : validateDecision env input = .ok decision) :
    decision.reasonCode ≠ .humanLaneRequested := by
  obtain ⟨-, passed, -⟩ | ⟨-, escalation⟩ := validateDecision_cases decided
  · rw [passed]
    decide
  · intro human
    rw [human] at escalation
    cases escalation

theorem decisionEvidence_valid (input : ValidateInput) (decision : GateResult) {deliverableHash : Hex}
    {now : Timestamp} (live : validateLiveJudgeEnvironment lib environment = .ok ())
    (bytes32 : deliverableHash < 2 ^ 256) :
    (decisionEvidence lib environment input decision deliverableHash now).record.Valid lib ↔
      utf16Length (trim (getJudgeModel environment)) ≤ 200 ∧
        (toISOString now).toList.head? ≠ some '+' := by
  obtain ⟨-, -, named⟩ := validateLiveJudgeEnvironment_ok live
  constructor
  · intro valid
    refine ⟨valid.model.2, ?_⟩
    have accepted := valid.timestamp
    exact of_decide_eq_true ((lib.isDateTime_toISOString now).symm.trans accepted)
  · rintro ⟨short, fourDigits⟩
    refine ⟨isJobId_toString input.job.id, ⟨utf16Length_pos named, short⟩, hex32_hashText bytes32, ?_⟩
    exact (lib.isDateTime_toISOString now).trans (decide_eq_true fourDigits)

/-- Evidence is accepted if and only if the judge's model is named without blanks around it and
with at most 200 units, and the clock is in a year of four digits. -/
theorem evidence_accepted {env : Environment} {input : ValidateInput} {decision : GateResult}
    {deliverableHash : Hex} {now : Timestamp}
    (live : validateLiveJudgeEnvironment lib environment = .ok ())
    (decided : validateDecision env input = .ok decision) (bytes32 : deliverableHash < 2 ^ 256)
    (tells : TellsTrimmed lib
      (decisionEvidence lib environment input decision deliverableHash now).record) :
    Accepted lib environment
        (decisionEvidence lib environment input decision deliverableHash now) ↔
      trim (getJudgeModel environment) = getJudgeModel environment ∧
        utf16Length (getJudgeModel environment) ≤ 200 ∧
        (toISOString now).toList.head? ≠ some '+' := by
  constructor
  · -- what is accepted passed the schema, and its hash is over the trimmed text
    intro accepted
    obtain ⟨parsed, schema, verified⟩ := (publishAIEvidence_ok live).mp accepted.published
    obtain ⟨valid, rfl⟩ := aiEvidenceV1Schema_toJson.mp schema
    obtain ⟨short, fourDigits⟩ := (decisionEvidence_valid input decision live bytes32).mp valid
    have trimmed := (verify_own_iff schema tells).mp verified
    exact ⟨trimmed, by rwa [show trim (getJudgeModel environment) = _ from trimmed] at short,
      fourDigits⟩
  · -- the record is stored as it was sent, since nothing in it changes under `trim`
    rintro ⟨trimmed, short, fourDigits⟩
    have valid := (decisionEvidence_valid input decision live bytes32).mpr
      ⟨by rwa [trimmed], fourDigits⟩
    have schema : aiEvidenceV1Schema lib
        (decisionEvidence lib environment input decision deliverableHash now).record.toJson =
        some (decisionEvidence lib environment input decision deliverableHash now).record := by
      refine aiEvidenceV1Schema_toJson.mpr ⟨valid, ?_⟩
      have same : trim (decisionEvidence lib environment input decision deliverableHash now).record.model
          = getJudgeModel environment := trimmed
      rw [same]
      rfl
    refine ⟨(publishAIEvidence_ok live).mpr ⟨_, schema, ?_⟩, ?_⟩
    · exact (verifyAIEvidence_toJson schema).trans (decide_eq_true rfl)
    · intro records recorded collisionFree receivedAt
      obtain ⟨stored, created, records', done, -, same, -⟩ :=
        storeAIEvidence_kept recorded schema rfl (validateDecision_judged decided) collisionFree receivedAt
      exact ⟨stored, created, records', done, same⟩

end Acceptance

namespace EvidenceWalkthrough

theorem library_tells (text text' : String) : Tells library text text' := by
  intro same
  have codes := Encodable.encode_injective same
  refine String.toList_inj.mp (List.map_injective_iff.mpr ?_ codes)
  intro c c' code
  exact Char.ext (UInt32.toNat_inj.mp code)

def environment (judgeModel : String) : ProcessEnv := fun name =>
  [("ARC_RPC_URL", "http://rpc"),
    ("AGENTIC_COMMERCE", "0x0000000000000000000000000000000000000001"),
    ("ROUTER_ADDRESS", "0x0000000000000000000000000000000000000002"),
    ("ORACLE_PK", "0x0000000000000000000000000000000000000000000000000000000000000003"),
    ("ANTHROPIC_API_KEY", "key"),
    ("REVIEW_SERVICE_INTERNAL_URL", "http://review"),
    ("REVIEW_INTERNAL_TOKEN", "token"),
    ("VAPI_DATA_ROOT", "/data"),
    ("JUDGE_MODEL", judgeModel)].lookup name

theorem live : validateLiveJudgeEnvironment library (environment "judge") = .ok () := by
  decide +kernel

theorem liveBlank : validateLiveJudgeEnvironment library (environment " judge") = .ok () := by
  decide +kernel

def input : ValidateInput where
  rawVerdict := .null
  job := ⟨7, 21, 22, 90, 1000, 5000, 2⟩
  deliverable := { status := .missing, byteLength := 0, onChainHash := some 77 }

def decision : GateResult := ⟨.escalate, .modelOutputInvalid, invalidVerdict⟩

theorem decided : validateDecision ⟨none, none, 0⟩ input = .ok decision := rfl

/-- What is written with a model of some name, for a deliverable with the hash 77. -/
def written (judgeModel : String) : WrittenEvidence :=
  decisionEvidence library (environment judgeModel) input decision 77 0

theorem writtenBlank_valid : (written " judge").record.Valid library :=
  (decisionEvidence_valid input decision liveBlank (by norm_num)).mpr ⟨by decide, by decide⟩

end EvidenceWalkthrough

open EvidenceWalkthrough in
theorem evidence_accepted_walkthrough : Accepted library (environment "judge") (written "judge") :=
  (evidence_accepted live decided (by norm_num) (library_tells _ _)).mpr
    ⟨by decide, by decide, by decide⟩

open EvidenceWalkthrough in
/-- With a blank before its name the judge's model passes the check of the settings, and the
evidence of its decisions is refused. -/
theorem evidence_refused :
    validateLiveJudgeEnvironment library (environment " judge") = .ok () ∧
      validateDecision ⟨none, none, 0⟩ input = .ok decision ∧
      ∀ options fetch, publishAIEvidence library (environment " judge")
        (written " judge").record.toJson (written " judge").evidenceHash options fetch =
          .error (.error "AI evidence does not match its canonical evidence hash") :=
  ⟨liveBlank, decided, fun _ _ =>
    publishAIEvidence_mismatch writtenBlank_valid (by decide) (library_tells _ _)⟩

end VapiArc.Judge
