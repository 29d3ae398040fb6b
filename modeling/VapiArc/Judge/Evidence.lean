import VapiArc.Judge.Validate
import VapiArc.Lib.JsonOrder
import VapiArc.Review.Evidence

/-!
# The evidence of an AI decision

The worker writes a record, hashes its canonical text and hands both to the review service,
which parses the record with its schema and hashes what it has parsed.
-/
namespace VapiArc.Judge

open Checked Function
open Review (Hex Failure Library ReasonCode Timestamp hashText toISOString trim utf16Length)

/-- Code that the worker takes from elsewhere. -/
structure JudgeLibrary extends Library where
  /-- `new URL(raw)` with a host, of the protocol `http:` or `https:`. -/
  isHttpUrl : String → Bool
  /-- The value of an address, if its text is one. -/
  getAddress : String → Option Nat
  /-- `privateKeyToAccount` takes the key. -/
  isPrivateKey : String → Bool
  /-- `z.iso.datetime({ offset: true })` -/
  isDateTime : String → Bool
  /-- A year of more than four digits has a sign, and is no date to the schema. -/
  isDateTime_toISOString : ∀ time : Timestamp,
    isDateTime (toISOString time) = decide ((toISOString time).toList.head? ≠ some '+')

section Settings

/-- `process.env` -/
abbrev ProcessEnv := String → Option String

variable (lib : JudgeLibrary) (environment : ProcessEnv)

/-- A value, or the issue that there is none. -/
def requiredValue (name : String) : Except String String :=
  match (environment name).map trim with
  | none | some "" => .error (name ++ " is required")
  | some value => .ok value

/-- The issue of a required setting. -/
def issueOf (name : String) (check : String → Option String) : List String :=
  match requiredValue environment name with
  | .error issue => [issue]
  | .ok raw => (check raw).toList

def validateHttpUrl (name : String) : List String :=
  issueOf environment name fun raw =>
    if lib.isHttpUrl raw then none else some (name ++ " must be a valid HTTP(S) URL")

def validateAddress (name : String) : List String :=
  issueOf environment name fun raw =>
    match lib.getAddress raw with
    | none => some (name ++ " must be a valid non-zero EVM address")
    | some 0 => some (name ++ " must not be the zero address")
    | some _ => none

def validateOptional (name : String) (check : String → Option String) : List String :=
  match (environment name).map trim with
  | none | some "" => []
  | some raw => (check raw).toList

def validateUnsignedInteger (name : String) : List String :=
  validateOptional environment name fun raw =>
    if (unsigned raw).isSome then none else some (name ++ " must be an unsigned base-10 integer")

def validateBasisPoints (name : String) : List String :=
  validateOptional environment name fun raw =>
    if ((unsigned raw).filter (· ≤ 10000)).isSome then none
    else some (name ++ " must be an integer from 0 to 10000")

def judgeModelIssue (judgeModel : Option String) : List String :=
  if judgeModel.map trim = some "" then ["JUDGE_MODEL must not be empty when configured"] else []

def liveJudgeIssues : List String :=
  validateHttpUrl lib environment "ARC_RPC_URL" ++ validateAddress lib environment "AGENTIC_COMMERCE" ++
    validateAddress lib environment "ROUTER_ADDRESS" ++
    issueOf environment "ORACLE_PK" (fun key =>
      if (hex32 key).isSome ∧ lib.isPrivateKey key then none
      else some "ORACLE_PK must be a valid 32-byte 0x-prefixed private key") ++
    issueOf environment "ANTHROPIC_API_KEY" (fun _ => none) ++
    validateHttpUrl lib environment "REVIEW_SERVICE_INTERNAL_URL" ++
    issueOf environment "REVIEW_INTERNAL_TOKEN" (fun _ => none) ++
    issueOf environment "VAPI_DATA_ROOT" (fun path =>
      if path.toList.head? = some '/' then none else some "VAPI_DATA_ROOT must be an absolute path") ++
    judgeModelIssue (environment "JUDGE_MODEL") ++
    validateUnsignedInteger environment "AUTO_SETTLE_CAP" ++
    validateBasisPoints environment "MIN_CONFIDENCE_BP"

def validateLiveJudgeEnvironment : Except Failure Unit :=
  revertIf (liveJudgeIssues lib environment ≠ [])
    (.error ("Judge configuration invalid: " ++
      "; ".intercalate (liveJudgeIssues lib environment)))

/-- An empty setting is none. -/
def getJudgeModel : String :=
  match environment "JUDGE_MODEL" with
  | none | some "" => "claude-sonnet-5"
  | some model => model

end Settings

section Records

/-- `AIEvidenceV1`; its type and its prompt version are constants. -/
structure AIEvidence where
  jobId : String
  verdict : Verdict
  reasonCode : ReasonCode
  model : String
  deliverableHash : String
  timestamp : String
  deriving DecidableEq

def Verdict.fields (verdict : Verdict) : Fields :=
  [("approve", .bool verdict.approve),
    ("confidenceBP", .number (.ofNat verdict.confidenceBP
      (lt_of_le_of_lt verdict.confidenceBP_le (by norm_num)))),
    ("reasoning", .string verdict.reasoning),
    ("injectionSuspected", .bool verdict.injectionSuspected)]

/-- The fields in the order in which the source writes them. -/
def AIEvidence.fields (record : AIEvidence) : Fields :=
  [("type", .string "ai-v1"),
    ("jobId", .string record.jobId),
    ("verdict", .object record.verdict.fields),
    ("reasonCode", .string record.reasonCode.name),
    ("model", .string record.model),
    ("promptVersion", .string "v1"),
    ("deliverableHash", .string record.deliverableHash),
    ("timestamp", .string record.timestamp)]

def AIEvidence.toJson (record : AIEvidence) : JsonValue := .object record.fields

def reasonCodes : List ReasonCode :=
  [.policyPassed, .humanLaneRequested, .modelOutputInvalid, .injectionSuspected,
    .confidenceBelowThreshold, .budgetAboveCap, .jobExpiredOrNearExpiry, .deliverableMissing,
    .deliverableOversized, .deliverableHashMismatch]

/-- `/^(0|[1-9]\d*)$/` -/
def isJobId (text : String) : Bool :=
  text = "0" || text ≠ "" && text.toList.head? ≠ some '0' && text.toList.all Char.isDigit

variable (lib : JudgeLibrary)

/-- `aiEvidenceV1Schema.safeParse` -/
def aiEvidenceV1Schema : JsonValue → Option AIEvidence
  | .object fields => do
    let fields : Fields := fields
    guard (fields.strict ["type", "jobId", "verdict", "reasonCode", "model", "promptVersion",
      "deliverableHash", "timestamp"])
    guard (fields.string "type" = some "ai-v1")
    let jobId ← (fields.string "jobId").filter isJobId
    let verdict ← (fields.lookup "verdict").bind verdictSchema
    let reasonCode ← (fields.string "reasonCode").bind fun text => reasonCodes.find? (·.name = text)
    let model ← ((fields.string "model").map trim).filter fun text =>
      1 ≤ utf16Length text && utf16Length text ≤ 200
    guard (fields.string "promptVersion" = some "v1")
    let deliverableHash ← (fields.string "deliverableHash").filter fun text => (hex32 text).isSome
    let timestamp ← (fields.string "timestamp").filter lib.isDateTime
    return { jobId, verdict, reasonCode, model, deliverableHash, timestamp }
  | _ => none

def canonicalJson {ν : Type} [Json.NumberText ν] (record : Json.Value ν) : String :=
  Json.stringify 0 (Json.canonicalize record)

def computeEvidenceHash (record : JsonValue) : Hex := lib.keccak256 (canonicalJson record)

def parseAIEvidence (record : JsonValue) : Except Failure AIEvidence :=
  demand (.error "AI evidence does not match its schema") (aiEvidenceV1Schema lib record)

/-- Two texts of one hash differ in the case of their letters only. -/
def verifyAIEvidence (record : JsonValue) (expectedHash : Hex) : Bool :=
  match aiEvidenceV1Schema lib record with
  | none => false
  | some parsed => computeEvidenceHash lib parsed.toJson = expectedHash

def serializeAIEvidence (record : JsonValue) : Except Failure String := do
  let parsed ← parseAIEvidence lib record
  return canonicalJson parsed.toJson

structure WriteEvidenceInput where
  jobId : Nat
  verdict : Verdict
  reasonCode : ReasonCode
  model : String
  deliverableHash : Hex
  timestamp : Option String := none

structure WrittenEvidence where
  record : AIEvidence
  evidenceHash : Hex
  path : String
  file : String

/-- `now` is when the record is built. -/
def writeEvidence (input : WriteEvidenceInput) (now : Timestamp) : WrittenEvidence :=
  let record : AIEvidence := {
    jobId := toString input.jobId
    verdict := input.verdict
    reasonCode := input.reasonCode
    model := input.model
    deliverableHash := hashText input.deliverableHash
    timestamp := input.timestamp.getD (toISOString now) }
  { record
    evidenceHash := computeEvidenceHash lib record.toJson
    path := "evidence/" ++ toString input.jobId ++ ".json"
    file := Json.stringify 2 (Json.canonicalize record.toJson) ++ "\n" }

end Records

section Publication

/-- How a request ends. -/
inductive Fetched where
  | response (status : Nat) (detail : String)
  | failed (message : String)
  deriving DecidableEq, Repr

structure PublishOptions where
  baseUrl : Option String := none
  internalToken : Option String := none
  attempts : Nat := 3
  timeoutMs : Nat := 10000

def requiredSetting (environment : ProcessEnv) (explicit : Option String) (name : String) :
    Except Failure String :=
  match (explicit.map trim).filter (· ≠ "") with
  | some value => .ok value
  | none =>
    demand (.error (name ++ " is required before AI evidence can be published"))
      (((environment name).map trim).filter (· ≠ ""))

def retryableStatus (status : Nat) : Bool := status = 408 || status = 429 || status ≥ 500

/-- The requests of `remaining` attempts. -/
def publishAttempts (evidenceHash : Hex) (attempts : Nat) (fetch : Nat → Fetched) :
    Nat → String → Except Failure Unit
  | 0, lastError =>
    .error (.error ("AI evidence publication failed closed after " ++ toString attempts ++
      " attempts: " ++ lastError))
  | remaining + 1, _ =>
    match fetch (attempts - remaining) with
    | .failed message => publishAttempts evidenceHash attempts fetch remaining message
    | .response status detail =>
      if 200 ≤ status ∧ status < 300 then .ok ()
      else
        let message := "AI evidence service rejected " ++ hashText evidenceHash ++ " with HTTP " ++
          toString status ++ ": " ++ detail
        if retryableStatus status then publishAttempts evidenceHash attempts fetch remaining message
        else .error (.error message)

variable (lib : JudgeLibrary) (environment : ProcessEnv)

/-- `fetch` answers the attempts to post a hash with a parsed record. -/
def publishAIEvidence (record : JsonValue) (evidenceHash : Hex) (options : PublishOptions)
    (fetch : Hex → AIEvidence → Nat → Fetched) : Except Failure Unit := do
  let parsed ← parseAIEvidence lib record
  revertIf (verifyAIEvidence lib parsed.toJson evidenceHash = false)
    (.error "AI evidence does not match its canonical evidence hash")
  let _ ← requiredSetting environment options.baseUrl "REVIEW_SERVICE_INTERNAL_URL"
  let _ ← requiredSetting environment options.internalToken "REVIEW_INTERNAL_TOKEN"
  revertIf (options.attempts < 1 ∨ options.attempts > 10)
    (.error "AI evidence publish attempts must be between 1 and 10")
  revertIf (options.timeoutMs < 1) (.error "AI evidence publish timeout must be positive")
  publishAttempts evidenceHash options.attempts (fetch evidenceHash parsed) options.attempts
    "unknown error"

end Publication

section Store

structure AIEvidenceRow where
  evidenceJson : String
  jobId : String
  deliverableHash : String
  reasonCode : String
  receivedAt : Timestamp
  deriving DecidableEq, Repr

/-- The table `ai_evidence_records`, by its primary key. -/
abbrev AIEvidenceRecords := Hex → Option AIEvidenceRow

structure StoredAIEvidence where
  evidenceHash : Hex
  evidenceJson : String
  evidence : AIEvidence
  receivedAt : Timestamp
  deriving DecidableEq

variable (lib : JudgeLibrary) (records : AIEvidenceRecords)

/-- Hashes are compared by their values, which is without the case of their digits. -/
def getAIEvidence (hash : Hex) : Except Failure (Option StoredAIEvidence) :=
  match records hash with
  | none => .ok none
  | some row => do
    let decoded ← demand (.error "Unexpected token in JSON") (Json.parse row.evidenceJson)
    let evidence ← parseAIEvidence lib decoded
    revertIf (verifyAIEvidence lib evidence.toJson hash = false ∨ evidence.jobId ≠ row.jobId ∨
        hex32 evidence.deliverableHash ≠ hex32 row.deliverableHash ∨
        evidence.reasonCode.name ≠ row.reasonCode)
      (.error "stored AI evidence failed integrity verification")
    return some {
      evidenceHash := hash
      evidenceJson := row.evidenceJson
      evidence
      receivedAt := row.receivedAt }

/-- The stored record and whether it is new. -/
def storeAIEvidence (evidenceHash : Hex) (evidenceInput : JsonValue) (receivedAt : Timestamp) :
    Except Failure ((StoredAIEvidence × Bool) × AIEvidenceRecords) := do
  let evidence ← parseAIEvidence lib evidenceInput
  revertIf (verifyAIEvidence lib evidence.toJson evidenceHash = false)
    (.error "AI evidence does not match its canonical hash")
  revertIf (evidence.reasonCode = .humanLaneRequested)
    (.error "human-only lane provenance is not an AI evidence record")
  let evidenceJson ← serializeAIEvidence lib evidence.toJson
  match ← getAIEvidence lib records evidenceHash with
  | some existing =>
    revertIf (existing.evidenceJson ≠ evidenceJson)
      (.error "AI evidence hash is already bound to another record")
    return ((existing, false), records)
  | none =>
    let row : AIEvidenceRow := {
      evidenceJson
      jobId := evidence.jobId
      deliverableHash := evidence.deliverableHash
      reasonCode := evidence.reasonCode.name
      receivedAt }
    let stored : StoredAIEvidence := { evidenceHash, evidenceJson, evidence, receivedAt }
    return ((stored, true), update records evidenceHash (some row))

end Store

end VapiArc.Judge
