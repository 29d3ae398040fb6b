import VapiArc.Lib.Number
import VapiArc.Review.Chain

/-!
# Deliverables and the gates of automatic settlement

What the model says of a deliverable is a JSON value that nothing has checked. A decision
settles a job only if the value is a verdict that passes every gate.
-/
namespace VapiArc.Judge

open Checked
open Review (Hex Failure Library RawJob ReasonCode utf16Length)

abbrev JsonValue := Json.Value Json.Binary64

/-- The fields of a JSON object. -/
abbrev Fields := List (String × JsonValue)

namespace Fields

variable (fields : Fields) (key : String)

/-- `z.object({ ... }).strict()` accepts no other keys. -/
def strict (keys : List String) : Prop := ∀ field ∈ fields, field.1 ∈ keys

instance (keys : List String) : Decidable (fields.strict keys) :=
  inferInstanceAs (Decidable (∀ field ∈ fields, field.1 ∈ keys))

def string : Option String :=
  match fields.lookup key with
  | some (.string text) => some text
  | _ => none

def number : Option Json.Binary64 :=
  match fields.lookup key with
  | some (.number n) => some n
  | _ => none

def bool : Option Bool :=
  match fields.lookup key with
  | some (.bool b) => some b
  | _ => none

end Fields

/-- `MAX_DELIVERABLE_BYTES` -/
def maxDeliverableBytes : Nat := 32 * 1024

inductive DeliverableStatus where
  | ok
  | missing
  | oversized
  | hashMismatch
  deriving DecidableEq, Repr

structure DeliverableInspection where
  status : DeliverableStatus
  content : Option String := none
  byteLength : Nat
  computedHash : Option Hex := none
  onChainHash : Option Hex
  detail : Option String := none
  deriving DecidableEq, Repr

section Deliverables

variable (lib : Library)

def computeDeliverableHash (content : String) : Hex := lib.keccak256 content

def verifyDeliverableHash (content : String) (expectedHash : Option Hex) : Bool :=
  match expectedHash with
  | none => true
  | some expectedHash => computeDeliverableHash lib content = expectedHash

/-- `/^0x[0-9a-fA-F]{64}$/`, with the value of the digits. -/
def hex32 (text : String) : Option Hex :=
  match text.toList with
  | '0' :: 'x' :: digits =>
    if digits.length = 64 then
      (digits.mapM Json.hexValue).map (·.foldl (fun value digit => value * 16 + digit) 0)
    else none
  | _ => none

structure DeliverableFile where
  content : String
  contentHash : Option Hex
  deriving DecidableEq, Repr

/-- `deliverableFileSchema.safeParse` -/
def deliverableFile : JsonValue → Option DeliverableFile
  | .object fields => do
    let fields : Fields := fields
    guard (fields.strict ["content", "contentHash"])
    let content ← fields.string "content"
    match fields.lookup "contentHash" with
    | none => return ⟨content, none⟩
    | some (.string text) =>
      let contentHash ← hex32 text
      return ⟨content, some contentHash⟩
    | some _ => none
  | _ => none

/-- `file` is what reading the file ends with: no text when there is no file. -/
def loadDeliverable (file : Except Failure (Option String)) (onChainHash : Option Hex) :
    Except Failure DeliverableInspection := do
  let missing (detail : String) : DeliverableInspection := {
    status := .missing
    byteLength := 0
    onChainHash
    detail := some detail }
  match ← file with
  | none => return missing "deliverable file not found"
  | some raw =>
  match (Json.parse raw : Option JsonValue) with
  | none => return missing "deliverable file contains invalid JSON"
  | some decoded =>
  match deliverableFile decoded with
  | none => return missing "deliverable file is invalid"
  | some { content, contentHash } =>
  let byteLength := content.utf8ByteSize
  let inspection (status : DeliverableStatus) (detail : Option String) : DeliverableInspection := {
    status
    content := some content
    byteLength
    computedHash := some (computeDeliverableHash lib content)
    onChainHash
    detail }
  if byteLength > maxDeliverableBytes then
    return inspection .oversized (some "deliverable exceeds 32768 bytes")
  if !verifyDeliverableHash lib content contentHash || !verifyDeliverableHash lib content onChainHash then
    return inspection .hashMismatch
      (some "content hash does not match its declared or on-chain commitment")
  return inspection .ok none

end Deliverables

/-- A verdict within the bounds of its schema. -/
structure Verdict where
  approve : Bool
  confidenceBP : Nat
  reasoning : String
  injectionSuspected : Bool
  confidenceBP_le : confidenceBP ≤ 10000
  reasoning_le : utf16Length reasoning ≤ 1200
  deriving DecidableEq

/-- `z.number().int().min(0).max(10_000)` -/
def basisPoints (n : Json.Binary64) : Option { n : Nat // n ≤ 10000 } :=
  if h : n.value.den = 1 ∧ 0 ≤ n.value ∧ n.value.num.toNat ≤ 10000 then
    some ⟨n.value.num.toNat, h.2.2⟩
  else none

/-- `verdictSchema.safeParse` -/
def verdictSchema : JsonValue → Option Verdict
  | .object fields => do
    let fields : Fields := fields
    guard (fields.strict ["approve", "confidenceBP", "reasoning", "injectionSuspected"])
    let approve ← fields.bool "approve"
    let confidenceBP ← (fields.number "confidenceBP").bind basisPoints
    let reasoning ← fields.string "reasoning"
    let injectionSuspected ← fields.bool "injectionSuspected"
    if reasoning_le : utf16Length reasoning ≤ 1200 then
      return {
        approve, confidenceBP := confidenceBP.1, reasoning, injectionSuspected
        confidenceBP_le := confidenceBP.2
        reasoning_le }
    else none
  | _ => none

inductive GateAction where
  | settle
  | escalate
  deriving DecidableEq, Repr

structure GateResult where
  action : GateAction
  reasonCode : ReasonCode
  verdict : Verdict
  deriving DecidableEq

/-- The settings that the process was started with, and its clock in milliseconds. -/
structure Environment where
  minConfidenceBP : Option String := none
  autoSettleCap : Option String := none
  now : Nat

structure ValidateInput where
  rawVerdict : JsonValue
  job : RawJob
  deliverable : DeliverableInspection
  nowSeconds : Option ℤ := none
  minConfidenceBP : Option Nat := none
  autoSettleCap : Option Nat := none

section Settings

/-- `/^\d+$/`, with the value of the digits. -/
def unsigned (raw : String) : Option Nat :=
  if raw ≠ "" ∧ ∀ c ∈ raw.toList, c.isDigit = true then
    some (Nat.ofDigitChars 10 raw.toList 0)
  else none

/-- An empty setting is none. -/
def envUnsignedBigInt (name : String) (fallback : Nat) (raw : Option String) : Except Failure Nat :=
  match raw.filter (· ≠ "") with
  | none => .ok fallback
  | some raw => demand (.error (name ++ " must be an unsigned base-10 integer")) (unsigned raw)

def envBasisPoints (name : String) (fallback : Nat) (raw : Option String) : Except Failure Nat :=
  match raw.filter (· ≠ "") with
  | none => .ok fallback
  | some raw =>
    demand (.error (name ++ " must be an integer from 0 to 10000"))
      ((unsigned raw).filter (· ≤ 10000))

variable (input : ValidateInput) (env : Environment)

def ValidateInput.minConfidence : Except Failure Nat :=
  match input.minConfidenceBP with
  | some minConfidenceBP => .ok minConfidenceBP
  | none => envBasisPoints "MIN_CONFIDENCE_BP" 8000 env.minConfidenceBP

def ValidateInput.settleCap : Except Failure Nat :=
  match input.autoSettleCap with
  | some autoSettleCap => .ok autoSettleCap
  | none => envUnsignedBigInt "AUTO_SETTLE_CAP" 100000000 env.autoSettleCap

def ValidateInput.seconds : ℤ := input.nowSeconds.getD (env.now / 1000 : Nat)

end Settings

def invalidVerdict : Verdict where
  approve := false
  confidenceBP := 0
  reasoning := "model output failed deterministic schema validation"
  injectionSuspected := false
  confidenceBP_le := by decide
  reasoning_le := by decide

def validateDecision (env : Environment) (input : ValidateInput) : Except Failure GateResult :=
  match verdictSchema input.rawVerdict with
  | none => .ok ⟨.escalate, .modelOutputInvalid, invalidVerdict⟩
  | some verdict =>
    match input.deliverable.status with
    | .missing => .ok ⟨.escalate, .deliverableMissing, verdict⟩
    | .oversized => .ok ⟨.escalate, .deliverableOversized, verdict⟩
    | .hashMismatch => .ok ⟨.escalate, .deliverableHashMismatch, verdict⟩
    | .ok => do
      if verdict.injectionSuspected then return ⟨.escalate, .injectionSuspected, verdict⟩
      let minConfidenceBP ← input.minConfidence env
      if verdict.confidenceBP < minConfidenceBP then
        return ⟨.escalate, .confidenceBelowThreshold, verdict⟩
      let autoSettleCap ← input.settleCap env
      if input.job.budget > autoSettleCap then return ⟨.escalate, .budgetAboveCap, verdict⟩
      if input.job.expiredAt ≤ input.seconds env + 60 then
        return ⟨.escalate, .jobExpiredOrNearExpiry, verdict⟩
      return ⟨.settle, .policyPassed, verdict⟩

end VapiArc.Judge
