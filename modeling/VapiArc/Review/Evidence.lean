import VapiArc.Lib.Json
import VapiArc.Review.Orders

/-! # Human evidence: its record, its hash and its stored text -/
namespace VapiArc.Review

open Checked

/-- Code that the service takes from elsewhere. -/
structure Library where
  /-- The hash of a text's UTF-8 bytes. -/
  keccak256 : String → Hex
  /-- The checksummed text of an address. -/
  addressText : Address → String

instance : Json.NumberText Nat where
  text n := (toString n).toList
  digit := Char.isDigit
  read digits := (String.ofList digits).toNat?

abbrev JsonValue := Json.Value Nat

section Text

def padded (width n : Nat) : String :=
  let digits := toString n
  String.ofList (List.replicate (width - digits.length) '0') ++ digits

/-- `Date.prototype.toISOString`, with the civil date of a number of days. -/
def toISOString (time : Timestamp) : String :=
  let days := time / 86400000 + 719468
  let dayOfEra := days % 146097
  let yearOfEra := (dayOfEra - dayOfEra / 1460 + dayOfEra / 36524 - dayOfEra / 146096) / 365
  let dayOfYear := dayOfEra - (365 * yearOfEra + yearOfEra / 4 - yearOfEra / 100)
  let shifted := (5 * dayOfYear + 2) / 153
  let day := dayOfYear - (153 * shifted + 2) / 5 + 1
  let month := if shifted < 10 then shifted + 3 else shifted - 9
  let year := yearOfEra + days / 146097 * 400 + if month ≤ 2 then 1 else 0
  let ms := time % 86400000
  (if year ≤ 9999 then padded 4 year else "+" ++ padded 6 year) ++ "-" ++ padded 2 month ++ "-" ++
    padded 2 day ++ "T" ++ padded 2 (ms / 3600000) ++ ":" ++ padded 2 (ms / 60000 % 60) ++ ":" ++
    padded 2 (ms / 1000 % 60) ++ "." ++ padded 3 (ms % 1000) ++ "Z"

/-- The text of a 32-byte hash. -/
def hashText (hash : Hex) : String :=
  let digits := Nat.toDigits 16 hash
  "0x" ++ String.ofList (List.replicate (64 - digits.length) '0' ++ digits)

def ReviewDecision.text : ReviewDecision → String
  | .approve => "approve"
  | .reject => "reject"

end Text

/-- `HumanEvidenceV1`; the payment's fields are those of its `x402` object. -/
structure HumanEvidence where
  jobId : Nat
  deliverableHash : Hex
  reviewer : Address
  telegramIdentityHash : Hex
  decision : ReviewDecision
  reasoning : String
  escalationCause : String
  escalationReasonHash : Hex
  payer : Address
  amount : Nat
  network : String
  transaction : Option String
  reward : Nat
  payoutTransactionHash : Hex
  verdictAt : Timestamp
  payoutConfirmedAt : Timestamp
  deriving DecidableEq, Repr

/-- `now` stands in for a missing confirmation time. -/
def createHumanEvidence (order : ReviewOrder) (reviewer : ReviewerSnapshot)
    (payoutTransactionHash : Hex) (payoutConfirmedAt : Option Timestamp) (now : Timestamp) :
    Except Failure HumanEvidence := do
  let incomplete := .error "a complete verdict is required before creating evidence"
  let decision ← demand incomplete order.decision
  let reasoning ← demand incomplete order.reasoning
  revertIf (reasoning = "") incomplete
  let verdictAt ← demand incomplete order.verdictAt
  let unverified :=
    .error "verified escalation provenance is required before creating evidence"
  let escalationCause ← demand unverified order.purchase.escalationCause
  revertIf (escalationCause = "") unverified
  return {
    jobId := order.purchase.jobId
    deliverableHash := order.purchase.deliverableHash
    reviewer := reviewer.payoutAddress
    telegramIdentityHash := reviewer.telegramIdentityHash
    decision, reasoning, escalationCause
    escalationReasonHash := order.purchase.escalationReasonHash
    payer := order.purchase.payer
    amount := order.purchase.reviewPrice
    network := order.purchase.network
    transaction := order.purchase.gatewayTransaction
    reward := order.purchase.reward
    payoutTransactionHash, verdictAt
    payoutConfirmedAt := payoutConfirmedAt.getD now }

namespace HumanEvidence

variable (lib : Library) (evidence : HumanEvidence)

/-- The record as a JSON value, in the order in which the source writes its fields. -/
def toJson : JsonValue :=
  .object [
    ("type", .string "human-v1"),
    ("jobId", .string (toString evidence.jobId)),
    ("deliverableHash", .string (hashText evidence.deliverableHash)),
    ("reviewer", .string (lib.addressText evidence.reviewer)),
    ("telegramIdentityHash", .string (hashText evidence.telegramIdentityHash)),
    ("decision", .string evidence.decision.text),
    ("reasoning", .string evidence.reasoning),
    ("escalationCause", .string evidence.escalationCause),
    ("escalationReasonHash", .string (hashText evidence.escalationReasonHash)),
    ("x402", .object [
      ("payer", .string (lib.addressText evidence.payer)),
      ("amount", .string (toString evidence.amount)),
      ("network", .string evidence.network),
      ("transaction", match evidence.transaction with
        | some transaction => .string transaction
        | none => .null)]),
    ("reward", .string (toString evidence.reward)),
    ("payoutTransactionHash", .string (hashText evidence.payoutTransactionHash)),
    ("verdictAt", .string (toISOString evidence.verdictAt)),
    ("payoutConfirmedAt", .string (toISOString evidence.payoutConfirmedAt))]

end HumanEvidence

section Hashing

variable (lib : Library)

def canonicalJson (record : JsonValue) : String := Json.stringify 0 (Json.canonicalize record)

def computeEvidenceHash (record : JsonValue) : Hex := lib.keccak256 (canonicalJson record)

def humanEvidenceHash (evidence : HumanEvidence) : Hex :=
  computeEvidenceHash lib (evidence.toJson lib)

def serializeHumanEvidence (evidence : HumanEvidence) : String :=
  Json.stringify 2 (Json.canonicalize (evidence.toJson lib))

/-- Two texts of one hash differ in the case of their letters only. -/
def verifyHumanEvidence (record : JsonValue) (expected : Hex) : Bool :=
  lib.keccak256 (canonicalJson record) = expected

end Hashing

end VapiArc.Review
