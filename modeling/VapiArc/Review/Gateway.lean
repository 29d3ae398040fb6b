import VapiArc.Review.Evidence
import VapiArc.Review.Purchases

/-!
# The request of a review and its payment header

A job is bought a review with the cause of its escalation and with a signed authorization
of the payment, which its payer and its nonce identify.
-/
namespace VapiArc.Review

open Checked

section Escalation

def humanLaneReason : String := "client requested human review"

inductive ReasonCode where
  | policyPassed
  | humanLaneRequested
  | modelOutputInvalid
  | injectionSuspected
  | confidenceBelowThreshold
  | budgetAboveCap
  | jobExpiredOrNearExpiry
  | deliverableMissing
  | deliverableOversized
  | deliverableHashMismatch
  deriving DecidableEq, Repr

namespace ReasonCode

def name : ReasonCode → String
  | policyPassed => "policy_passed"
  | humanLaneRequested => "human_lane_requested"
  | modelOutputInvalid => "model_output_invalid"
  | injectionSuspected => "injection_suspected"
  | confidenceBelowThreshold => "confidence_below_threshold"
  | budgetAboveCap => "budget_above_cap"
  | jobExpiredOrNearExpiry => "job_expired_or_near_expiry"
  | deliverableMissing => "deliverable_missing"
  | deliverableOversized => "deliverable_oversized"
  | deliverableHashMismatch => "deliverable_hash_mismatch"

/-- `AI_ESCALATION_REASON_LABELS` -/
def label : ReasonCode → Option String
  | policyPassed | humanLaneRequested => none
  | modelOutputInvalid => some "AI output failed schema validation"
  | injectionSuspected => some "AI evaluator detected prompt injection"
  | confidenceBelowThreshold =>
    some "AI confidence fell below the automatic-settlement threshold"
  | budgetAboveCap => some "Escrow budget exceeds the automatic-settlement cap"
  | jobExpiredOrNearExpiry => some "Job is too near expiry for automatic settlement"
  | deliverableMissing => some "Deliverable could not be loaded"
  | deliverableOversized => some "Deliverable exceeds the evaluator size limit"
  | deliverableHashMismatch => some "Deliverable does not match its on-chain commitment"

variable (code : ReasonCode)

def isAIEscalation : Bool := code.label.isSome

def escalationCause : Option String :=
  if code = humanLaneRequested then some humanLaneReason else code.label

end ReasonCode

structure ReviewValidationError where
  message : String
  statusCode : Nat := 422
  code : String := "invalid_review_job"
  permanent : Bool := false
  deriving DecidableEq, Repr

structure AIEvidence where
  jobId : Nat
  deliverableHash : Hex
  reasonCode : ReasonCode
  deriving DecidableEq, Repr

/-- The job with the cause of its escalation, which is looked up under the hash on chain. -/
def verifiedEscalationJob (lib : Library) (getAIEvidence : Hex → Option AIEvidence)
    (job : ValidatedReviewJob) : Except ReviewValidationError ValidatedReviewJob :=
  if job.escalationReasonHash = lib.keccak256 humanLaneReason then
    return { job with
      escalationReasonCode := some ReasonCode.humanLaneRequested.name
      escalationCause := some humanLaneReason }
  else do
    let evidence ← demand
      { message := "verified AI escalation evidence has not reached the review exchange"
        statusCode := 409, code := "ai_evidence_missing" }
      (getAIEvidence job.escalationReasonHash)
    revertIf (evidence.jobId ≠ job.jobId ∨ evidence.deliverableHash ≠ job.deliverableHash ∨
        evidence.reasonCode.isAIEscalation = false)
      { message := "AI escalation evidence does not match the on-chain job"
        statusCode := 409, code := "ai_evidence_mismatch", permanent := true }
    let cause ← demand
      { message := "AI escalation reason is not eligible for human review"
        statusCode := 409, code := "ai_evidence_reason_ineligible", permanent := true }
      evidence.reasonCode.escalationCause
    return { job with
      escalationReasonCode := some evidence.reasonCode.name
      escalationCause := some cause }

theorem ReasonCode.name_truthy (code : ReasonCode) : truthy (some code.name) = true := by
  cases code <;> decide

theorem ReasonCode.escalationCause_truthy {code : ReasonCode} {cause : String}
    (found : code.escalationCause = some cause) : truthy (some cause) = true := by
  cases code <;> cases found <;> decide

/-- A verified job is the same job, with a reason and a cause. -/
theorem verifiedEscalationJob_ok {lib : Library} {getAIEvidence : Hex → Option AIEvidence}
    {job verified : ValidatedReviewJob}
    (done : verifiedEscalationJob lib getAIEvidence job = .ok verified) :
    verified.jobId = job.jobId ∧ truthy verified.escalationReasonCode = true ∧
      truthy verified.escalationCause = true := by
  unfold verifiedEscalationJob at done
  split at done
  next =>
    cases done
    exact ⟨rfl, ReasonCode.name_truthy _, (by decide : truthy (some humanLaneReason) = true)⟩
  next =>
    simp only [bind_ok, demand_ok, revertIf_ok, exists_const, pure_ok] at done
    obtain ⟨evidence, -, -, cause, found, rfl⟩ := done
    exact ⟨rfl, evidence.reasonCode.name_truthy, ReasonCode.escalationCause_truthy found⟩

end Escalation

/-- Code that the gateway takes from elsewhere. -/
structure GatewayLibrary extends Library where
  /-- What a header's base64 text holds, if it is JSON. -/
  decodeHeader : String → Option PaymentJson
  /-- `getAddress` of a text that `isAddress` accepts. -/
  parseAddress : String → Option Address
  isHex : String → Bool
  /-- `GATEWAY_AUTH_VALIDITY_WINDOW_SECONDS` -/
  authValidityWindowSeconds : ℚ

structure ReviewServiceConfig extends TreasuryConfig where
  gatewayNetwork : String
  sellerAddress : Option Address
  usdcTokenAddress : Address

abbrev Fields := List (String × PaymentJson)

def record (value : Option PaymentJson) (label : String) : Except Failure Fields :=
  match value with
  | some (.object fields) => return fields
  | _ => throw (.error s!"{label} must be an object")

def stringField (fields : Fields) (field label : String) : Except Failure String :=
  match fields.lookup field with
  | some (.string candidate) =>
    if blank candidate then throw (.error s!"{label}.{field} must be a non-empty string")
    else return candidate
  | _ => throw (.error s!"{label}.{field} must be a non-empty string")

def isNumber (n : ℚ) : Option PaymentJson → Bool
  | some (.number m) => m = n
  | _ => false

/-- The number that a text of decimal digits stands for. -/
def uintString : Option PaymentJson → Option Nat
  | some (.string text) =>
    if text ≠ "" ∧ text.toList.all Char.isDigit then
      some (text.toList.foldl (fun n c => 10 * n + (c.toNat - '0'.toNat)) 0)
    else none
  | _ => none

/-- The period between two times is not empty. -/
def validPeriod : Option Nat → Option Nat → Bool
  | some validAfter, some validBefore => validAfter < validBefore
  | _, _ => false

/-- `String.prototype.length` -/
def utf16Length (text : String) : Nat := (text.toList.flatMap Json.codeUnits).length

namespace GatewayLibrary

variable (lib : GatewayLibrary) (config : ReviewServiceConfig)

def gatewayAuthorizationKey (payer : Address) (nonce : String) : Hex :=
  lib.keccak256 ((lib.addressText payer).toLower ++ ":" ++ nonce.toLower)

def sameAddress (left : String) (right : Address) : Bool := lib.parseAddress left = some right

/-- The payment that a header authorizes. -/
def signedPayment (paymentSignature : String) : Except Failure GatewayPayment := do
  let seller ← demand (.error "x402 seller address is not configured") config.sellerAddress
  revertIf (32768 < utf16Length paymentSignature)
    (.error "Payment-Signature header is too large")
  let decoded ← demand (.error "Payment-Signature is not valid base64 JSON")
    (lib.decodeHeader paymentSignature)
  let paymentPayload ← record (some decoded) "payment payload"
  revertIf (isNumber 2 (paymentPayload.lookup "x402Version") = false)
    (.error "Payment-Signature must use x402 version 2")
  let requirements ← record (paymentPayload.lookup "accepted") "payment payload.accepted"
  let extra ← record (requirements.lookup "extra") "payment payload.accepted.extra"
  let payload ← record (paymentPayload.lookup "payload") "payment payload.payload"
  let authorization ← record (payload.lookup "authorization")
    "payment payload.payload.authorization"
  let network ← stringField requirements "network" "accepted"
  let scheme ← stringField requirements "scheme" "accepted"
  let asset ← stringField requirements "asset" "accepted"
  let amount ← stringField requirements "amount" "accepted"
  let payTo ← stringField requirements "payTo" "accepted"
  let name ← stringField extra "name" "accepted.extra"
  let version ← stringField extra "version" "accepted.extra"
  let verifyingContract ← stringField extra "verifyingContract" "accepted.extra"
  revertIf (scheme ≠ "exact" ∨ name ≠ "GatewayWalletBatched" ∨ version ≠ "1" ∨
      network ≠ config.gatewayNetwork ∨ amount ≠ toString config.reviewPrice ∨
      lib.sameAddress payTo seller = false ∨
      lib.sameAddress asset config.usdcTokenAddress = false ∨
      lib.parseAddress verifyingContract = none ∨
      isNumber lib.authValidityWindowSeconds (requirements.lookup "maxTimeoutSeconds") = false)
    (.error "Payment-Signature requirements do not match this review quote")
  let payer ← stringField authorization "from" "authorization"
  let recipient ← stringField authorization "to" "authorization"
  let value ← stringField authorization "value" "authorization"
  let nonce ← stringField authorization "nonce" "authorization"
  let signature ← stringField payload "signature" "payment payload"
  let mismatch := .error "Payment-Signature authorization does not match this review quote"
  let payer ← demand mismatch (lib.parseAddress payer)
  revertIf (lib.sameAddress recipient seller = false ∨ value ≠ toString config.reviewPrice ∨
      validPeriod (uintString (authorization.lookup "validAfter"))
        (uintString (authorization.lookup "validBefore")) = false ∨
      lib.isHex nonce = false ∨ utf16Length nonce ≠ 66 ∨
      lib.isHex signature = false ∨ utf16Length signature ≠ 132)
    mismatch
  return {
    signatureHash := lib.keccak256 paymentSignature
    authorizationKey := lib.gatewayAuthorizationKey payer nonce
    paymentPayload := .object paymentPayload
    paymentRequirements := .object requirements
    payer
    nonce }

def parseGatewayPaymentReservation (paymentSignature : Option String) :
    Except Failure (Option GatewayPayment) :=
  match paymentSignature with
  | none => return none
  | some header =>
    if header = "" then return none
    else return some (← lib.signedPayment config header)

end GatewayLibrary

section Headers

@[simp] theorem record_ok {value : Option PaymentJson} {label : String} {fields : Fields} :
    record value label = .ok fields ↔ value = some (.object fields) := by
  unfold record
  split
  next => simp
  next other =>
    simp only [reduceCtorEq, false_iff]
    exact other fields

theorem stringField_ok {fields : Fields} {field label text : String}
    (done : stringField fields field label = .ok text) : fields.lookup field = some (.string text) := by
  unfold stringField at done
  split at done
  next candidate found =>
    split at done
    next => cases done
    next =>
      cases done
      exact found
  next => cases done

namespace GatewayLibrary

variable {lib : GatewayLibrary} {config config' : ReviewServiceConfig} {header : String}
  {payment payment' : GatewayPayment}

/-- A header's payment is made up of what the header decodes to. -/
theorem signedPayment_ok (done : lib.signedPayment config header = .ok payment) :
    ∃ paymentPayload requirements payload authorization address payer nonce,
      lib.decodeHeader header = some (.object paymentPayload) ∧
      paymentPayload.lookup "accepted" = some (.object requirements) ∧
      paymentPayload.lookup "payload" = some (.object payload) ∧
      payload.lookup "authorization" = some (.object authorization) ∧
      authorization.lookup "from" = some (.string address) ∧
      lib.parseAddress address = some payer ∧
      authorization.lookup "nonce" = some (.string nonce) ∧
      payment =
        { signatureHash := lib.keccak256 header
          authorizationKey := lib.gatewayAuthorizationKey payer nonce
          paymentPayload := .object paymentPayload
          paymentRequirements := .object requirements
          payer
          nonce } := by
  simp only [signedPayment, bind_ok, demand_ok, revertIf_ok, exists_const, record_ok,
    pure_ok] at done
  obtain ⟨seller, -, -, decoded, holds, paymentPayload, object, -, requirements, accepted, extra, -,
    payload, given, authorization, signed, done⟩ := done
  obtain ⟨network, -, scheme, -, asset, -, amount, -, payTo, -, name, -, version, -, contract, -, -,
    address, sender, recipient, -, value, -, nonce, once, signature, -, payer, parsed, -, rfl⟩ := done
  cases object
  exact ⟨paymentPayload, requirements, payload, authorization, address, payer, nonce, holds, accepted,
    given, signed, stringField_ok sender, parsed, stringField_ok once, rfl⟩

/-- The payment does not depend on the quote that the header was checked against. -/
theorem signedPayment_unique (done : lib.signedPayment config header = .ok payment)
    (done' : lib.signedPayment config' header = .ok payment') : payment = payment' := by
  obtain ⟨fields, requirements, payload, authorization, address, payer, nonce, holds, accepted, given,
    signed, sender, parsed, once, rfl⟩ := signedPayment_ok done
  obtain ⟨fields', requirements', payload', authorization', address', payer', nonce', holds',
    accepted', given', signed', sender', parsed', once', rfl⟩ := signedPayment_ok done'
  cases holds.symm.trans holds'
  cases accepted.symm.trans accepted'
  cases given.symm.trans given'
  cases signed.symm.trans signed'
  cases sender.symm.trans sender'
  cases parsed.symm.trans parsed'
  cases once.symm.trans once'
  rfl

theorem signedPayment_signatureHash (done : lib.signedPayment config header = .ok payment) :
    payment.signatureHash = lib.keccak256 header := by
  obtain ⟨_, _, _, _, _, _, _, _, _, _, _, _, _, _, rfl⟩ := signedPayment_ok done
  rfl

theorem signedPayment_authorizationKey (done : lib.signedPayment config header = .ok payment) :
    payment.authorizationKey = lib.gatewayAuthorizationKey payment.payer payment.nonce := by
  obtain ⟨_, _, _, _, _, _, _, _, _, _, _, _, _, _, rfl⟩ := signedPayment_ok done
  rfl

end GatewayLibrary

end Headers

/-- A request after its prevalidation: the chain has the job, and the job has its cause. -/
structure ReviewRequest (lib : Library) where
  requestId : String
  jobId : Nat
  content : String
  paymentSignature : Option String
  getAIEvidence : Hex → Option AIEvidence
  chainJob : ValidatedReviewJob
  job : ValidatedReviewJob
  own : chainJob.jobId = jobId
  verified : verifiedEscalationJob lib getAIEvidence chainJob = .ok job

/-- What a call of `acquireReviewReservation` reads and generates. -/
structure Reads where
  sweptAt : Timestamp
  timestamp : Timestamp
  checkedAt : Timestamp
  leasedAt : Timestamp
  randomUUID : Token

def reserveReviewOrder (lib : GatewayLibrary) (config : ReviewServiceConfig)
    (request : ReviewRequest lib.toLibrary) (reads : Reads) : Except Failure Purchasing := do
  let gatewayPayment ← lib.parseGatewayPaymentReservation config request.paymentSignature
  return {
    requestId := request.requestId
    jobId := request.jobId
    intent := some
      { requestId := some request.requestId
        jobId := some request.jobId
        content := some request.content
        validatedJob := some request.job }
    gatewayPayment
    quote := ⟨config.reviewPrice, config.reviewerReward, config.gatewayNetwork⟩
    sweptAt := reads.sweptAt
    timestamp := reads.timestamp
    checkedAt := reads.checkedAt
    leasedAt := reads.leasedAt
    randomUUID := reads.randomUUID }

end VapiArc.Review
