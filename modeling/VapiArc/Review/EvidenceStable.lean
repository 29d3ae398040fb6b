import VapiArc.Lib.JsonRoundTrip
import VapiArc.Review.CircleOnce

/-!
# Human evidence does not change

Every resolution is requested with one hash, that of the evidence that is stored; and the
stored text, read back, has this hash.
-/
namespace VapiArc.Review

open Checked Function Async Transition

instance : Json.LawfulNumberText Nat where
  ne_nil n := by
    intro nothing
    have digits : Nat.toDigits 10 n ≠ [] := by simp
    exact digits (by simpa only [Json.NumberText.text, Nat.toString_eq_repr, Nat.toList_repr] using nothing)
  digits n c member := by
    simp only [Json.NumberText.text, Nat.toString_eq_repr, Nat.toList_repr] at member
    exact Nat.isDigit_of_mem_toDigits (by decide) (by decide) member
  read_text n := by
    simp only [Json.NumberText.text, Json.NumberText.read, String.ofList_toList]
    exact Nat.toNat?_repr n
  apart c digit := by
    simp only [Json.NumberText.digit] at digit
    simp only [List.mem_cons, List.not_mem_nil, or_false, not_or]
    refine ⟨?_, ?_, ?_, ?_, ?_, ?_, ?_, ?_, ?_, ?_, ?_, ?_, ?_⟩
    all_goals
      rintro rfl
      cases digit

namespace HumanEvidence

variable (lib : Library) (evidence : HumanEvidence)

theorem distinct_toJson : Json.Distinct (evidence.toJson lib) := by
  unfold toJson
  cases evidence.transaction <;> simp [Json.Distinct, Json.DistinctFields]

/-- The stored text of a record, read back, has the record's hash. -/
theorem verified : ∃ record, Json.parse (serializeHumanEvidence lib evidence) = some record ∧
    verifyHumanEvidence lib record (humanEvidenceHash lib evidence) = true := by
  obtain ⟨read, canonical⟩ := Json.parse_canonical 2 (evidence.distinct_toJson lib)
  refine ⟨_, read, ?_⟩
  simp only [verifyHumanEvidence, humanEvidenceHash, computeEvidenceHash, canonicalJson, canonical,
    decide_true]

end HumanEvidence

/-- The evidence hash that a router call carries. -/
def Payload.evidenceHash : Payload → Option Hex
  | .humanResolve _ _ _ _ evidenceHash _ => some evidenceHash
  | .transfer .. => none

namespace ReviewOrder

variable {lib : Library} {order : ReviewOrder}

/-- A router call carries the hash of the order's evidence. -/
theorem Asks.evidenceHash {operation : CircleOperation} {payload : Payload} {hash : Hex}
    (asks : order.Asks lib operation payload) (carried : payload.evidenceHash = some hash) :
    ∃ evidence, order.EvidenceIs evidence ∧ hash = humanEvidenceHash lib evidence := by
  cases operation with
  | payout =>
    obtain ⟨address, -, rfl⟩ := asks
    cases carried
  | refund =>
    cases asks
    cases carried
  | resolution =>
    obtain ⟨evidence, reviewer, decision, transactionHash, is, -, -, -, rfl⟩ := asks
    cases carried
    exact ⟨evidence, is, rfl⟩

end ReviewOrder

/-- There is one evidence hash, which is the stored one if there is any. -/
theorem Phases.one_hash {lib : Library} {s : Store} (phases : Phases lib s) : ∃ evidenceHash,
    (∀ r ∈ s.requested, ∀ hash, r.payload.evidenceHash = some hash → hash = evidenceHash) ∧
      ∀ hash, s.db.order.evidenceHash = some hash → hash = evidenceHash := by
  by_cases exists_ : ∃ evidence, s.db.order.EvidenceIs evidence
  · obtain ⟨evidence, is⟩ := exists_
    refine ⟨humanEvidenceHash lib evidence, fun r member hash carried => ?_, fun hash stored => ?_⟩
    · obtain ⟨evidence', is', rfl⟩ := (phases.requests r member).evidenceHash carried
      rw [is.unique is']
    · rcases phases.evidence with ⟨nothing, -⟩ | ⟨evidence', is', written, -⟩
      · rw [nothing] at stored
        cases stored
      · rw [is.unique is']
        exact (Option.some.inj (written.symm.trans stored)).symm
  · refine ⟨0, fun r member hash carried => ?_, fun hash stored => ?_⟩
    · obtain ⟨evidence, is, -⟩ := (phases.requests r member).evidenceHash carried
      exact absurd ⟨evidence, is⟩ exists_
    · rcases phases.evidence with ⟨nothing, -⟩ | ⟨evidence, is, -⟩
      · rw [nothing] at stored
        cases stored
      · exact absurd ⟨evidence, is⟩ exists_

section Claim

variable (circle : Circle) (d : Dependencies)

/-- Whatever fails and is tried again: all resolutions that are ever requested carry one
evidence hash, a settled order stores it, and a stored text of evidence, read back, has the
hash that is stored beside it. -/
theorem evidence_stable {opening : Opening} {history : List (ServiceState × ServiceEvent)}
    {v : ServiceState} (run : ServiceRun circle d opening history v) :
    let order := v.store.db.order
    (∃ evidenceHash,
      (∀ r ∈ v.store.requested, ∀ hash, r.payload.evidenceHash = some hash →
        hash = evidenceHash) ∧
      (order.state = .settled → order.evidenceHash = some evidenceHash ∧
        order.evidenceJson ≠ none)) ∧
    ∀ evidenceJson, order.evidenceJson = some evidenceJson → ∃ evidenceHash record,
      order.evidenceHash = some evidenceHash ∧ Json.parse evidenceJson = some record ∧
        verifyHumanEvidence d.library record evidenceHash = true := by
  intro order
  obtain ⟨⟨-, phases⟩, -⟩ := service_good run
  obtain ⟨evidenceHash, requested, stored⟩ := phases.one_hash
  refine ⟨⟨evidenceHash, requested, fun settled => ?_⟩, fun evidenceJson written => ?_⟩
  · have phase : order.state.phase = .settled := by rw [settled]; rfl
    obtain ⟨-, hashed⟩ := phases.settled phase
    rcases phases.evidence with ⟨nothing, -⟩ | ⟨evidence, -, hash, json⟩
    · exact absurd nothing hashed
    · refine ⟨?_, by rw [json]; simp⟩
      rw [hash, stored _ hash]
  · rcases phases.evidence with ⟨-, nothing⟩ | ⟨evidence, -, hash, json⟩
    · rw [nothing] at written
      cases written
    · obtain ⟨record, read, verified⟩ := evidence.verified d.library
      cases json.symm.trans written
      exact ⟨_, record, hash, read, verified⟩

/-- The evidence of the settled walkthrough. -/
theorem evidence_stable_walkthrough : Walkthrough.settled.store.db.order.evidenceHash = some 77 ∧
    ∀ r ∈ Walkthrough.settled.store.requested, ∀ hash,
      r.payload.evidenceHash = some hash → hash = 77 := by
  have run := Walkthrough.retried_run.trans Walkthrough.settled_run
  have settled : Walkthrough.settled.store.db.order.state = .settled := by decide +kernel
  have stored : Walkthrough.settled.store.db.order.evidenceHash = some 77 := by decide +kernel
  obtain ⟨⟨evidenceHash, same, kept⟩, -⟩ :=
    evidence_stable Walkthrough.circle Walkthrough.dependencies run
  cases (kept settled).1.symm.trans stored
  exact ⟨stored, same⟩

end Claim

end VapiArc.Review
