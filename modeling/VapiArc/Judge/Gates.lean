import VapiArc.Judge.Validate
import VapiArc.Router.Specs

/-!
# The gates of the worker and the router's

What the worker settles passes the gates of `submitAIVerdict` that depend on the verdict, the
job and the time, in every block up to a minute after the worker's clock.
-/
namespace VapiArc.Judge

open Checked
open Review (Hex Failure Library RawJob ReasonCode)
open Escrow (Address Bytes32 Uint16 Uint256 Msg)

section Worker

variable {lib : Library} {file : Except Failure (Option String)} {onChainHash : Option Hex}
  {inspection : DeliverableInspection}

/-- A deliverable that is in order is small enough, and hashes to its commitment. -/
theorem loadDeliverable_ok (loaded : loadDeliverable lib file onChainHash = .ok inspection)
    (status : inspection.status = .ok) :
    ∃ content, inspection.content = some content ∧ content.utf8ByteSize ≤ maxDeliverableBytes ∧
      ∀ hash ∈ onChainHash, computeDeliverableHash lib content = hash := by
  simp only [loadDeliverable, bind_ok] at loaded
  obtain ⟨text, -, loaded⟩ := loaded
  split at loaded
  next =>
    cases loaded
    cases status
  split at loaded
  next =>
    cases loaded
    cases status
  split at loaded
  next =>
    cases loaded
    cases status
  next content contentHash _ =>
    split at loaded
    next =>
      cases loaded
      cases status
    next small =>
      split at loaded
      next =>
        cases loaded
        cases status
      next agrees =>
        cases loaded
        refine ⟨content, rfl, not_lt.mp small, fun hash committed => ?_⟩
        cases committed
        simp only [Bool.or_eq_true, Bool.not_eq_true', not_or, Bool.not_eq_false] at agrees
        exact of_decide_eq_true agrees.2

/-- What a decision that settles has passed. -/
structure Passes (env : Environment) (input : ValidateInput) (verdict : Verdict) : Prop where
  deliverable : input.deliverable.status = .ok
  injection : verdict.injectionSuspected = false
  confidence : ∀ minimum, input.minConfidence env = .ok minimum → minimum ≤ verdict.confidenceBP
  budget : ∀ cap, input.settleCap env = .ok cap → input.job.budget ≤ cap
  expiry : input.seconds env + 60 < input.job.expiredAt

variable {env : Environment} {input : ValidateInput} {decision : GateResult}

theorem validateDecision_cases (decided : validateDecision env input = .ok decision) :
    decision.action = .settle ∧ decision.reasonCode = .policyPassed ∧
        Passes env input decision.verdict ∨
      decision.action = .escalate ∧ decision.reasonCode.isAIEscalation = true := by
  -- each gate that closes escalates, and only the last branch settles
  unfold validateDecision at decided
  split at decided
  next =>
    cases decided
    exact .inr ⟨rfl, rfl⟩
  next verdict _ =>
    split at decided
    next =>
      cases decided
      exact .inr ⟨rfl, rfl⟩
    next =>
      cases decided
      exact .inr ⟨rfl, rfl⟩
    next =>
      cases decided
      exact .inr ⟨rfl, rfl⟩
    next deliverable =>
      split at decided
      next =>
        cases decided
        exact .inr ⟨rfl, rfl⟩
      next injection =>
        obtain ⟨minimum, given, decided⟩ := (bind_ok _ _ _).mp decided
        split at decided
        next =>
          cases decided
          exact .inr ⟨rfl, rfl⟩
        next confident =>
          obtain ⟨cap, capped, decided⟩ := (bind_ok _ _ _).mp decided
          split at decided
          next =>
            cases decided
            exact .inr ⟨rfl, rfl⟩
          next affordable =>
            split at decided
            next =>
              cases decided
              exact .inr ⟨rfl, rfl⟩
            next early =>
              cases decided
              refine .inl ⟨rfl, rfl, deliverable, Bool.eq_false_iff.mpr injection, fun _ same => ?_,
                fun _ same => ?_, not_le.mp early⟩
              · cases given.symm.trans same
                exact not_lt.mp confident
              · cases capped.symm.trans same
                exact not_lt.mp affordable

end Worker

/-- The refusals of the gates for the confidence, the budget and the expiry. -/
def isGateError : Router.Error → Bool
  | .belowConfidence _ _ | .aboveAutoCap _ _ _ | .jobExpired _ => true
  | _ => false

section Router

variable {here : Address} {msg : Msg} {answers : Router.Answers} {w : Router.World}
  {jobId : Uint256} {approve : Bool} {confidenceBP : Uint16} {evidenceHash : Bytes32}
  {job : Router.Job}

theorem checkedJob_error {error : Router.Error}
    (refused : Router.checkedJob here answers jobId = .error error) :
    error = .failedCall ∨ error = .notEvaluator jobId ∨
      ∃ status, error = .wrongStatus jobId status := by
  simp only [Router.checkedJob, bind_error, revertIf_error, demand_error] at refused
  rcases refused with ⟨-, rfl⟩ | ⟨raw, -, ⟨-, rfl⟩ | ⟨_, -, ⟨-, rfl⟩ | ⟨_, -, impossible⟩⟩⟩
  · exact .inl rfl
  · exact .inr (.inl rfl)
  · exact .inr (.inr ⟨raw.status, rfl⟩)
  · cases impossible

/-- A call that is past these gates is refused by another one only. -/
theorem submitAIVerdict_error {error : Router.Error} (answered : answers.getJob = some job)
    (confident : w.router.minConfidenceBP ≤ confidenceBP)
    (affordable : job.budget ≤ w.router.autoSettleCap) (early : msg.timestamp < job.expiredAt.val)
    (refused : Router.submitAIVerdict here msg answers w jobId approve confidenceBP evidenceHash =
      .error error) :
    isGateError error = false := by
  simp only [Router.submitAIVerdict, Router.onlyOracle, bind_error, revertIf_error] at refused
  rcases refused with ⟨-, rfl⟩ | ⟨_, -, ⟨-, rfl⟩ | ⟨_, -, ⟨-, rfl⟩ | ⟨_, -, ⟨low, rfl⟩ |
    ⟨_, -, unchecked | ⟨raw, checked, ⟨costly, rfl⟩ | ⟨_, -, ⟨late, rfl⟩ | ⟨_, -, impossible⟩⟩⟩⟩⟩⟩⟩
  · rfl
  · rfl
  · rfl
  · exact absurd low (not_lt.mpr confident)
  · rcases checkedJob_error unchecked with rfl | rfl | ⟨status, rfl⟩
    · rfl
    · rfl
    · rfl
  · obtain ⟨same, -, -⟩ := (Router.checkedJob_ok _).mp checked
    cases answered.symm.trans same
    exact absurd costly (not_lt.mpr affordable)
  · obtain ⟨same, -, -⟩ := (Router.checkedJob_ok _).mp checked
    cases answered.symm.trans same
    exact absurd late (not_le.mpr early)
  · cases impossible

/-- A verdict that the worker settles is submitted by the same numbers. -/
structure Submits (env : Environment) (input : ValidateInput) (verdict : Verdict)
    (msg : Msg) (answers : Router.Answers) (w : Router.World) (confidenceBP : Uint16)
    (job : Router.Job) : Prop where
  minConfidence : input.minConfidence env = .ok w.router.minConfidenceBP.val
  settleCap : input.settleCap env = .ok w.router.autoSettleCap.val
  confidence : confidenceBP.val = verdict.confidenceBP
  answered : answers.getJob = some job
  budget : job.budget.val = input.job.budget
  expiredAt : job.expiredAt.val = input.job.expiredAt
  time : (msg.timestamp : ℤ) ≤ input.seconds env + 60

variable {env : Environment} {input : ValidateInput} {verdict : Verdict}

theorem Submits.gates (submits : Submits env input verdict msg answers w confidenceBP job)
    (passes : Passes env input verdict) :
    w.router.minConfidenceBP ≤ confidenceBP ∧ job.budget ≤ w.router.autoSettleCap ∧
      msg.timestamp < job.expiredAt.val := by
  refine ⟨?_, ?_, ?_⟩
  · rw [Fin.le_def, submits.confidence]
    exact passes.confidence _ submits.minConfidence
  · rw [Fin.le_def, submits.budget]
    exact passes.budget _ submits.settleCap
  · rw [submits.expiredAt]
    have time := submits.time
    have expiry := passes.expiry
    omega

end Router

/-- What settles passes the router's gates in time, with a deliverable of at most 32768 bytes
that hashes to its commitment, and what does not settle has a reason to escalate. -/
theorem validateDecision_refines {lib : Library} {file : Except Failure (Option String)} {env : Environment} {input : ValidateInput} {decision : GateResult}
    {commitment : Hex} (loaded : loadDeliverable lib file (some commitment) = .ok input.deliverable)
    (decided : validateDecision env input = .ok decision) :
    (decision.action = .settle →
      (∀ here msg answers w jobId confidenceBP evidenceHash job,
        Submits env input decision.verdict msg answers w confidenceBP job →
        (∀ error, Router.submitAIVerdict here msg answers w jobId decision.verdict.approve
            confidenceBP evidenceHash = .error error → isGateError error = false) ∧
        (msg.sender = w.router.oracle → w.router.resolutions jobId = .none →
          w.router.lanes jobId = .aiAllowed → job.evaluator = here →
          job.status = Router.statusSubmitted →
          ∃ progress, Router.submitAIVerdict here msg answers w jobId decision.verdict.approve
            confidenceBP evidenceHash = .ok progress)) ∧
      ∃ content, input.deliverable.content = some content ∧
        content.utf8ByteSize ≤ maxDeliverableBytes ∧
        computeDeliverableHash lib content = commitment) ∧
    (decision.action ≠ .settle → decision.reasonCode.isAIEscalation = true) := by
  constructor
  · intro settles
    obtain ⟨-, -, passes⟩ | ⟨escalates, -⟩ := validateDecision_cases decided
    · constructor
      · intro here msg answers w jobId confidenceBP evidenceHash job submits
        obtain ⟨confident, affordable, early⟩ := submits.gates passes
        constructor
        · intro error refused
          exact submitAIVerdict_error submits.answered confident affordable early refused
        · intro oracle unresolved lane evaluator status
          exact ⟨_, Router.submitAIVerdict_ok.mpr ⟨⟨oracle, unresolved, lane, confident, job,
            submits.answered, evaluator, status, affordable, early⟩, rfl⟩⟩
      · obtain ⟨content, given, small, agrees⟩ := loadDeliverable_ok loaded passes.deliverable
        exact ⟨content, given, small, agrees commitment rfl⟩
    · rw [settles] at escalates
      cases escalates
  · intro refuses
    obtain ⟨settles, -⟩ | ⟨-, reason⟩ := validateDecision_cases decided
    · exact absurd settles refuses
    · exact reason

namespace GateWalkthrough

def library : Library := ⟨fun _ => 77, fun address => toString address⟩

def deliverable : DeliverableInspection where
  status := .ok
  content := some "report"
  byteLength := 6
  computedHash := some 77
  onChainHash := some 77

def verdict : Verdict where
  approve := true
  confidenceBP := 9000
  reasoning := "complete"
  injectionSuspected := false
  confidenceBP_le := by decide
  reasoning_le := by decide

def input : ValidateInput where
  rawVerdict := .object [
    ("approve", .bool true),
    ("confidenceBP", .number (.ofNat 9000 (by norm_num))),
    ("reasoning", .string "complete"),
    ("injectionSuspected", .bool false)]
  job := ⟨7, 21, 22, 90, 1000, 5000, 2⟩
  deliverable := deliverable
  nowSeconds := some 4900

def world : Router.World where
  router := {
    target := 80
    owner := 81
    oracle := 82
    humanResolver := 83
    autoSettleCap := 100000000
    minConfidenceBP := 8000 }

def job : Router.Job := ⟨21, 90, 1000, 5000, 2⟩

/-- The file holds the deliverable and no hash of its own. -/
def file : JsonValue := .object [("content", .string "report")]

theorem loaded : loadDeliverable library (.ok (some (Json.stringify 0 file))) (some 77) =
    .ok input.deliverable := by
  have enumerated : Json.Enumerated file :=
    ⟨Json.ofEntries_eq (List.pairwise_singleton _ _) (List.nodup_singleton _), trivial, trivial⟩
  have parsed := Json.parse_stringify 0 enumerated
  simp only [loadDeliverable, bind, Except.bind, parsed]
  rfl

theorem decided : validateDecision ⟨none, none, 0⟩ input = .ok ⟨.settle, .policyPassed, verdict⟩ := by
  rfl

/-- The last second in which the verdict may be submitted. -/
theorem submits : Submits ⟨none, none, 0⟩ input verdict ⟨82, 4960⟩ { getJob := some job } world 9000
    job where
  minConfidence := rfl
  settleCap := rfl
  confidence := rfl
  answered := rfl
  budget := rfl
  expiredAt := rfl
  time := by decide

end GateWalkthrough

open GateWalkthrough in
theorem validateDecision_refines_walkthrough :
    (∃ progress, Router.submitAIVerdict 90 ⟨82, 4960⟩ { getJob := some job } world 7 true 9000 5 =
      .ok progress) ∧ library.keccak256 "report" = 77 := by
  obtain ⟨settles, -⟩ := validateDecision_refines loaded decided
  obtain ⟨gates, content, given, -, agrees⟩ := settles rfl
  obtain ⟨-, accepted⟩ := gates 90 _ _ _ 7 _ 5 _ submits
  cases given
  exact ⟨accepted rfl rfl rfl rfl rfl, agrees⟩

end VapiArc.Judge
