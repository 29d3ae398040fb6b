import VapiArc.Router.EvaluationRouter

/-! # When the router accepts a call, and what the call leaves -/
namespace VapiArc.Router

open Checked Function Reentrancy Transition
open Escrow (Address Bytes32 Uint8 Uint16 Uint256 Msg)

variable {here : Address} {msg : Msg} {answers : Answers} {w : World} {jobId : Uint256}

@[simp] theorem onlyOwner_ok (u : Unit) : onlyOwner msg w = .ok u ↔ msg.sender = w.router.owner := by
  simp [onlyOwner]

@[simp] theorem onlyOracle_ok (u : Unit) :
    onlyOracle msg w = .ok u ↔ msg.sender = w.router.oracle := by
  simp [onlyOracle]

@[simp] theorem onlyHumanResolver_ok (u : Unit) :
    onlyHumanResolver msg w = .ok u ↔ msg.sender = w.router.humanResolver := by
  simp [onlyHumanResolver]

@[simp] theorem checkedJob_ok (job : Job) : checkedJob here answers jobId = .ok job ↔
    answers.getJob = some job ∧ job.evaluator = here ∧ job.status = statusSubmitted := by
  simp only [checkedJob, bind_ok, demand_ok, revertIf_ok, exists_const, pure_ok, ne_eq, not_not]
  constructor
  · rintro ⟨_, answered, evaluator, status, rfl⟩
    exact ⟨answered, evaluator, status⟩
  · rintro ⟨answered, evaluator, status⟩
    exact ⟨job, answered, evaluator, status, rfl⟩

/-- The gates of the AI path. -/
structure AIGate (here : Address) (msg : Msg) (answers : Answers) (w : World) (jobId : Uint256)
    (confidenceBP : Uint16) : Prop where
  oracle : msg.sender = w.router.oracle
  unresolved : w.router.resolutions jobId = .none
  lane : w.router.lanes jobId = .aiAllowed
  confidence : w.router.minConfidenceBP ≤ confidenceBP
  job : ∃ job, answers.getJob = some job ∧ job.evaluator = here ∧ job.status = statusSubmitted ∧
    job.budget ≤ w.router.autoSettleCap ∧ msg.timestamp < job.expiredAt.val

/-- The gates of the human path. -/
structure HumanGate (here : Address) (msg : Msg) (answers : Answers) (w : World) (jobId : Uint256)
    (reviewer : Address) (reward : Uint256) (payoutTxHash : Bytes32) : Prop where
  resolver : msg.sender = w.router.humanResolver
  pending : w.router.resolutions jobId = .none ∨ w.router.resolutions jobId = .escalated
  reviewer : reviewer ≠ 0
  payout : reward ≠ 0 → payoutTxHash ≠ 0
  job : ∃ job, answers.getJob = some job ∧ job.evaluator = here ∧ job.status = statusSubmitted

def aiResolution (approve : Bool) : Resolution := if approve then .autoCompleted else .autoRejected

def humanResolution (approve : Bool) : Resolution :=
  if approve then .humanCompleted else .humanRejected

theorem notHumanOnly {lane : ReviewLane} : lane ≠ .humanOnly ↔ lane = .aiAllowed := by
  cases lane <;> simp

theorem submitAIVerdict_ok {approve : Bool} {confidenceBP : Uint16} {evidenceHash : Bytes32}
    {p : Progress World Pending} :
    submitAIVerdict here msg answers w jobId approve confidenceBP evidenceHash = .ok p ↔
      AIGate here msg answers w jobId confidenceBP ∧
      settle (w.resolve jobId (aiResolution approve) evidenceHash) jobId approve evidenceHash = p := by
  simp only [submitAIVerdict, bind_ok, onlyOracle_ok, revertIf_ok, exists_const, checkedJob_ok,
    pure_ok, ne_eq, not_not, not_lt, ge_iff_le, not_le, notHumanOnly, gt_iff_lt]
  constructor
  · rintro ⟨oracle, unresolved, lane, confidence, job, ⟨answered, evaluator, status⟩, budget, early,
      rfl⟩
    exact ⟨⟨oracle, unresolved, lane, confidence, job, answered, evaluator, status, budget, early⟩,
      rfl⟩
  · rintro ⟨⟨oracle, unresolved, lane, confidence, job, answered, evaluator, status, budget, early⟩,
      rfl⟩
    exact ⟨oracle, unresolved, lane, confidence, job, ⟨answered, evaluator, status⟩, budget, early,
      rfl⟩

theorem humanResolve_ok {reviewer : Address} {approve : Bool} {reward : Uint256}
    {evidenceHash payoutTxHash : Bytes32} {p : Progress World Pending} :
    humanResolve here msg answers w jobId reviewer approve reward evidenceHash payoutTxHash = .ok p ↔
      HumanGate here msg answers w jobId reviewer reward payoutTxHash ∧
      settle ((w.resolve jobId (humanResolution approve) evidenceHash).setReviewer jobId reviewer
        reward payoutTxHash) jobId approve evidenceHash = p := by
  simp only [humanResolve, bind_ok, onlyHumanResolver_ok, revertIf_ok, exists_const, checkedJob_ok,
    pure_ok, ne_eq]
  constructor
  · rintro ⟨resolver, pending, named, paid, job, ⟨answered, evaluator, status⟩, rfl⟩
    exact ⟨⟨resolver, by tauto, named, by tauto, job, answered, evaluator, status⟩, rfl⟩
  · rintro ⟨⟨resolver, pending, named, paid, job, answered, evaluator, status⟩, rfl⟩
    exact ⟨resolver, by tauto, named, by tauto, job, ⟨answered, evaluator, status⟩, rfl⟩

/-- Everything an accepted call can do. -/
inductive Accepts (here : Address) (w : World) : Call → Progress World Pending → Prop
  | laneSet {msg answers jobId lane} : w.router.resolutions jobId = .none →
      (∃ job, answers.getJob = some job ∧ job.evaluator = here ∧ msg.sender = job.client) →
      Accepts here w ⟨msg, answers, .setLane jobId lane⟩
        (.finished { w with router := { w.router with lanes := update w.router.lanes jobId lane } })
  | aiVerdict {msg answers jobId approve confidenceBP evidenceHash} :
      AIGate here msg answers w jobId confidenceBP →
      Accepts here w ⟨msg, answers, .submitAIVerdict jobId approve confidenceBP evidenceHash⟩
        (settle (w.resolve jobId (aiResolution approve) evidenceHash) jobId approve evidenceHash)
  | escalated {msg answers jobId reasonHash} : msg.sender = w.router.oracle →
      w.router.resolutions jobId = .none →
      Accepts here w ⟨msg, answers, .escalate jobId reasonHash⟩
        (.finished (w.resolve jobId .escalated reasonHash))
  | humanVerdict {msg answers jobId reviewer approve reward evidenceHash payoutTxHash} :
      HumanGate here msg answers w jobId reviewer reward payoutTxHash →
      Accepts here w
        ⟨msg, answers, .humanResolve jobId reviewer approve reward evidenceHash payoutTxHash⟩
        (settle ((w.resolve jobId (humanResolution approve) evidenceHash).setReviewer jobId reviewer
          reward payoutTxHash) jobId approve evidenceHash)
  | configured {msg answers oracle humanResolver autoSettleCap minConfidenceBP} :
      msg.sender = w.router.owner → oracle ≠ 0 → humanResolver ≠ 0 →
      Accepts here w
        ⟨msg, answers, .setConfig oracle humanResolver autoSettleCap minConfidenceBP⟩
        (.finished { w with router := { w.router with
          oracle, humanResolver, autoSettleCap, minConfidenceBP } })
  | ownershipTransferred {msg answers newOwner} : msg.sender = w.router.owner → newOwner ≠ 0 →
      Accepts here w ⟨msg, answers, .transferOwnership newOwner⟩
        (.finished { w with router := { w.router with owner := newOwner } })
  | swept {msg answers token recipient amount} : msg.sender = w.router.owner → recipient ≠ 0 →
      answers.balanceOf = some amount →
      Accepts here w ⟨msg, answers, .sweep token recipient⟩
        (.calling w (.transfer token recipient amount))

theorem invoke_accepts {c : Call} {p : Progress World Pending} (done : invoke here w c = .ok p) :
    Accepts here w c p := by
  obtain ⟨msg, answers, entry⟩ := c
  cases entry with
  | setLane jobId lane =>
    simp only [invoke, setLane, bind_ok, revertIf_ok, exists_const, demand_ok, pure_ok, ne_eq,
      not_not] at done
    obtain ⟨unresolved, job, answered, evaluator, client, rfl⟩ := done
    exact .laneSet unresolved ⟨job, answered, evaluator, client⟩
  | submitAIVerdict jobId approve confidenceBP evidenceHash =>
    obtain ⟨gate, rfl⟩ := submitAIVerdict_ok.mp done
    exact .aiVerdict gate
  | escalate jobId reasonHash =>
    simp only [invoke, escalate, bind_ok, onlyOracle_ok, revertIf_ok, exists_const, pure_ok, ne_eq,
      not_not] at done
    obtain ⟨oracle, unresolved, rfl⟩ := done
    exact .escalated oracle unresolved
  | humanResolve jobId reviewer approve reward evidenceHash payoutTxHash =>
    obtain ⟨gate, rfl⟩ := humanResolve_ok.mp done
    exact .humanVerdict gate
  | setConfig oracle humanResolver autoSettleCap minConfidenceBP =>
    simp only [invoke, setConfig, bind_ok, onlyOwner_ok, revertIf_ok, exists_const, pure_ok,
      not_or] at done
    obtain ⟨owner, ⟨oracle, resolver⟩, rfl⟩ := done
    exact .configured owner oracle resolver
  | transferOwnership newOwner =>
    simp only [invoke, transferOwnership, bind_ok, onlyOwner_ok, revertIf_ok, exists_const,
      pure_ok] at done
    obtain ⟨owner, named, rfl⟩ := done
    exact .ownershipTransferred owner named
  | sweep token recipient =>
    simp only [invoke, sweep, bind_ok, onlyOwner_ok, revertIf_ok, exists_const, demand_ok,
      pure_ok] at done
    obtain ⟨owner, named, amount, answered, rfl⟩ := done
    exact .swept owner named answered

/-- After an external call the router writes nothing more. -/
theorem resume_same {w' : World} {pending : Pending} {reply : Reply}
    (done : resume w pending reply = .ok w') : w' = w := by
  cases pending <;> cases reply <;> simp_all [resume]

namespace Walkthrough

/-- The router of the examples is deployed at the address 9. -/
def start : World := { router :=
  { target := 2, owner := 1, oracle := 3, humanResolver := 4, autoSettleCap := 1000,
    minConfidenceBP := 8000 } }

theorem deployed : constructor 1 2 3 4 1000 8000 = .ok start := rfl

def job : Job :=
  { client := 8, evaluator := 9, budget := 500, expiredAt := 10000, status := statusSubmitted }

def call (sender : Address) (entry : Entry) : Step Call Reply :=
  .invoke { msg := ⟨sender, 100⟩, answers := { getJob := some job }, entry }

/-- An automatic settlement, in which the target tries to settle the job once more and
changes the lane of another job in a frame that fails; then a human settlement. -/
def path : List (Step Call Reply) :=
  [call 3 (.submitAIVerdict 7 true 9000 21), call 4 (.humanResolve 7 5 false 1 22 23),
    .enter, call 8 (.setLane 6 .humanOnly), .rollback, .answer (.returned true),
    call 3 (.escalate 6 30), call 4 (.humanResolve 6 5 false 1 31 32), .answer (.returned true)]

def settled : Stacked World Pending := (component 9).system.replay (.idle start) path

theorem admitted : (component 9).system.AdmitsAll (.idle start) path := by
  refine ⟨trivial, trivial, trivial, trivial, ⟨_, _, rfl⟩, ⟨_, _, _, rfl⟩, trivial, trivial,
    ⟨_, _, _, rfl⟩, trivial⟩

theorem run : Run (component 9).system (.idle start)
    ((component 9).system.record (.idle start) [] path) settled :=
  (component 9).system.replay_run .refl path admitted

end Walkthrough

end VapiArc.Router
