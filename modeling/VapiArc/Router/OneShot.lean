import VapiArc.Router.Specs

/-!
# One settlement per job

What the router stores about a job determines which calls it has made for it, and
stays so while the target re-enters the router.
-/
namespace VapiArc.Router

open Checked Function Reentrancy Transition
open Escrow (Address Bytes32 Uint8 Uint16 Uint256 Msg)

variable {here : Address} {w w' : World} {c : Call} {p : Progress World Pending} {jobId : Uint256}

/-- The values a resolution may have later. -/
def Resolution.Moves (before after : Resolution) : Prop :=
  after = before ∨ before = .none ∨
    before = .escalated ∧ (after = .humanCompleted ∨ after = .humanRejected)

theorem Resolution.Moves.trans {a b c : Resolution} (first : a.Moves b) (second : b.Moves c) :
    a.Moves c := by
  rcases first with rfl | none | ⟨rfl, human | human⟩
  · exact second
  · exact .inr (.inl none)
  · rcases second with rfl | none | ⟨escalated, -⟩ <;> simp_all [Resolution.Moves]
  · rcases second with rfl | none | ⟨escalated, -⟩ <;> simp_all [Resolution.Moves]

def World.settlementsOf (w : World) (jobId : Uint256) : List TargetCall :=
  w.settlements.filter (·.jobId = jobId)

/-- The settlement that a resolution stands for. -/
def Resolution.settlement (jobId : Uint256) (evidence : Bytes32) : Resolution → List TargetCall
  | .autoCompleted | .humanCompleted => [.complete jobId evidence]
  | .autoRejected | .humanRejected => [.reject jobId evidence]
  | .none | .escalated => []

def Resolution.Human (r : Resolution) : Prop := r = .humanCompleted ∨ r = .humanRejected

/-- The mappings of a job agree with each other and with the calls made for it. -/
structure Consistent (w : World) (jobId : Uint256) : Prop where
  settled : w.settlementsOf jobId =
    (w.router.resolutions jobId).settlement jobId (w.router.evidence jobId)
  reviewer : w.router.reviewers jobId ≠ 0 ↔ (w.router.resolutions jobId).Human
  payout : w.router.reviewerRewards jobId ≠ 0 → w.router.reviewerPayouts jobId ≠ 0

theorem settlementsOf_request (call : TargetCall) : (w.request call).settlementsOf jobId =
    if call.jobId = jobId then call :: w.settlementsOf jobId else w.settlementsOf jobId := by
  simp only [World.settlementsOf, World.request, List.filter_cons, decide_eq_true_eq]

/-- The call that `_settle` makes. -/
def settlementCall (jobId : Uint256) (approve : Bool) (reason : Bytes32) : TargetCall :=
  if approve then .complete jobId reason else .reject jobId reason

theorem settle_state (approve : Bool) (reason : Bytes32) :
    (settle w jobId approve reason).state = w.request (settlementCall jobId approve reason) := rfl

@[simp] theorem settlementCall_jobId (approve : Bool) (reason : Bytes32) :
    (settlementCall jobId approve reason).jobId = jobId := by
  cases approve <;> rfl

/-- A verdict on another job does not concern this one. -/
theorem Consistent.resolve_other {other : Uint256} (kept : Consistent w jobId)
    (apart : jobId ≠ other) (resolution : Resolution) (evidence : Bytes32) :
    Consistent (w.resolve other resolution evidence) jobId := by
  obtain ⟨settled, reviewer, payout⟩ := kept
  constructor <;> simpa [World.resolve, update_of_ne apart, World.settlementsOf]

theorem Consistent.setReviewer_other {other : Uint256} (kept : Consistent w jobId)
    (apart : jobId ≠ other) (reviewer : Address) (reward : Uint256) (payoutTxHash : Bytes32) :
    Consistent (w.setReviewer other reviewer reward payoutTxHash) jobId := by
  obtain ⟨settled, named, payout⟩ := kept
  constructor <;> simpa [World.setReviewer, update_of_ne apart, World.settlementsOf]

theorem Consistent.request_other (kept : Consistent w jobId) {call : TargetCall}
    (apart : jobId ≠ call.jobId) : Consistent (w.request call) jobId := by
  obtain ⟨settled, reviewer, payout⟩ := kept
  refine ⟨?_, reviewer, payout⟩
  rw [settlementsOf_request, if_neg (Ne.symm apart), settled]
  rfl

/-- A job that is not settled has no calls. -/
theorem Consistent.unsettled (kept : Consistent w jobId)
    (pending : w.router.resolutions jobId = .none ∨ w.router.resolutions jobId = .escalated) :
    w.settlementsOf jobId = [] := by
  rw [kept.settled]
  rcases pending with same | same <;> rw [same] <;> rfl

/-- An accepted call keeps every job consistent, also while the target runs. -/
theorem Accepts.consistent (accepts : Accepts here w c p) (kept : Consistent w jobId) :
    Consistent p.state jobId := by
  cases accepts with
  | laneSet => exact ⟨kept.settled, kept.reviewer, kept.payout⟩
  | configured => exact ⟨kept.settled, kept.reviewer, kept.payout⟩
  | ownershipTransferred => exact ⟨kept.settled, kept.reviewer, kept.payout⟩
  | swept => exact kept
  -- an escalation of a job that is not resolved yet, so nothing was settled
  | @escalated msg answers other reasonHash oracle unresolved =>
    by_cases same : jobId = other
    · subst same
      have empty := kept.unsettled (.inl unresolved)
      have unnamed := kept.reviewer
      rw [unresolved] at unnamed
      refine ⟨?_, ?_, kept.payout⟩
      · simpa [Progress.state, World.resolve, World.settlementsOf, Resolution.settlement] using empty
      · simpa [Progress.state, World.resolve, Resolution.Human] using unnamed
    · exact kept.resolve_other same _ _
  -- the request that a verdict makes is the job's first settlement
  | @aiVerdict msg answers other approve confidenceBP evidenceHash gate =>
    rw [settle_state]
    by_cases same : jobId = other
    · subst same
      have empty := kept.unsettled (.inl gate.unresolved)
      have unnamed := kept.reviewer
      rw [gate.unresolved] at unnamed
      refine ⟨?_, ?_, kept.payout⟩
      · rw [settlementsOf_request, if_pos (settlementCall_jobId _ _),
          show (w.resolve jobId _ _).settlementsOf jobId = [] from empty]
        cases approve <;>
          simp [World.request, World.resolve, aiResolution, settlementCall, Resolution.settlement]
      · cases approve <;>
          simpa [World.request, World.resolve, aiResolution, Resolution.Human] using unnamed
    · exact (kept.resolve_other same _ _).request_other (by simpa using same)
  | @humanVerdict msg answers other reviewer approve reward evidenceHash payoutTxHash gate =>
    rw [settle_state]
    by_cases same : jobId = other
    · subst same
      have empty := kept.unsettled gate.pending
      refine ⟨?_, ?_, ?_⟩
      · rw [settlementsOf_request, if_pos (settlementCall_jobId _ _),
          show ((w.resolve jobId _ _).setReviewer jobId _ _ _).settlementsOf jobId = [] from empty]
        cases approve <;>
          simp [World.request, World.setReviewer, World.resolve, humanResolution, settlementCall,
            Resolution.settlement]
      · have named := gate.reviewer
        cases approve <;>
          simpa [World.request, World.setReviewer, World.resolve, humanResolution,
            Resolution.Human] using named
      · simpa [World.request, World.setReviewer] using gate.payout
    · exact ((kept.resolve_other same _ _).setReviewer_other same _ _ _).request_other
        (by simpa using same)

/-- An accepted call moves resolutions along their lifecycle. -/
theorem Accepts.moves (accepts : Accepts here w c p) (jobId : Uint256) :
    (w.router.resolutions jobId).Moves (p.state.router.resolutions jobId) := by
  have resolved {other : Uint256} {resolution : Resolution} (evidence : Bytes32)
      (legal : (w.router.resolutions other).Moves resolution) :
      (w.router.resolutions jobId).Moves
        ((w.resolve other resolution evidence).router.resolutions jobId) := by
    by_cases same : jobId = other
    · subst same
      simpa [World.resolve] using legal
    · simp [World.resolve, update_of_ne same, Resolution.Moves]
  cases accepts with
  | laneSet => exact .inl rfl
  | configured => exact .inl rfl
  | ownershipTransferred => exact .inl rfl
  | swept => exact .inl rfl
  | escalated oracle unresolved => exact resolved _ (.inr (.inl unresolved))
  | aiVerdict gate => exact resolved _ (.inr (.inl gate.unresolved))
  | @humanVerdict msg answers other reviewer approve reward evidenceHash payoutTxHash gate =>
    have legal : (w.router.resolutions other).Moves (humanResolution approve) := by
      rcases gate.pending with unresolved | escalated
      · exact .inr (.inl unresolved)
      · exact .inr (.inr ⟨escalated, by cases approve <;> simp [humanResolution]⟩)
    exact resolved evidenceHash legal

theorem constructor_consistent {sender target oracle humanResolver : Address}
    {autoSettleCap : Uint256} {minConfidenceBP : Uint16}
    (deployed : constructor sender target oracle humanResolver autoSettleCap minConfidenceBP = .ok w) :
    Consistent w jobId := by
  simp only [constructor, bind_ok, revertIf_ok, exists_const, pure_ok] at deployed
  obtain ⟨-, rfl⟩ := deployed
  constructor <;> simp [World.settlementsOf, Resolution.settlement, Resolution.Human]

/-- At most one settlement of a job takes effect, and it is the recorded one. -/
structure OneShot (w : World) (jobId : Uint256) : Prop where
  once : (w.settlementsOf jobId).length ≤ 1
  complete : ∀ reason, .complete jobId reason ∈ w.settlements ↔
    (w.router.resolutions jobId = .autoCompleted ∨ w.router.resolutions jobId = .humanCompleted) ∧
      reason = w.router.evidence jobId
  reject : ∀ reason, .reject jobId reason ∈ w.settlements ↔
    (w.router.resolutions jobId = .autoRejected ∨ w.router.resolutions jobId = .humanRejected) ∧
      reason = w.router.evidence jobId
  reviewer : w.router.reviewers jobId ≠ 0 ↔
    w.router.resolutions jobId = .humanCompleted ∨ w.router.resolutions jobId = .humanRejected
  payout : w.router.reviewerRewards jobId ≠ 0 → w.router.reviewerPayouts jobId ≠ 0

theorem mem_settlementsOf (jobId : Uint256) {call : TargetCall} (own : call.jobId = jobId) :
    call ∈ w.settlements ↔ call ∈ w.settlementsOf jobId := by
  simp [World.settlementsOf, own]

theorem Consistent.oneShot (kept : Consistent w jobId) : OneShot w jobId := by
  obtain ⟨settled, reviewer, payout⟩ := kept
  refine ⟨?_, fun reason => ?_, fun reason => ?_, reviewer, payout⟩
  · rw [settled]
    cases w.router.resolutions jobId <;> simp [Resolution.settlement]
  · rw [mem_settlementsOf jobId rfl, settled]
    cases w.router.resolutions jobId <;> simp [Resolution.settlement]
  · rw [mem_settlementsOf jobId rfl, settled]
    cases w.router.resolutions jobId <;> simp [Resolution.settlement]

/-- In every run, with every answer of the target and every call that re-enters the
router, a job is settled at most once, as its mappings say; resolutions move along
their lifecycle; and a call that fails leaves the state it was made in. -/
theorem router_oneShot {sender target oracle humanResolver : Address} {autoSettleCap : Uint256}
    {minConfidenceBP : Uint16} {start : World} {history : List (Stacked World Pending × Step Call Reply)}
    {v : Stacked World Pending}
    (deployed : constructor sender target oracle humanResolver autoSettleCap minConfidenceBP =
      .ok start)
    (run : Run (component here).system (.idle start) history v) (jobId : Uint256) :
    OneShot v.current jobId ∧
    (∀ floor later w, Component.Since (component here) v floor later w →
      (v.current.router.resolutions jobId).Moves (w.current.router.resolutions jobId)) ∧
    (∀ c error, invoke here v.current c = .error error →
      (component here).next v (.invoke c) = v) ∧
    ∀ c s pending later w t, invoke here v.current c = .ok (.calling s pending) →
      Component.Since (component here) ((component here).next v (.invoke c))
        (v.frames.length + 1) later w →
      w.frames.length = v.frames.length + 1 → admits w t → (component here).Undoes w t →
      (component here).next w t = v := by
  refine ⟨Consistent.oneShot ?_, fun floor later w since => ?_, fun c error failed => ?_,
    fun c s pending later w t calls since innermost admitted fails => ?_⟩
  · refine ((component here).holds (Consistent · jobId) run ?_ ?_ ?_).current
    · exact ⟨constructor_consistent deployed, by simp [Stacked.idle]⟩
    · exact fun s c p kept done => (invoke_accepts done).consistent kept
    · intro s pending reply s' kept done
      rw [resume_same done]
      exact kept
  · refine (since.related (fun s s' => (s.router.resolutions jobId).Moves
      (s'.router.resolutions jobId)) (fun _ => .inl rfl) (fun _ _ _ => .trans) ?_ ?_).current
    · exact fun s c p done => (invoke_accepts done).moves jobId
    · intro s pending reply s' done
      rw [resume_same done]
      exact .inl rfl
  · simp [Component.next, component, failed]
  · exact Component.next_undone calls since innermost rfl admitted fails

/-- Two jobs are settled, one of them while the target re-enters the router. -/
theorem router_oneShot_walkthrough :
    OneShot Walkthrough.settled.current 7 ∧ OneShot Walkthrough.settled.current 6 ∧
      Walkthrough.settled.current.settlements = [.reject 6 31, .complete 7 21] :=
  ⟨(router_oneShot Walkthrough.deployed Walkthrough.run 7).1,
    (router_oneShot Walkthrough.deployed Walkthrough.run 6).1, rfl⟩

end VapiArc.Router
