import VapiArc.Router.OneShot

/-!
# Lanes and gates of the AI path

The client may change the lane of a job until the router records a resolution, and
the owner may change the oracle and the limits at any time, so the gates are those
of the moment in which a verdict was recorded.
-/
namespace VapiArc.Router

open Checked Function Reentrancy Transition
open Escrow (Address Bytes32 Uint8 Uint16 Uint256 Msg)

variable {here : Address} {w w' : World} {c : Call} {p : Progress World Pending} {jobId : Uint256}
  {history : List (Stacked World Pending × Step Call Reply)} {v : Stacked World Pending}

def Resolution.Auto (r : Resolution) : Prop := r = .autoCompleted ∨ r = .autoRejected

/-- The lane of a resolved job does not change, and the job stays resolved. -/
def LaneKept (jobId : Uint256) (w w' : World) : Prop :=
  w.router.resolutions jobId ≠ .none →
    w'.router.lanes jobId = w.router.lanes jobId ∧ w'.router.resolutions jobId ≠ .none

theorem LaneKept.trans {a b c : World} (first : LaneKept jobId a b) (second : LaneKept jobId b c) :
    LaneKept jobId a c := by
  intro resolved
  obtain ⟨lane, still⟩ := first resolved
  obtain ⟨lane', still'⟩ := second still
  exact ⟨lane'.trans lane, still'⟩

/-- A verdict changes no lane. -/
theorem resolve_laneKept {other : Uint256} (resolution : Resolution) (some_ : resolution ≠ .none)
    (evidence : Bytes32) : LaneKept jobId w (w.resolve other resolution evidence) := by
  intro resolved
  refine ⟨rfl, ?_⟩
  by_cases same : jobId = other
  · subst same
    simpa [World.resolve] using some_
  · simpa [World.resolve, update_of_ne same] using resolved

theorem Accepts.laneKept (accepts : Accepts here w c p) (jobId : Uint256) :
    LaneKept jobId w p.state := by
  cases accepts with
  | @laneSet msg answers other lane unresolved client =>
    intro resolved
    have apart : jobId ≠ other := by
      rintro rfl
      exact resolved unresolved
    exact ⟨update_of_ne apart _ _, resolved⟩
  | escalated oracle unresolved => exact resolve_laneKept _ (by simp) _
  | @aiVerdict msg answers other approve confidenceBP evidenceHash gate =>
    exact resolve_laneKept (aiResolution approve)
      (by cases approve <;> simp [aiResolution]) evidenceHash
  | @humanVerdict msg answers other reviewer approve reward evidenceHash payoutTxHash gate =>
    exact resolve_laneKept (humanResolution approve)
      (by cases approve <;> simp [humanResolution]) evidenceHash
  | configured => exact fun resolved => ⟨rfl, resolved⟩
  | ownershipTransferred => exact fun resolved => ⟨rfl, resolved⟩
  | swept => exact fun resolved => ⟨rfl, resolved⟩

/-- A human-only job is not settled automatically. -/
def LaneRespected (jobId : Uint256) (w : World) : Prop :=
  w.router.lanes jobId = .humanOnly → ¬ (w.router.resolutions jobId).Auto

/-- An automatic resolution that a call brings about comes from the oracle's verdict. -/
theorem Accepts.auto (accepts : Accepts here w c p)
    (before : ¬ (w.router.resolutions jobId).Auto)
    (after : (p.state.router.resolutions jobId).Auto) :
    ∃ msg answers approve confidenceBP evidenceHash,
      c = ⟨msg, answers, .submitAIVerdict jobId approve confidenceBP evidenceHash⟩ ∧
      AIGate here msg answers w jobId confidenceBP ∧
      p.state.router.resolutions jobId = aiResolution approve := by
  have elsewhere {other : Uint256} {resolution : Resolution} (apart : jobId ≠ other)
      (auto : (update w.router.resolutions other resolution jobId).Auto) : False := by
    rw [update_of_ne apart] at auto
    exact before auto
  cases accepts with
  | laneSet => exact absurd after before
  | configured => exact absurd after before
  | ownershipTransferred => exact absurd after before
  | swept => exact absurd after before
  | @escalated msg answers other reasonHash oracle unresolved =>
    by_cases same : jobId = other
    · subst same
      simp [Progress.state, World.resolve, Resolution.Auto] at after
    · exact (elsewhere same after).elim
  | @aiVerdict msg answers other approve confidenceBP evidenceHash gate =>
    by_cases same : jobId = other
    · subst same
      exact ⟨msg, answers, approve, confidenceBP, evidenceHash, rfl, gate, update_self _ _ _⟩
    · exact (elsewhere same after).elim
  | @humanVerdict msg answers other reviewer approve reward evidenceHash payoutTxHash gate =>
    by_cases same : jobId = other
    · subst same
      cases approve <;>
        simp [settle_state, World.request, World.setReviewer, World.resolve, humanResolution,
          Resolution.Auto] at after
    · exact (elsewhere same after).elim

theorem Accepts.laneRespected (accepts : Accepts here w c p) (kept : LaneRespected jobId w) :
    LaneRespected jobId p.state := by
  intro human auto
  by_cases already : (w.router.resolutions jobId).Auto
  · -- a resolved job keeps its lane
    have resolved : w.router.resolutions jobId ≠ .none := by
      rintro same
      simp [same, Resolution.Auto] at already
    rw [(accepts.laneKept jobId resolved).1] at human
    exact kept human already
  · obtain ⟨msg, answers, approve, confidenceBP, evidenceHash, rfl, gate, -⟩ :=
      accepts.auto already auto
    cases accepts
    have lane : w.router.lanes jobId = .humanOnly := human
    rw [gate.lane] at lane
    cases lane

/-- A verdict of the address that was the oracle, in a state in which the job passed
every gate. The verdict has not been undone. -/
structure RecordedByOracle (here : Address) (jobId : Uint256) (resolution : Resolution)
    (history : List (Stacked World Pending × Step Call Reply)) (v u : Stacked World Pending)
    (msg : Msg) (answers : Answers) (approve : Bool) (confidenceBP : Uint16)
    (evidenceHash : Bytes32) : Prop where
  resolution : resolution = aiResolution approve
  gate : AIGate here msg answers u.current jobId confidenceBP
  since : ∃ later earlier floor, history = later ++ (u, .invoke
      ⟨msg, answers, .submitAIVerdict jobId approve confidenceBP evidenceHash⟩) :: earlier ∧
    Component.Since (component here) ((component here).next u (.invoke
      ⟨msg, answers, .submitAIVerdict jobId approve confidenceBP evidenceHash⟩)) floor later v

theorem recordedByOracle {start : World} (run : Run (component here).system (.idle start) history v)
    (initial : start.router.resolutions jobId = .none)
    (auto : (v.current.router.resolutions jobId).Auto) :
    ∃ u msg answers approve confidenceBP evidenceHash,
      RecordedByOracle here jobId (v.current.router.resolutions jobId) history v u msg answers
        approve confidenceBP evidenceHash := by
  have fresh : ¬ (start.router.resolutions jobId).Auto := by simp [initial, Resolution.Auto]
  obtain ⟨⟨u, t⟩, origin⟩ := (Component.originated
    (fun s => (s.router.resolutions jobId).Auto) run fresh).current auto
  obtain ⟨c, p, rfl, done, after⟩ := origin.invoked (by
    intro s pending reply s' resumed holds
    rwa [resume_same resumed] at holds)
  obtain ⟨msg, answers, approve, confidenceBP, evidenceHash, rfl, gate, recorded⟩ :=
    (invoke_accepts done).auto origin.before after
  obtain ⟨later, earlier, floor, shape, -, since⟩ := origin.since
  refine ⟨u, msg, answers, approve, confidenceBP, evidenceHash, ?_, gate, later, earlier, floor,
    shape, since⟩
  -- an automatic resolution never moves again
  have moves := (since.related (fun s s' => (s.router.resolutions jobId).Moves
    (s'.router.resolutions jobId)) (fun _ => .inl rfl) (fun _ _ _ => .trans)
    (fun s c p done => (invoke_accepts done).moves jobId) (fun s pending reply s' resumed => by
      rw [resume_same resumed]
      exact .inl rfl)).current
  have entered : ((component here).next u (.invoke ⟨msg, answers,
      .submitAIVerdict jobId approve confidenceBP evidenceHash⟩)).current.router.resolutions jobId =
      aiResolution approve := by
    rw [← recorded, Component.next_invoked (C := component here) done]
  rw [entered] at moves
  rcases moves with same | none | ⟨escalated, -⟩
  · exact same
  · cases approve <;> simp [aiResolution] at none
  · cases approve <;> simp [aiResolution] at escalated

/-- In every reachable state a human-only job is not settled automatically, every
automatic resolution was recorded by the oracle of that moment through all the gates,
and the lane of a resolved job does not change. -/
theorem router_laneSafety {sender target oracle humanResolver : Address} {autoSettleCap : Uint256}
    {minConfidenceBP : Uint16} {start : World}
    (deployed : constructor sender target oracle humanResolver autoSettleCap minConfidenceBP =
      .ok start)
    (run : Run (component here).system (.idle start) history v) (jobId : Uint256) :
    (v.current.router.lanes jobId = .humanOnly →
      v.current.router.resolutions jobId ≠ .autoCompleted ∧
        v.current.router.resolutions jobId ≠ .autoRejected) ∧
    (v.current.router.resolutions jobId = .autoCompleted ∨
        v.current.router.resolutions jobId = .autoRejected →
      ∃ u msg answers approve confidenceBP evidenceHash,
        RecordedByOracle here jobId (v.current.router.resolutions jobId) history v u msg answers
          approve confidenceBP evidenceHash) ∧
    (v.current.router.resolutions jobId ≠ .none →
      ∀ floor later w, Component.Since (component here) v floor later w →
        w.current.router.lanes jobId = v.current.router.lanes jobId) := by
  simp only [constructor, bind_ok, revertIf_ok, exists_const, pure_ok] at deployed
  obtain ⟨-, rfl⟩ := deployed
  refine ⟨fun human => ?_, fun auto => recordedByOracle run rfl auto,
    fun resolved floor later w since => ?_⟩
  · -- every call that is accepted respects the lanes, and an answer changes nothing
    have kept : LaneRespected jobId v.current := by
      refine ((component here).holds (LaneRespected jobId) run ?_ ?_ ?_).current
      · exact ⟨fun lane => by simp [Stacked.idle] at lane, by simp [Stacked.idle]⟩
      · exact fun s c p kept done => (invoke_accepts done).laneRespected kept
      · intro s pending reply s' kept done
        rwa [resume_same done]
    exact not_or.mp (kept human)
  · -- a lane is set only while its job is not resolved
    refine ((since.related (LaneKept jobId) (fun _ resolved => ⟨rfl, resolved⟩)
      (fun _ _ _ => .trans) ?_ ?_).current resolved).1
    · exact fun s c p done => (invoke_accepts done).laneKept jobId
    · intro s pending reply s' done
      rw [resume_same done]
      exact fun resolved => ⟨rfl, resolved⟩

/-- The job that the oracle settles, and the one whose client chose a human first. -/
theorem router_laneSafety_walkthrough :
    Walkthrough.settled.current.router.resolutions 7 = .autoCompleted ∧
      ∃ u msg answers approve confidenceBP evidenceHash,
        RecordedByOracle 9 7 .autoCompleted
          ((component 9).system.record (.idle Walkthrough.start) [] Walkthrough.path)
          Walkthrough.settled u msg answers approve confidenceBP evidenceHash :=
  ⟨rfl, (router_laneSafety Walkthrough.deployed Walkthrough.run 7).2.1 (.inl rfl)⟩

end VapiArc.Router
