import VapiArc.Escrow.Ballots
import VapiArc.Lib.Threshold

/-!
# What the panel decides

The outcome that `execute` reads off a case is the verdict of a threshold vote on the
ballot, the multiset of revealed choices. Where one fixed panel of three votes, it is
final from the moment at which it can be executed.
-/
namespace VapiArc.Escrow

open DisputePanel Function

variable {d : Deployment} {start w w' : World} {tx : Tx} {history : History} {e : Address}
  {k : CaseData} {flag : Address → Bool} {vs : List Vote} {S : Finset Address}

/-- The resolution that a ballot asks for. -/
def ruling (votes : Multiset Uint8) : Resolution :=
  match Threshold.verdict 2 releaseVote refundVote votes with
  | some choice => if choice = releaseVote then .release else .refund
  | none => .split

/-- The outcome by the counts of the ballot. -/
theorem Tallied.outcome_eq (tallied : Tallied k flag vs) : outcome k =
    if 2 ≤ (choices vs).count releaseVote then 0
    else if 2 ≤ (choices vs).count refundVote then 1
    else 2 := by
  have release : (2 : Uint8) ≤ k.releaseVotes ↔ 2 ≤ (choices vs).count releaseVote := by
    rw [choices, Multiset.coe_count, ← tallied.releaseVotes]
    exact Iff.rfl
  have refund : (2 : Uint8) ≤ k.refundVotes ↔ 2 ≤ (choices vs).count refundVote := by
    rw [choices, Multiset.coe_count, ← tallied.refundVotes]
    exact Iff.rfl
  simp only [outcome, release, refund]

/-- The outcome by the verdict of the vote. -/
theorem Tallied.outcome_verdict (tallied : Tallied k flag vs) :
    (outcome k = 0 ↔
      Threshold.verdict 2 releaseVote refundVote (choices vs) = some releaseVote) ∧
    (outcome k = 1 ↔
      Threshold.verdict 2 releaseVote refundVote (choices vs) = some refundVote) ∧
    (outcome k = 2 ↔ Threshold.verdict 2 releaseVote refundVote (choices vs) = none) := by
  rw [tallied.outcome_eq]
  unfold Threshold.verdict
  have apart : releaseVote ≠ refundVote := by decide
  by_cases release : 2 ≤ (choices vs).count releaseVote
  · simp [release, apart]
  · by_cases refund : 2 ≤ (choices vs).count refundVote
    · simp [release, refund, apart.symm]
    · simp [release, refund]

/-- The escrow's resolution for an outcome is the ruling of the ballot. -/
theorem Tallied.outcome_ruling (tallied : Tallied k flag vs) :
    Resolution.ofNat? ((outcome k).val + 1) = some (ruling (choices vs)) := by
  rw [tallied.outcome_eq]
  unfold ruling Threshold.verdict
  by_cases release : 2 ≤ (choices vs).count releaseVote
  · simp [release, Resolution.ofNat?]
  · by_cases refund : 2 ≤ (choices vs).count refundVote
    · have other : ¬ refundVote = releaseVote := by decide
      simp [release, refund, other, Resolution.ofNat?]
    · simp [release, refund, Resolution.ofNat?]

/-! ### A fixed panel -/

/-- While the case of `e` is open and not executed, the arbiters are those of `S`. -/
def Fixed (e : Address) (S : Finset Address) (w : World) : Prop :=
  (w.panel.cases e).commitDeadline ≠ 0 → (w.panel.cases e).executed = false →
    ∀ a, w.registry.arbiters a = true ↔ a ∈ S

structure FixedAlong (e : Address) (S : Finset Address) (history : History) (w : World) : Prop where
  past : ∀ entry ∈ history, Fixed e S entry.1
  now : Fixed e S w

/-- No transaction of the history is older. -/
def History.Since (history : History) (timestamp : Nat) : Prop :=
  ∀ entry ∈ history, timestamp ≤ entry.2.msg.timestamp

theorem FixedAlong.trans {later : History} (fixed : FixedAlong e S history w)
    (onwards : FixedAlong e S later w') : FixedAlong e S (later ++ history) w' := by
  constructor
  · intro entry member
    rcases List.mem_append.mp member with new | old
    · exact onwards.past entry new
    · exact fixed.past entry old
  · exact onwards.now

theorem FixedAlong.voter (fixed : FixedAlong e S history w) {v : Vote}
    (member : v ∈ votes d e history) : v.arbiter ∈ S := by
  obtain ⟨revealing, old, added⟩ := List.mem_filterMap.mp member
  obtain ⟨voter, revealable, _⟩ := vote_some added
  rw [voter]
  -- the registry that the reveal checked was the panel's
  exact (fixed.past revealing old revealable.known revealable.pending _).mp revealable.arbiter

/-- Only members of the panel have revealed. -/
theorem FixedAlong.revealed (fixed : FixedAlong e S history w) (run : Run d start history w)
    (a : Address) (raised : w.panel.revealed e a = true) : a ∈ S := by
  obtain ⟨v, member, rfl⟩ := List.mem_map.mp (((run.tallied e).roll.mem a).mpr raised)
  exact fixed.voter member

theorem FixedAlong.few (fixed : FixedAlong e S history w) (run : Run d start history w)
    (few : S.card ≤ 3) : (ballot d e history).card < 2 * 2 := by
  have bound := (run.tallied e).roll.length_le (fixed.revealed run)
  rw [List.length_map] at bound
  have card : (ballot d e history).card = (votes d e history).length := by
    simp [ballot, choices]
  omega

/-! ### Finality -/

variable {later : History} {t : Nat}

/-- From the moment at which a case can be executed no vote on it is accepted. -/
theorem Run.noReveal (run : Run d start history w) (few : S.card ≤ 3)
    (fixed : FixedAlong e S history w) (due : Executable t (w.panel.cases e))
    (future : Transition.Run (system d) w later w') (onwards : FixedAlong e S later w')
    (since : t ≤ tx.msg.timestamp) : vote d e (w', tx) = none := by
  by_contra accepted
  obtain ⟨v, added⟩ := Option.ne_none_iff_exists'.mp accepted
  obtain ⟨voter, revealable, _⟩ := vote_some added
  rcases due.due with all | ended
  · -- all three arbiters have revealed, and this one is among them
    have whole : Run d start (later ++ history) w' := ⟨run.genesis, run.run.trans future⟩
    have within := (fixed.trans onwards).revealed whole
    have counted := (run.tallied e).revealCount
    have three : ((panelSize : Uint8) : Nat) = 3 := rfl
    have many : S.card ≤ ((votes d e (later ++ history)).map Vote.arbiter).length := by
      rw [Fin.le_def] at all
      rw [List.length_map, votes, List.filterMap_append, List.length_append]
      change _ = (history.filterMap (vote d e)).length at counted
      omega
    have member := (onwards.now revealable.known revealable.pending _).mp revealable.arbiter
    have raised := (whole.tallied e).roll.full within many member
    rw [revealable.unrevealed] at raised
    cases raised
  · -- the reveal window is over, and it is never extended
    have same := (run_case future due.known).1.revealDeadline
    have late := revealable.window.2
    rw [same] at late
    omega

/-- So the ballot stays what it is. -/
theorem Run.ballot_final (run : Run d start history w) (few : S.card ≤ 3)
    (fixed : FixedAlong e S history w) (due : Executable t (w.panel.cases e))
    (future : Transition.Run (system d) w later w') (onwards : FixedAlong e S later w')
    (since : later.Since t) : votes d e (later ++ history) = votes d e history := by
  have silent : votes d e later = [] := by
    refine List.filterMap_eq_nil_iff.mpr fun entry member => ?_
    obtain ⟨earlier, newer, rfl, before, _, _⟩ := future.of_mem member
    -- the part of the run before this entry is a run of the same kind
    have before' : FixedAlong e S earlier entry.1 := by
      constructor
      · intro older old
        exact onwards.past older (List.mem_append_right newer (List.mem_cons_of_mem _ old))
      · exact onwards.past entry member
    exact run.noReveal few fixed due before before' (since entry member)
  rw [votes, List.filterMap_append]
  change votes d e later ++ votes d e history = _
  rw [silent, List.nil_append]

/-- `execute` resolves a clone by the ruling of the ballot. -/
theorem execute_rules {c : EscrowV1} (tallied : Tallied (w.panel.cases e) flag vs)
    (call : tx.call = .execute e) (accepted : Accepted d (w, tx))
    (clone : w.escrows e = some c) :
    (step d w tx).escrows e = some (c.settled (ruling (choices vs))) := by
  obtain ⟨w', success⟩ := accepted
  have executed : DisputePanel.execute d tx.msg w e = .ok w' := by
    simpa only [exec, call] using success
  obtain ⟨_, ⟨_, resolved⟩ | ⟨foreign, _⟩⟩ := execute_ok.mp executed
  · obtain ⟨c', clone', _, _, _, result, code, settled⟩ :=
      EscrowV1.resolveDispute_ok.mp resolved
    have same : c' = c := Option.some.inj (clone'.symm.trans clone)
    have ruled : result = ruling (choices vs) :=
      Option.some.inj (code.symm.trans tallied.outcome_ruling)
    obtain ⟨l, rfl, _⟩ := settle_pays settled
    rw [step_accepted success, ← ruled, ← same]
    exact update_self ..
  · rw [clone] at foreign
    cases foreign

/-- The outcome of a case that one fixed panel decides. -/
structure PanelFinality (d : Deployment) (e : Address) (S : Finset Address) (history : History)
    (w : World) : Prop where
  release : outcome (w.panel.cases e) = 0 ↔ 2 ≤ (ballot d e history).count releaseVote
  refund : outcome (w.panel.cases e) = 1 ↔ 2 ≤ (ballot d e history).count refundVote
  exclusive : ¬ (2 ≤ (ballot d e history).count releaseVote ∧
    2 ≤ (ballot d e history).count refundVote)
  split : outcome (w.panel.cases e) = 2 ↔ (ballot d e history).count releaseVote < 2 ∧
    (ballot d e history).count refundVote < 2
  /-- The ballot alone decides, in whatever order its votes were committed and revealed. -/
  order : ∀ start' history' w', Run d start' history' w' → ∀ e',
    ballot d e' history' = ballot d e history →
    outcome (w'.panel.cases e') = outcome (w.panel.cases e)
  /-- Once `execute` would not revert no reveal succeeds, and the outcome stays. -/
  final : ∀ caller t, Accepted d (w, ⟨⟨caller, t⟩, .execute e⟩) →
    ∀ (later : History) w', Transition.Run (system d) w later w' → later.Since t →
    FixedAlong e S later w' →
    (∀ arbiter t' choice salt, t ≤ t' →
      ¬ Accepted d (w', ⟨⟨arbiter, t'⟩, .reveal e choice salt⟩)) ∧
    ballot d e (later ++ history) = ballot d e history ∧
    outcome (w'.panel.cases e) = outcome (w.panel.cases e)
  /-- Whoever executes and whenever, the escrow keeps the resolution of this ballot. -/
  stored : ∀ caller t, Accepted d (w, ⟨⟨caller, t⟩, .execute e⟩) →
    ∀ (later : History) w', Transition.Run (system d) w later w' → later.Since t →
    FixedAlong e S later w' →
    ∀ tx, tx.call = .execute e → Accepted d (w', tx) → w'.escrows e ≠ none →
    ∀ after w'', Transition.Run (system d) (step d w' tx) after w'' →
    ∃ c, w''.escrows e = some c ∧ c.state = .resolved ∧
      c.resolution = ruling (ballot d e history) ∧
      Resolution.ofNat? ((outcome (w.panel.cases e)).val + 1) = some c.resolution

/-- `execute` succeeds only on an executable case. -/
theorem Accepted.executable {caller : Address}
    (accepted : Accepted d (w, ⟨⟨caller, t⟩, .execute e⟩)) : Executable t (w.panel.cases e) := by
  obtain ⟨w', success⟩ := accepted
  exact (execute_ok.mp success).1

theorem panel_finality (run : Run d start history w) (few : S.card ≤ 3)
    (fixed : FixedAlong e S history w) : PanelFinality d e S history w := by
  have tallied := run.tallied e
  have apart : releaseVote ≠ refundVote := by decide
  have card := fixed.few run few
  obtain ⟨release, refund, split⟩ := tallied.outcome_verdict
  constructor
  · exact release.trans (Threshold.verdict_first apart)
  · exact refund.trans (Threshold.verdict_second apart card)
  · rintro ⟨one, two⟩
    have other := Threshold.not_both apart card one
    omega
  · exact split.trans Threshold.verdict_none
  · intro start' history' w' run' e' same
    have choices : choices (votes d e' history') = choices (votes d e history) := same
    rw [(run'.tallied e').outcome_eq, tallied.outcome_eq, choices]
  · intro caller t accepted later w' future since onwards
    have due := accepted.executable
    have same := run.ballot_final few fixed due future onwards since
    refine ⟨?_, congrArg choices same, ?_⟩
    · intro arbiter t' choice salt later' success
      have silent : vote d e (w', ⟨⟨arbiter, t'⟩, .reveal e choice salt⟩) = none :=
        run.noReveal few fixed due future onwards later'
      simp [vote, success] at silent
    · have whole : Run d start (later ++ history) w' := ⟨run.genesis, run.run.trans future⟩
      rw [(whole.tallied e).outcome_eq, tallied.outcome_eq, same]
  · intro caller t accepted later w' future since onwards tx call executed code after w'' rest
    have whole : Run d start (later ++ history) w' := ⟨run.genesis, run.run.trans future⟩
    have same := run.ballot_final few fixed accepted.executable future onwards since
    obtain ⟨c, clone⟩ := Option.ne_none_iff_exists'.mp code
    -- the ballot that `execute` reads is the one of the first moment
    have stored := execute_rules (whole.tallied e) call executed clone
    rw [same] at stored
    exact ⟨_, run_final rest stored (.inl rfl), rfl, rfl, tallied.outcome_ruling⟩

namespace Walkthrough

def panel : Finset Address := {arbiter1, arbiter2, arbiter3}

theorem unopened (blank : (w.panel.cases e).commitDeadline = 0) : Fixed e S w :=
  fun known => absurd blank known

theorem arbiters_roll : Roll (update (update (update (fun _ => false) arbiter1 true) arbiter2 true)
    arbiter3 true) [arbiter3, arbiter2, arbiter1] :=
  ((Roll.nil.raise rfl).raise rfl).raise rfl

theorem seated (wired : Roll w.registry.arbiters [arbiter3, arbiter2, arbiter1]) :
    Fixed e panel w := by
  intro _ _ a
  rw [← wired.mem, panel]
  simp only [List.mem_cons, List.not_mem_nil, Finset.mem_insert, Finset.mem_singleton]
  tauto

theorem fixed : FixedAlong (escrow 0) panel
    (Walkthrough.history 600 (by decide) disputePath.dropLast)
    (state 600 (by decide) disputePath.dropLast) := by
  have steady : (system (deployment 600 (by decide))).Throughout (Fixed (escrow 0) panel) genesis
      disputePath.dropLast :=
    ⟨unopened rfl, unopened rfl, unopened rfl, unopened rfl, unopened rfl, unopened rfl,
      unopened rfl, unopened rfl, unopened rfl, unopened rfl, seated arbiters_roll,
      seated arbiters_roll, seated arbiters_roll, seated arbiters_roll, seated arbiters_roll,
      seated arbiters_roll, seated arbiters_roll⟩
  have empty : ∀ entry ∈ ([] : History), Fixed (escrow 0) panel entry.1 := by simp
  obtain ⟨past, now⟩ := steady.recorded empty
  exact ⟨past, now⟩

end Walkthrough

/-- The walkthrough's dispute with all votes revealed: anybody may execute it. -/
theorem panel_finality_walkthrough :
    PanelFinality (Walkthrough.deployment 600 (by decide)) (Walkthrough.escrow 0)
      Walkthrough.panel
      (Walkthrough.history 600 (by decide) Walkthrough.disputePath.dropLast)
      (Walkthrough.state 600 (by decide) Walkthrough.disputePath.dropLast) ∧
    Accepted (Walkthrough.deployment 600 (by decide))
      (Walkthrough.state 600 (by decide) Walkthrough.disputePath.dropLast,
        ⟨⟨Walkthrough.deployer, 123⟩, .execute (Walkthrough.escrow 0)⟩) :=
  ⟨panel_finality
    (Walkthrough.run 600 (by decide) Walkthrough.disputePath.dropLast (by decide)) (by decide)
    Walkthrough.fixed, by decide⟩

end VapiArc.Escrow
