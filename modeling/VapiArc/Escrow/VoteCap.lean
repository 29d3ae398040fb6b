import VapiArc.Escrow.PanelOutcome

/-!
# How many votes a case counts

Membership is checked when an arbiter commits and again when it reveals. A case
counts at most three votes as long as at most three arbiters pass both checks, but
the size of the registry alone does not ensure that.
-/
namespace VapiArc.Escrow

open DisputePanel Function

variable {d : Deployment} {start w w' : World} {tx : Tx} {history : History} {e : Address}
  {k : CaseData} {flag : Address → Bool} {vs : List Vote} {S : Finset Address}

/-- A case that counts at most three votes, and whose outcome is no minority's. -/
structure VoteCap (k : CaseData) : Prop where
  count : k.revealCount ≤ panelSize
  exclusive : ¬ (2 ≤ k.releaseVotes ∧ 2 ≤ k.refundVotes)
  release : outcome k = 0 → k.refundVotes < k.releaseVotes
  refund : outcome k = 1 → k.releaseVotes < k.refundVotes

/-- Three voters leave no room for two majorities. -/
theorem Tallied.voteCap (tallied : Tallied k flag vs) (few : vs.length ≤ 3) : VoteCap k := by
  have apart : releaseVote ≠ refundVote := by decide
  -- votes to release and votes to refund are different votes of the same three at most
  have sum := Threshold.count_add_count_le (choices vs) apart
  have card : (choices vs).card = vs.length := by simp [choices]
  rw [choices, Multiset.coe_count, Multiset.coe_count, ← tallied.releaseVotes,
    ← tallied.refundVotes] at sum
  rw [choices] at card
  have counted := tallied.revealCount
  have two : ((2 : Uint8) : Nat) = 2 := rfl
  have three : ((panelSize : Uint8) : Nat) = 3 := rfl
  constructor
  · rw [Fin.le_def]
    omega
  · rw [Fin.le_def, Fin.le_def]
    omega
  · intro released
    unfold outcome at released
    split at released
    next enough =>
      rw [Fin.le_def] at enough
      rw [Fin.lt_def]
      omega
    next =>
      split at released
      · cases released
      · cases released
  · intro refunded
    unfold outcome at refunded
    split at refunded
    next => cases refunded
    next less =>
      split at refunded
      next enough =>
        rw [Fin.le_def] at less enough
        rw [Fin.lt_def]
        omega
      next => cases refunded

/-- An arbiter was registered when some transaction of the period was executed. -/
def RegisteredDuring (history : History) (first last : Nat) (a : Address) : Prop :=
  ∃ entry ∈ history, (first ≤ entry.2.msg.timestamp ∧ entry.2.msg.timestamp < last) ∧
    entry.1.registry.arbiters a = true

/-- Every voter was registered in the commit window and again in the reveal window. -/
theorem Run.voter (run : Run d start history w) {v : Vote} (member : v ∈ votes d e history) :
    RegisteredDuring history (w.panel.cases e).commitStart.val
      (w.panel.cases e).commitDeadline.val v.arbiter ∧
    RegisteredDuring history (w.panel.cases e).commitDeadline.val
      (w.panel.cases e).revealDeadline.val v.arbiter := by
  obtain ⟨revealing, old, added⟩ := List.mem_filterMap.mp member
  obtain ⟨newer, older, happened⟩ := List.append_of_mem old
  -- the vote opened a commitment, and both calls checked the registry
  obtain ⟨_, committing, earlier, commits⟩ := run.bound happened added
  obtain ⟨voter, revealable, _⟩ := vote_some added
  obtain ⟨past, recent, happened', before, admissible, after⟩ := run.run.of_mem old
  have windows := (run_case (.trans (.step revealing.2 .refl admissible) after)
    revealable.known).1
  constructor
  · refine ⟨committing, ?_, commits.window, commits.registered⟩
    rw [happened]
    exact List.mem_append_right newer (List.mem_cons_of_mem _ earlier)
  · refine ⟨revealing, old, ?_, voter ▸ revealable.arbiter⟩
    rw [windows.commitDeadline, windows.revealDeadline]
    exact revealable.window

/-- Where at most three arbiters are registered in both windows of a case, at most
three votes are counted. -/
theorem vote_cap (run : Run d start history w) (few : S.card ≤ 3)
    (panel : ∀ a, RegisteredDuring history (w.panel.cases e).commitStart.val
      (w.panel.cases e).commitDeadline.val a →
      RegisteredDuring history (w.panel.cases e).commitDeadline.val
        (w.panel.cases e).revealDeadline.val a → a ∈ S) : VoteCap (w.panel.cases e) := by
  have tallied := run.tallied e
  refine tallied.voteCap ?_
  have within (a : Address) (raised : w.panel.revealed e a = true) : a ∈ S := by
    obtain ⟨v, member, rfl⟩ := List.mem_map.mp ((tallied.roll.mem a).mpr raised)
    obtain ⟨committed, revealed⟩ := run.voter member
    exact panel v.arbiter committed revealed
  have bound := tallied.roll.length_le within
  rw [List.length_map] at bound
  omega

namespace Walkthrough

/-- Nobody but the three arbiters is ever registered. -/
theorem enrolled :
    (∀ entry ∈ Walkthrough.history 600 (by decide) disputePath,
      ∀ a, entry.1.registry.arbiters a = true → a ∈ panel) ∧
    ∀ a, (state 600 (by decide) disputePath).registry.arbiters a = true →
      a ∈ panel := by
  have none : ∀ a, (fun _ : Address => false) a = true → a ∈ panel := by simp
  have more {flag : Address → Bool} {b : Address} (member : b ∈ panel)
      (old : ∀ a, flag a = true → a ∈ panel) (a : Address)
      (raised : update flag b true a = true) : a ∈ panel := by
    by_cases same : a = b
    · rw [same]
      exact member
    · rw [update_of_ne same] at raised
      exact old a raised
  have one := more (b := arbiter1) (by decide) none
  have two := more (b := arbiter2) (by decide) one
  have all := more (b := arbiter3) (by decide) two
  have steady : (system (deployment 600 (by decide))).Throughout
      (fun v => ∀ a, v.registry.arbiters a = true → a ∈ panel) genesis disputePath :=
    ⟨none, none, one, two, all, all, all, all, all, all, all, all, all, all, all, all, all, all⟩
  have empty : ∀ entry ∈ ([] : History), ∀ a, entry.1.registry.arbiters a = true → a ∈ panel := by
    simp
  exact steady.recorded empty

end Walkthrough

/-- The walkthrough's dispute, with its three arbiters. -/
theorem vote_cap_walkthrough : VoteCap
    ((Walkthrough.state 600 (by decide) Walkthrough.disputePath).panel.cases
      (Walkthrough.escrow 0)) := by
  refine vote_cap (S := Walkthrough.panel)
    (Walkthrough.run 600 (by decide) Walkthrough.disputePath (by decide)) (by decide) ?_
  rintro a ⟨entry, member, _, registered⟩ _
  exact Walkthrough.enrolled.1 entry member a registered

/-! ### A registry of three is not enough -/

/-- The cap for every run whose registry never holds more than three arbiters. -/
def CappedByCount (d : Deployment) : Prop :=
  ∀ start history w, Run d start history w →
    (∀ entry ∈ history, entry.1.registry.arbiterCount ≤ 3) → w.registry.arbiterCount ≤ 3 →
    ∀ e, VoteCap (w.panel.cases e)

namespace Walkthrough

def arbiter4 : Address := 16
def arbiter5 : Address := 17

/-- One seat of the registry passes from `leaving` to `joining`. -/
def replace (leaving joining : Address) (timestamp : Nat) : List Tx :=
  [⟨⟨deployer, timestamp⟩, .setArbiter leaving false⟩,
   ⟨⟨deployer, timestamp⟩, .setArbiter joining true⟩]

/-- The third seat changes hands in the commit window and back in the reveal window. -/
def rotation : List Tx :=
  disputed ++
  [⟨⟨arbiter1, 62⟩, .commit (escrow 0) (commitment arbiter1 1 21)⟩,
   ⟨⟨arbiter2, 62⟩, .commit (escrow 0) (commitment arbiter2 1 22)⟩,
   ⟨⟨arbiter3, 62⟩, .commit (escrow 0) (commitment arbiter3 2 23)⟩] ++
  replace arbiter3 arbiter4 62 ++
  [⟨⟨arbiter4, 62⟩, .commit (escrow 0) (commitment arbiter4 2 24)⟩] ++
  replace arbiter4 arbiter5 62 ++
  [⟨⟨arbiter5, 62⟩, .commit (escrow 0) (commitment arbiter5 2 25)⟩,
   ⟨⟨arbiter5, 123⟩, .reveal (escrow 0) 2 25⟩] ++
  replace arbiter5 arbiter4 123 ++
  [⟨⟨arbiter4, 123⟩, .reveal (escrow 0) 2 24⟩] ++
  replace arbiter4 arbiter3 123 ++
  [⟨⟨arbiter3, 123⟩, .reveal (escrow 0) 2 23⟩,
   ⟨⟨arbiter2, 123⟩, .reveal (escrow 0) 1 22⟩,
   ⟨⟨arbiter1, 123⟩, .reveal (escrow 0) 1 21⟩]

theorem timeout_positive : (600 : Uint64) ≠ 0 := by decide

/-- The case after five votes, two for the seller and three for the buyer. -/
def rotated : CaseData := (state 600 timeout_positive rotation).panel.cases (escrow 0)

end Walkthrough

/-- Two votes win over three. -/
theorem rotation_outvotes : ¬ CappedByCount (Walkthrough.deployment 600 (by decide)) ∧
    Walkthrough.rotated.revealCount = 5 ∧ Walkthrough.rotated.releaseVotes = 2 ∧
    Walkthrough.rotated.refundVotes = 3 ∧ outcome Walkthrough.rotated = 0 := by
  constructor
  · intro capped
    have cap := capped _ _ _ (Walkthrough.run 600 (by decide) Walkthrough.rotation (by decide))
      (by decide +kernel) (by decide +kernel) (Walkthrough.escrow 0)
    exact absurd cap.count (by decide +kernel)
  · decide +kernel

end VapiArc.Escrow
