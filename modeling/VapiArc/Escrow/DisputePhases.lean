import VapiArc.Escrow.Cases
import VapiArc.Escrow.Solvency

/-!
# The phases of a dispute

Evidence, commits and reveals follow one another, and the council comes last where
its timeout covers the three windows.
-/
namespace VapiArc.Escrow

open DisputePanel

variable {d : Deployment} {start w : World} {history : History} {e : Address} {c : EscrowV1}

inductive Phase where
  | evidence
  | commit
  | reveal
  deriving DecidableEq

/-- Somebody's call of the phase is accepted at this timestamp. -/
def Phase.Open (d : Deployment) (w : World) (e : Address) (timestamp : Nat) : Phase → Prop
  | .evidence => ∃ sender evidenceHash,
      Accepted d (w, ⟨⟨sender, timestamp⟩, .submitCounterEvidence e evidenceHash⟩)
  | .commit => ∃ sender commitment,
      Accepted d (w, ⟨⟨sender, timestamp⟩, .commit e commitment⟩)
  | .reveal => ∃ sender vote salt, Accepted d (w, ⟨⟨sender, timestamp⟩, .reveal e vote salt⟩)

/-- The instants of a phase by the deadlines that the clone and the case store. -/
def Phase.Within (c : EscrowV1) (k : CaseData) (timestamp : Nat) : Phase → Prop
  | .evidence => timestamp ≤ c.counterEvidenceDeadline.val
  | .commit => k.commitStart.val ≤ timestamp ∧ timestamp < k.commitDeadline.val
  | .reveal => k.commitDeadline.val ≤ timestamp ∧ timestamp < k.revealDeadline.val

theorem Phase.Open.within {timestamp : Nat} {p : Phase} (clone : w.escrows e = some c)
    (accepted : p.Open d w e timestamp) : p.Within c (w.panel.cases e) timestamp := by
  cases p with
  | evidence =>
    obtain ⟨sender, evidenceHash, w', success⟩ := accepted
    obtain ⟨c', found, _, _, inTime, _⟩ := EscrowV1.submitCounterEvidence_ok.mp success
    rw [clone] at found
    cases found
    exact inTime
  | commit =>
    obtain ⟨sender, commitment, w', success⟩ := accepted
    obtain ⟨_, _, _, window, _⟩ := commit_ok.mp success
    exact window
  | reveal =>
    obtain ⟨sender, vote, salt, w', success⟩ := accepted
    obtain ⟨revealable, _⟩ := reveal_ok.mp success
    exact revealable.window

/-- Two phases are open together only at the instant at which the evidence window
ends and the commit window starts, and then these are the two. -/
theorem dispute_phases (run : Run d start history w) (clone : w.escrows e = some c)
    (disputed : c.state = .disputed) (timestamp : Nat) (p q : Phase)
    (first : p.Open d w e timestamp) (second : q.Open d w e timestamp) :
    p = q ∨ p ≠ .reveal ∧ q ≠ .reveal ∧ timestamp = c.counterEvidenceDeadline.val ∧
      timestamp = (w.panel.cases e).commitStart.val := by
  have pending := run.pending clone disputed
  -- both contracts store the same instant as the end of the evidence window
  have boundary := congrArg Fin.val pending.evidence
  have commit := pending.windows.commit
  have long := d.windows.2.1
  have one := first.within clone
  have two := second.within clone
  cases p with
  | evidence =>
    cases q with
    | evidence => exact .inl rfl
    | commit =>
      simp only [Phase.Within] at one two
      exact .inr ⟨by decide, by decide, by omega, by omega⟩
    | reveal => simp only [Phase.Within] at one two; omega
  | commit =>
    cases q with
    | evidence =>
      simp only [Phase.Within] at one two
      exact .inr ⟨by decide, by decide, by omega, by omega⟩
    | commit => exact .inl rfl
    | reveal => simp only [Phase.Within] at one two; omega
  | reveal =>
    cases q with
    | evidence => simp only [Phase.Within] at one two; omega
    | commit => simp only [Phase.Within] at one two; omega
    | reveal => exact .inl rfl

section Boundary

/-- The disputed clone of the walkthrough, in its first minute of dispute. -/
abbrev disputedWorld : World := Walkthrough.state 600 (by decide) Walkthrough.disputed

theorem disputedWorld_stored : (disputedWorld.escrows (Walkthrough.escrow 0)).isSome = true := by
  decide

theorem evidence_open : Phase.evidence.Open (Walkthrough.deployment 600 (by decide)) disputedWorld
    (Walkthrough.escrow 0) 61 :=
  ⟨Walkthrough.seller, 9, by decide⟩

theorem commit_open : Phase.commit.Open (Walkthrough.deployment 600 (by decide)) disputedWorld
    (Walkthrough.escrow 0) 61 :=
  ⟨Walkthrough.arbiter1, 5, by decide⟩

/-- At the boundary itself. -/
theorem dispute_phases_walkthrough :
    Phase.evidence = .commit ∨ Phase.evidence ≠ .reveal ∧ Phase.commit ≠ .reveal ∧
      61 = ((disputedWorld.escrows (Walkthrough.escrow 0)).get
        disputedWorld_stored).counterEvidenceDeadline.val ∧
      61 = (disputedWorld.panel.cases (Walkthrough.escrow 0)).commitStart.val :=
  dispute_phases (Walkthrough.run 600 (by decide) Walkthrough.disputed (by decide))
    (Option.some_get _).symm (by decide) 61 .evidence .commit evidence_open commit_open

/-- No two phases are ever open together. -/
def PhasesApart (d : Deployment) : Prop :=
  ∀ start history w, Run d start history w → ∀ e c, w.escrows e = some c → c.state = .disputed →
    ∀ timestamp p q, Phase.Open d w e timestamp p → Phase.Open d w e timestamp q → p = q

/-- The counterparty and an arbiter are both accepted at the boundary. -/
theorem phases_not_apart : ¬ PhasesApart (Walkthrough.deployment 600 (by decide)) := by
  intro apart
  have same := apart _ _ _ (Walkthrough.run 600 (by decide) Walkthrough.disputed (by decide))
    (Walkthrough.escrow 0) _ (Option.some_get disputedWorld_stored).symm (by decide) 61
    .evidence .commit evidence_open commit_open
  cases same

end Boundary

/-! ### The council -/

/-- A resolution by the council is accepted only after the reveal window. -/
def CouncilWaits (d : Deployment) : Prop :=
  ∀ start history w, Run d start history w → ∀ e tx o, w.factory.isEscrow e = true →
    Admissible d w tx → tx.msg.sender = d.council → tx.call = .resolveDispute e o →
    Accepted d (w, tx) → (w.panel.cases e).revealDeadline.val ≤ tx.msg.timestamp

/-- The calls of arbiters on a case. -/
inductive Call.Ballots (e : Address) : Call → Prop
  | commit {commitment : Bytes32} : Ballots e (.commit e commitment)
  | reveal {vote : Uint8} {salt : Bytes32} : Ballots e (.reveal e vote salt)

/-- No arbiter's call is accepted for a clone that is not under dispute. -/
def PanelStops (d : Deployment) : Prop :=
  ∀ start history w, Run d start history w → ∀ e c tx, w.factory.isEscrow e = true →
    w.escrows e = some c → c.state ≠ .disputed → Admissible d w tx → tx.call.Ballots e →
    ¬ Accepted d (w, tx)

/-- A case that takes no more ballots. -/
def CaseData.Ended (k : CaseData) (clock : Nat) : Prop :=
  k.commitDeadline = 0 ∨ k.executed = true ∨
    k.commitDeadline.val ≤ clock ∧ k.revealDeadline.val ≤ clock

theorem CaseData.Ended.later {k : CaseData} {clock clock' : Nat} (ended : k.Ended clock)
    (later : clock ≤ clock') : k.Ended clock' := by
  rcases ended with unopened | executed | past
  · exact .inl unopened
  · exact .inr (.inl executed)
  · exact .inr (.inr ⟨Nat.le_trans past.1 later, Nat.le_trans past.2 later⟩)

/-- The deadlock timeout covers the three windows of the panel. -/
def Setup.Fits (s : Setup) : Prop :=
  s.evidenceWindow.val + s.commitWindow.val + s.revealWindow.val ≤ s.deadlockTimeout.val

/-- A case has ended when the council may rule. -/
theorem Pending.ended {k : CaseData} {timestamp : Nat} (fits : d.Fits) (pending : Pending d c k)
    (late : c.disputedAt.val + d.deadlockTimeout.val ≤ timestamp) :
    k.commitDeadline.val ≤ timestamp ∧ k.revealDeadline.val ≤ timestamp := by
  have evidence := pending.windows.evidence
  have commit := pending.windows.commit
  have reveal := pending.windows.reveal
  unfold Setup.Fits at fits
  exact ⟨by omega, by omega⟩

/-- The case of a resolved clone is over. -/
theorem JointMove.ended {tx : Tx} {o : Option EscrowV1} {k : CaseData} (fits : d.Fits)
    (move : JointMove d w tx e o k) (coupled : Coupled d (w.escrows e) (w.panel.cases e))
    (admissible : Admissible d w tx)
    (before : ∀ b, w.escrows e = some b → b.state = .resolved → (w.panel.cases e).Ended w.clock) :
    ∀ c, o = some c → c.state = .resolved → k.Ended tx.msg.timestamp := by
  intro c same resolved
  cases move with
  | still => exact (before c same resolved).later admissible.1
  | calm _ after =>
    cases same
    exact absurd resolved after.2
  | disputed =>
    cases same
    cases resolved
  | countered _ state =>
    cases same
    rw [state] at resolved
    cases resolved
  | revealed revealable counted =>
    -- a resolved clone's case is over, so this reveal was not accepted
    rcases (before c same resolved).later admissible.1 with unopened | executed | past
    · exact absurd unopened revealable.known
    · rw [revealable.pending] at executed
      cases executed
    · exact absurd past.2 (Nat.not_le_of_lt revealable.window.2)
  | @settled b result clone authority =>
    cases same
    have calm {s : State} (state : b.state = s) (calm : s.Calm) :
        (w.panel.cases e).Ended tx.msg.timestamp := by
      have before : ((w.escrows e).map EscrowV1.state).getD .none = s := by
        rw [clone]
        exact state
      rw [coupled.calm (before ▸ calm)]
      exact .inl rfl
    cases authority with
    | released _ state _ => exact calm state .submitted
    | refunded _ state _ => exact calm rfl (.of_working state)
    | timedOut _ state _ => exact calm state .locked
    | finalized _ state _ => exact calm state .submitted
    | councilRuled _ state _ late _ _ =>
      -- the council's ruling itself comes after the windows
      exact .inr (.inr ((coupled.disputed b clone state).ended fits late))
  | executed clone state due => exact .inr (.inl rfl)
  | executedElsewhere foreign due =>
    rw [foreign] at same
    cases same

theorem Run.ended (run : Run d start history w) (fits : d.Fits) (address : d.CloneAddress e)
    (clone : w.escrows e = some c) (resolved : c.state = .resolved) :
    (w.panel.cases e).Ended w.clock := by
  have both : Coupled d (w.escrows e) (w.panel.cases e) ∧
      ∀ c, w.escrows e = some c → c.state = .resolved → (w.panel.cases e).Ended w.clock := by
    refine run.invariant (fun v => Coupled d (v.escrows e) (v.panel.cases e) ∧
      ∀ c, v.escrows e = some c → c.state = .resolved → (v.panel.cases e).Ended v.clock) ?_ ?_
    · intro genesis
      refine ⟨(Run.mk genesis .refl).coupled address, fun c clone resolved => ?_⟩
      obtain ⟨_, rfl⟩ := genesis.blank clone
      cases resolved
    · rintro v t v' _ ⟨coupled, ended⟩ admissible change
      have move := change.joint admissible.2 address
      exact ⟨move.coupled coupled, move.ended fits coupled admissible ended⟩
  exact both.2 c clone resolved

/-- No ballot is accepted in a case that is over. -/
theorem CaseData.Ended.closed {tx : Tx} (ended : (w.panel.cases e).Ended tx.msg.timestamp)
    (ballot : tx.call.Ballots e) : ¬ Accepted d (w, tx) := by
  rintro ⟨w', success⟩
  obtain ⟨msg, call⟩ := tx
  cases ballot with
  | commit =>
    obtain ⟨_, known, pending, window, _⟩ := commit_ok.mp success
    rcases ended with unopened | executed | past
    · exact known unopened
    · rw [pending] at executed
      cases executed
    · exact Nat.not_le_of_lt window.2 past.1
  | reveal =>
    obtain ⟨revealable, _⟩ := reveal_ok.mp success
    rcases ended with unopened | executed | past
    · exact revealable.known unopened
    · rw [revealable.pending] at executed
      cases executed
    · exact Nat.not_le_of_lt revealable.window.2 past.2

/-- Where the deadlock timeout covers the panel's windows, the council comes last. -/
theorem council_waits (fits : d.Fits) : CouncilWaits d ∧ PanelStops d := by
  constructor
  · intro start history w run e tx o listed admissible council call accepted
    obtain ⟨w', success⟩ := accepted
    obtain ⟨msg, _⟩ := tx
    cases call
    obtain ⟨c, clone, disputed, _, resolver, _⟩ := EscrowV1.resolveDispute_ok.mp success
    -- the council is late, and the deadlock timeout covers the three windows
    have late := (resolver.resolve_left admissible.2.ne_panel).2
    exact ((run.pending clone disputed).ended fits late).2
  · intro start history w run e c tx listed clone left admissible ballot
    have facts := run.registered.listed e c ((run.registered.deployed e).mp listed).1 clone
    have address := facts.agreement.clone
    refine CaseData.Ended.closed ?_ ballot
    -- a resolved clone's case is over; any other undisputed clone has none
    by_cases resolved : c.state = .resolved
    · exact (run.ended fits address clone resolved).later admissible.1
    · have blank : w.panel.cases e = {} :=
        (run.coupled address).calm (by rw [clone]; exact ⟨left, resolved⟩)
      rw [blank]
      exact .inl rfl

/-- The script's defaults. -/
theorem council_waits_walkthrough :
    CouncilWaits (Walkthrough.deployment 600 (by decide)) ∧
      PanelStops (Walkthrough.deployment 600 (by decide)) :=
  council_waits (by unfold Setup.Fits; decide)

/-- The council's ruling in the first minute of evidence. -/
abbrev earlyRuling : Tx :=
  ⟨⟨Walkthrough.deployer, 2⟩, .resolveDispute (Walkthrough.escrow 0) 0⟩

abbrev ruledWorld : World :=
  Walkthrough.state 1 (by decide) (Walkthrough.disputed ++ [earlyRuling])

theorem ruledWorld_stored : (ruledWorld.escrows (Walkthrough.escrow 0)).isSome = true := by decide

/-- The constructors also accept a timeout of one second. The council then rules
before any arbiter votes, and a commit on the resolved order is still accepted. -/
theorem council_preempts : ¬ CouncilWaits (Walkthrough.deployment 1 (by decide)) ∧
    ¬ PanelStops (Walkthrough.deployment 1 (by decide)) := by
  constructor
  · intro waits
    have late := waits _ _ _ (Walkthrough.run 1 (by decide) Walkthrough.disputed (by decide))
      (Walkthrough.escrow 0) earlyRuling 0 (by decide)
      ⟨by decide, Walkthrough.external 1 (by decide) (by decide) (by decide)⟩ rfl rfl (by decide)
    exact absurd late (by decide)
  · intro stops
    have refused := stops _ _ _
      (Walkthrough.run 1 (by decide) (Walkthrough.disputed ++ [earlyRuling]) (by decide))
      (Walkthrough.escrow 0) _ ⟨⟨Walkthrough.arbiter1, 61⟩, .commit (Walkthrough.escrow 0) 5⟩
      (by decide) (Option.some_get ruledWorld_stored).symm (by decide)
      ⟨by decide, Walkthrough.external 1 (by decide) (by decide) (by decide)⟩ .commit
    exact refused (by decide)

end VapiArc.Escrow
