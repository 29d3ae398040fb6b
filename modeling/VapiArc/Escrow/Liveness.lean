import VapiArc.Escrow.Cases
import VapiArc.Escrow.Solvency

/-!
# No stuck funds

Every state that holds funds has a call that anybody can make once a deadline is
over, and that call cannot revert: the clone is covered, its terms are sound, and
its case is pending when it is disputed.
-/
namespace VapiArc.Escrow

open DisputePanel

variable {d : Deployment} {start w : World} {history : History} {e : Address} {c : EscrowV1}

/-- A funded clone can be paid out. -/
theorem Listed.payable (listed : Listed d e c) (live : c.state.Live) : Payable d e c :=
  ⟨(listed.funded live).1, listed.agreement.buyer.1, listed.agreement.seller.1,
    listed.agreement.token⟩

/-- Whatever the panel decided, the escrow understands it. -/
theorem outcome_valid (k : CaseData) : outcome k ≤ 2 ∧
    ∃ result, Resolution.ofNat? ((outcome k).val + 1) = some result := by
  unfold outcome
  split
  next => exact ⟨by decide, .release, rfl⟩
  next =>
    split
    next => exact ⟨by decide, .refund, rfl⟩
    next => exact ⟨by decide, .split, rfl⟩

/-- A covered clone with a pending case can be executed once the reveal window is over. -/
theorem execute_succeeds (msg : Msg) (clone : w.escrows e = some c) (state : c.state = .disputed)
    (pending : Pending d c (w.panel.cases e))
    (ended : (w.panel.cases e).revealDeadline.val ≤ msg.timestamp) (payable : Payable d e c)
    (admits : Admits d w.token e c) (covered : c.amount.val ≤ w.token.balanceOf e) :
    ∃ w', DisputePanel.execute d msg w e = .ok w' := by
  -- the settlement runs in the state in which the case is marked already
  let marked := w.setCase e { w.panel.cases e with executed := true }
  obtain ⟨small, result, ruling⟩ := outcome_valid (w.panel.cases e)
  obtain ⟨w', settled⟩ := settle_succeeds (w := marked) ⟨d.panel, msg.timestamp⟩ result payable
    admits covered
  have resolves : EscrowV1.resolveDispute d ⟨d.panel, msg.timestamp⟩ marked e
      (outcome (w.panel.cases e)) = .ok w' :=
    EscrowV1.resolveDispute_ok.mpr ⟨c, clone, state, small, .inl rfl, result, ruling, settled⟩
  refine ⟨w', DisputePanel.execute_ok.mpr ⟨⟨pending.known, pending.unexecuted, .inr ended⟩, ?_⟩⟩
  left
  exact ⟨by simp [clone], resolves⟩

/-- A funded clone has an exit in every state, at every time after the deadline that
the state waits for, for every caller. -/
theorem no_stuck_funds (run : Run d start history w) (clone : w.escrows e = some c)
    (admits : Admits d w.token e c) :
    (c.state = .locked → ∀ msg, c.workDeadline.val < msg.timestamp →
      Accepted d (w, ⟨msg, .timeoutRefund e⟩)) ∧
    (c.state = .submitted → ∀ msg, c.reviewDeadline.val < msg.timestamp →
      Accepted d (w, ⟨msg, .finalize e⟩)) ∧
    (c.state = .disputed → ∀ msg, (w.panel.cases e).revealDeadline.val ≤ msg.timestamp →
      Accepted d (w, ⟨msg, .execute e⟩)) := by
  have exit (live : c.state.Live) : Payable d e c ∧ c.amount.val ≤ w.token.balanceOf e := by
    have listed := run.registered.clone clone live.ne.2.2.2
    exact ⟨listed.payable live, run.solvent.covered e c clone live⟩
  refine ⟨fun locked msg late => ?_, fun submitted msg late => ?_, fun disputed msg ended => ?_⟩
  · obtain ⟨payable, covered⟩ := exit (.inl locked)
    obtain ⟨w', settled⟩ := settle_succeeds msg .refund payable admits covered
    exact ⟨w', EscrowV1.timeoutRefund_ok.mpr ⟨c, clone, locked, late, settled⟩⟩
  · obtain ⟨payable, covered⟩ := exit (.inr (.inl submitted))
    obtain ⟨w', settled⟩ := settle_succeeds msg .release payable admits covered
    exact ⟨w', EscrowV1.finalize_ok.mpr ⟨c, clone, submitted, late, settled⟩⟩
  · obtain ⟨payable, covered⟩ := exit (.inr (.inr disputed))
    exact execute_succeeds msg clone disputed (run.pending clone disputed) ended payable admits
      covered

/-- The walkthrough's disputed order, if no arbiter ever votes. -/
theorem no_stuck_funds_walkthrough :
    Accepted (Walkthrough.deployment 600 (by decide))
      (Walkthrough.state 600 (by decide) Walkthrough.disputed,
        ⟨⟨Walkthrough.deployer, 181⟩, .execute (Walkthrough.escrow 0)⟩) :=
  let stored : ((Walkthrough.state 600 (by decide) Walkthrough.disputed).escrows
    (Walkthrough.escrow 0)).isSome = true := by decide
  (no_stuck_funds (Walkthrough.run 600 (by decide) Walkthrough.disputed (by decide))
    (Option.some_get stored).symm (fun _ => ⟨rfl, rfl, rfl⟩)).2.2 (by decide) _ (by decide)

end VapiArc.Escrow
