import VapiArc.Escrow.Execution
import VapiArc.Escrow.Settlement

/-! # When each function succeeds, and what it leaves -/
namespace VapiArc.Escrow

open Checked Erc20 Function

variable {d : Deployment} {msg : Msg} {w w' : World} {e : Address}

@[simp] theorem timestamp64_ok (error : Revert) (now64 : Uint64) :
    timestamp64 error msg = .ok now64 ↔ msg.timestamp = now64.val := by
  simp [timestamp64]

@[simp] theorem onlyOwner_ok (owner : Address) (u : Unit) :
    onlyOwner owner msg = .ok u ↔ msg.sender = owner := by
  simp [onlyOwner]

namespace DisputePanel

@[simp] theorem caseOf_ok (dispute : CaseData) : caseOf w e = .ok dispute ↔
    (w.panel.cases e).commitDeadline ≠ 0 ∧ w.panel.cases e = dispute := by
  simp [caseOf]

/-- The windows of a case that is opened at `timestamp`. -/
structure Windows (d : Deployment) (timestamp : Nat) (start commitEnd revealEnd : Uint64) :
    Prop where
  evidence : start.val = timestamp + d.evidenceWindow.val
  commit : commitEnd.val = start.val + d.commitWindow.val
  reveal : revealEnd.val = commitEnd.val + d.revealWindow.val

/-- The case that `open` stores over the unopened one. -/
def opened (dispute : CaseData) (commitStart commitDeadline revealDeadline : Uint64) : CaseData :=
  { dispute with commitStart, commitDeadline, revealDeadline }

theorem open_ok : DisputePanel.open d msg w = .ok w' ↔
    w.panel.factory ≠ 0 ∧ isEscrowOf d msg w w.panel.factory msg.sender = true ∧
    (w.panel.cases msg.sender).commitDeadline = 0 ∧
    ∃ start commitEnd revealEnd, Windows d msg.timestamp start commitEnd revealEnd ∧
      w.setCase msg.sender (opened (w.panel.cases msg.sender) start commitEnd revealEnd) = w' := by
  simp only [DisputePanel.open, timestamp, add, bind_ok, revertIf_ok, exists_const, timestamp64_ok,
    Word.checkedAdd_ok, pure_ok, not_not, Bool.not_eq_false, ne_eq]
  constructor
  · rintro ⟨h1, h2, h3, now64, h4, start, h5, commitEnd, h6, revealEnd, h7, rfl⟩
    exact ⟨h1, h2, h3, start, commitEnd, revealEnd, ⟨by omega, by omega, by omega⟩, rfl⟩
  · rintro ⟨h1, h2, h3, start, commitEnd, revealEnd, ⟨h5, h6, h7⟩, rfl⟩
    have small : msg.timestamp < 2 ^ 64 := by omega
    exact ⟨h1, h2, h3, ⟨msg.timestamp, small⟩, rfl, start, by simp only; omega, commitEnd,
      by omega, revealEnd, by omega, rfl⟩

theorem commit_ok {commitment : Bytes32} : commit msg w e commitment = .ok w' ↔
    w.registry.arbiters msg.sender = true ∧ (w.panel.cases e).commitDeadline ≠ 0 ∧
    (w.panel.cases e).executed = false ∧
    ((w.panel.cases e).commitStart.val ≤ msg.timestamp ∧
      msg.timestamp < (w.panel.cases e).commitDeadline.val) ∧
    w.panel.commitments e msg.sender = 0 ∧ commitment ≠ 0 ∧
    w.setCommitment e msg.sender commitment = w' := by
  simp [commit, not_or, and_assoc]

/-- The tally after one more vote. -/
inductive Counted (dispute : CaseData) (vote : Uint8) : CaseData → Prop
  | release {revealCount releaseVotes : Uint8} :
      vote = releaseVote → dispute.revealCount.val + 1 = revealCount.val →
      dispute.releaseVotes.val + 1 = releaseVotes.val →
      Counted dispute vote { dispute with revealCount, releaseVotes }
  | refund {revealCount refundVotes : Uint8} :
      vote = refundVote → dispute.revealCount.val + 1 = revealCount.val →
      dispute.refundVotes.val + 1 = refundVotes.val →
      Counted dispute vote { dispute with revealCount, refundVotes }
  | split {revealCount splitVotes : Uint8} :
      vote ≠ releaseVote → vote ≠ refundVote →
      dispute.revealCount.val + 1 = revealCount.val →
      dispute.splitVotes.val + 1 = splitVotes.val →
      Counted dispute vote { dispute with revealCount, splitVotes }

theorem countVote_counted {dispute dispute' : CaseData} {vote : Uint8}
    (h : countVote dispute vote = .ok dispute') : Counted dispute vote dispute' := by
  simp only [countVote, bind_ok, Word.increment_ok, ite_ok, pure_ok] at h
  obtain ⟨count, counted, ⟨isRelease, votes, voted, rfl⟩ |
    ⟨notRelease, ⟨isRefund, votes, voted, rfl⟩ | ⟨notRefund, votes, voted, rfl⟩⟩⟩ := h
  · exact .release isRelease counted voted
  · exact .refund isRefund counted voted
  · exact .split notRelease notRefund counted voted

/-- The windows, the flag and the tally's growth by one, whichever vote it was. -/
theorem Counted.frame {dispute dispute' : CaseData} {vote : Uint8}
    (h : Counted dispute vote dispute') :
    dispute'.commitStart = dispute.commitStart ∧ dispute'.commitDeadline = dispute.commitDeadline ∧
    dispute'.revealDeadline = dispute.revealDeadline ∧ dispute'.executed = dispute.executed ∧
    dispute'.revealCount.val = dispute.revealCount.val + 1 := by
  cases h with
  | release _ counted _ => exact ⟨rfl, rfl, rfl, rfl, counted.symm⟩
  | refund _ counted _ => exact ⟨rfl, rfl, rfl, rfl, counted.symm⟩
  | split _ _ counted _ => exact ⟨rfl, rfl, rfl, rfl, counted.symm⟩

/-- An arbiter's vote on a case that can be revealed now. -/
structure Revealable (d : Deployment) (msg : Msg) (w : World) (e : Address) (vote : Uint8)
    (salt : Bytes32) : Prop where
  arbiter : w.registry.arbiters msg.sender = true
  known : (w.panel.cases e).commitDeadline ≠ 0
  pending : (w.panel.cases e).executed = false
  window : (w.panel.cases e).commitDeadline.val ≤ msg.timestamp ∧
    msg.timestamp < (w.panel.cases e).revealDeadline.val
  valid : releaseVote ≤ vote ∧ vote ≤ splitVote
  unrevealed : w.panel.revealed e msg.sender = false
  committed : w.panel.commitments e msg.sender ≠ 0
  binding : commitmentHash d e msg.sender vote salt = w.panel.commitments e msg.sender

theorem reveal_ok {vote : Uint8} {salt : Bytes32} : reveal d msg w e vote salt = .ok w' ↔
    Revealable d msg w e vote salt ∧
    ∃ dispute, countVote (w.panel.cases e) vote = .ok dispute ∧
      (w.setRevealed e msg.sender).setCase e dispute = w' := by
  simp only [reveal, bind_ok, revertIf_ok, exists_const, caseOf_ok, pure_ok, not_or, not_not,
    Bool.not_eq_true, Bool.not_eq_false, ne_eq, not_lt, not_le]
  constructor
  · rintro ⟨h1, dispute, ⟨h2, rfl⟩, h3, h4, h5, h6, ⟨h7, h8⟩, dispute', h9, rfl⟩
    exact ⟨⟨h1, h2, h3, h4, h5, h6, h7, h8⟩, dispute', h9, rfl⟩
  · rintro ⟨⟨h1, h2, h3, h4, h5, h6, h7, h8⟩, dispute', h9, rfl⟩
    exact ⟨h1, _, ⟨h2, rfl⟩, h3, h4, h5, h6, ⟨h7, h8⟩, dispute', h9, rfl⟩

/-- `execute` may mark the case: all votes are in or the reveal window is over. -/
structure Executable (timestamp : Nat) (dispute : CaseData) : Prop where
  known : dispute.commitDeadline ≠ 0
  pending : dispute.executed = false
  due : panelSize ≤ dispute.revealCount ∨ dispute.revealDeadline.val ≤ timestamp

theorem markExecuted_ok {o : Uint8} : markExecuted msg w e = .ok (o, w') ↔
    Executable msg.timestamp (w.panel.cases e) ∧ outcome (w.panel.cases e) = o ∧
    w.setCase e { w.panel.cases e with executed := true } = w' := by
  simp only [markExecuted, bind_ok, revertIf_ok, exists_const, caseOf_ok, pure_ok, not_and_or,
    Bool.not_eq_true, not_lt, Prod.mk.injEq]
  constructor
  · rintro ⟨dispute, ⟨h1, rfl⟩, h2, h3, rfl, rfl⟩
    exact ⟨⟨h1, h2, h3⟩, rfl, rfl⟩
  · rintro ⟨⟨h1, h2, h3⟩, rfl, rfl⟩
    exact ⟨_, ⟨h1, rfl⟩, h2, h3, rfl, rfl⟩

end DisputePanel

namespace EscrowV1

@[simp] theorem requireState_ok (expected actual : State) (u : Unit) :
    requireState expected actual = .ok u ↔ actual = expected := by
  simp [requireState]

@[simp] theorem requireLive_ok (actual : State) (u : Unit) :
    requireLive actual = .ok u ↔ actual = .locked ∨ actual = .submitted := by
  simp only [requireLive, revertIf_ok]
  tauto

@[simp] theorem deadline_ok (duration result : Uint64) :
    deadline msg duration = .ok result ↔ msg.timestamp + duration.val = result.val := by
  simp only [deadline, timestamp, add, bind_ok, timestamp64_ok, Word.checkedAdd_ok]
  constructor
  · rintro ⟨now64, h1, h2⟩
    omega
  · intro sum
    exact ⟨⟨msg.timestamp, by omega⟩, rfl, sum⟩

/-- The storage that `initialize` leaves in a fresh clone. -/
def offered (seller buyer token : Address) (amount : Uint256) (offerDeadline : Uint64)
    (workDuration reviewWindow : Uint64) (termsHash : Bytes32) : EscrowV1 :=
  { seller, buyer, token, amount, offerDeadline, workDuration, reviewWindow, termsHash,
    state := .created }

/-- Only the factory can initialize. -/
theorem initializeEscrow_reverts (outsider : msg.sender ≠ d.factory) (seller buyer token : Address)
    (amount : Uint256) (offerDeadline workDuration reviewWindow : Uint64) (termsHash : Bytes32) :
    initializeEscrow d msg w e seller buyer token amount offerDeadline workDuration reviewWindow
      termsHash ≠ .ok w' := by
  intro h
  simp only [initializeEscrow, bind_ok, revertIf_ok, exists_const, not_not] at h
  obtain ⟨_, -, isFactory, -⟩ := h
  exact outsider isFactory

/-- A funding that succeeded: the escrow's balance grew by exactly its amount. -/
structure Funding (d : Deployment) (msg : Msg) (w : World) (e : Address) (c : EscrowV1)
    (l : Ledger Address) (workDeadline : Uint64) : Prop where
  clone : w.escrows e = some c
  state : c.state = .created
  inTime : msg.timestamp ≤ c.offerDeadline.val
  token : c.token = d.paymentToken
  receiver : e ≠ 0
  received : l.balanceOf e = w.token.balanceOf e + c.amount.val
  paid : Ledger.Paid w.token l c.buyer e c.amount.val
  keeps : ∀ a, d.CloneAddress a → Ledger.Keeps w.token l a
  deadline : msg.timestamp + c.workDuration.val = workDeadline.val

theorem finishFunding_ok {c : EscrowV1} {before : Nat} :
    finishFunding msg w e c before = .ok w' ↔
      w.token.balanceOf e = before + c.amount.val ∧
      ∃ workDeadline : Uint64, msg.timestamp + c.workDuration.val = workDeadline.val ∧
        w.setEscrow e { c with workDeadline, state := .locked } = w' := by
  simp only [finishFunding, bind_ok, revertIf_ok, exists_const, deadline_ok, pure_ok, not_lt,
    not_not]
  constructor
  · rintro ⟨h1, h2, h3⟩
    exact ⟨by omega, h3⟩
  · rintro ⟨h1, h2⟩
    exact ⟨by omega, by omega, h2⟩

theorem depositFunds_funding (h : depositFunds d msg w e = .ok w') :
    ∃ c l workDeadline, Funding d msg w e c l workDeadline ∧
      World.setEscrow { w with token := l } e { c with workDeadline, state := .locked } = w' := by
  simp only [depositFunds, bind_ok, World.escrowAt_ok, requireState_ok, revertIf_ok, exists_const,
    not_lt, World.onToken_ok, finishFunding_ok] at h
  obtain ⟨c, clone, state, inTime, _, ⟨token, l, moved, rfl⟩, received, workDeadline,
    deadline, rfl⟩ := h
  obtain ⟨m, -, transferred⟩ := (Ledger.transferFrom_ok ..).mp moved
  obtain ⟨-, receiver, -⟩ := (Ledger.transfer_ok ..).mp transferred
  exact ⟨c, l, workDeadline, ⟨clone, state, inTime, token, receiver, received,
    Ledger.transferFrom_paid moved, fun a _ => Ledger.transferFrom_keeps moved, deadline⟩, rfl⟩

theorem fundWithAuthorization_funding {validAfter validBefore : Uint256} {nonce : Bytes32}
    {signature : Bytes}
    (h : fundWithAuthorization d msg w e validAfter validBefore nonce signature = .ok w') :
    ∃ c l workDeadline, Funding d msg w e c l workDeadline ∧
      World.setEscrow { w with token := l } e { c with workDeadline, state := .locked } = w' := by
  simp only [fundWithAuthorization, bind_ok, World.escrowAt_ok, requireState_ok, revertIf_ok,
    exists_const, not_lt, World.onToken_ok, finishFunding_ok] at h
  obtain ⟨c, clone, state, inTime, _, ⟨token, l, moved, rfl⟩, received, workDeadline,
    deadline, rfl⟩ := h
  obtain ⟨-, -, -, -, -, transferred⟩ := (Ledger.receiveWithAuthorization_ok ..).mp moved
  obtain ⟨-, receiver, -⟩ := (Ledger.transfer_ok ..).mp transferred
  refine ⟨c, l, workDeadline, ⟨clone, state, inTime, token, receiver, received,
    Ledger.receiveWithAuthorization_paid moved, fun a isClone => ?_, deadline⟩, rfl⟩
  -- a clone has no key, so it is not the account that signed
  refine Ledger.receiveWithAuthorization_keeps moved ?_
  rintro rfl
  exact d.keyless _ _ _ _ _ _ _ isClone

theorem cancelOffer_ok : cancelOffer msg w e = .ok w' ↔
    ∃ c, w.escrows e = some c ∧ c.state = .created ∧ c.offerDeadline.val < msg.timestamp ∧
      w.setEscrow e { c with state := .expired } = w' := by
  simp [cancelOffer]

theorem submitDelivery_ok {deliveryHash : Bytes32} : submitDelivery msg w e deliveryHash = .ok w' ↔
    ∃ c, w.escrows e = some c ∧ c.state = .locked ∧ msg.sender = c.seller ∧
      msg.timestamp ≤ c.workDeadline.val ∧
      ∃ reviewDeadline : Uint64, msg.timestamp + c.reviewWindow.val = reviewDeadline.val ∧
        w.setEscrow e { c with deliveryHash, reviewDeadline, state := .submitted } = w' := by
  simp [submitDelivery]

theorem releaseFunds_ok : releaseFunds d msg w e = .ok w' ↔
    ∃ c, w.escrows e = some c ∧ c.state = .submitted ∧ msg.sender = c.buyer ∧
      settle d msg w e c .release = .ok w' := by
  simp [releaseFunds]

theorem refundBuyer_ok : refundBuyer d msg w e = .ok w' ↔
    ∃ c, w.escrows e = some c ∧ (c.state = .locked ∨ c.state = .submitted) ∧
      msg.sender = c.seller ∧ settle d msg w e c .refund = .ok w' := by
  simp [refundBuyer]

theorem timeoutRefund_ok : timeoutRefund d msg w e = .ok w' ↔
    ∃ c, w.escrows e = some c ∧ c.state = .locked ∧ c.workDeadline.val < msg.timestamp ∧
      settle d msg w e c .refund = .ok w' := by
  simp [timeoutRefund]

theorem finalize_ok : finalize d msg w e = .ok w' ↔
    ∃ c, w.escrows e = some c ∧ c.state = .submitted ∧ c.reviewDeadline.val < msg.timestamp ∧
      settle d msg w e c .release = .ok w' := by
  simp [finalize]

theorem raiseDispute_ok : raiseDispute d msg w e = .ok w' ↔
    ∃ c, w.escrows e = some c ∧ (c.state = .locked ∨ c.state = .submitted) ∧
      (msg.sender = c.buyer ∨ msg.sender = c.seller) ∧
      ∃ disputedAt counterEvidenceDeadline : Uint64, msg.timestamp = disputedAt.val ∧
        disputedAt.val + d.evidenceWindow.val = counterEvidenceDeadline.val ∧
        DisputePanel.open d ⟨e, msg.timestamp⟩ (w.setEscrow e { c with
          state := .disputed, disputedAt, counterEvidenceDeadline,
          disputeRaisedBy := msg.sender }) = .ok w' := by
  simp only [raiseDispute, timestamp, add, bind_ok, World.escrowAt_ok, requireLive_ok, revertIf_ok,
    exists_const, timestamp64_ok, Word.checkedAdd_ok, not_and_or, not_not]
  constructor
  · rintro ⟨c, clone, live, party, t, h1, t', h2, h3⟩
    exact ⟨c, clone, live, party, t, t', h1, h2, h3⟩
  · rintro ⟨c, clone, live, party, t, t', h1, h2, h3⟩
    exact ⟨c, clone, live, party, t, h1, t', h2, h3⟩

/-- The party that may answer the evidence of a dispute. -/
def counterparty (c : EscrowV1) : Address :=
  if c.disputeRaisedBy = c.buyer then c.seller else c.buyer

theorem submitCounterEvidence_ok : submitCounterEvidence msg w e = .ok w' ↔
    ∃ c, w.escrows e = some c ∧ c.state = .disputed ∧ msg.sender = counterparty c ∧
      msg.timestamp ≤ c.counterEvidenceDeadline.val ∧ c.counterEvidenceSubmitted = false ∧
      w.setEscrow e { c with counterEvidenceSubmitted := true } = w' := by
  simp [submitCounterEvidence, counterparty]

theorem resolveDispute_ok {o : Uint8} : resolveDispute d msg w e o = .ok w' ↔
    ∃ c, w.escrows e = some c ∧ c.state = .disputed ∧ o ≤ 2 ∧
      (msg.sender = d.panel ∨
        msg.sender = d.council ∧ c.disputedAt.val + d.deadlockTimeout.val ≤ msg.timestamp) ∧
      ∃ result, Resolution.ofNat? (o.val + 1) = some result ∧
        settle d msg w e c result = .ok w' := by
  simp only [resolveDispute, bind_ok, World.escrowAt_ok, requireState_ok, revertIf_ok,
    exists_const, demand_ok, not_and_or, not_or, not_not, not_lt]

end EscrowV1

theorem DisputePanel.execute_ok : DisputePanel.execute d msg w e = .ok w' ↔
    Executable msg.timestamp (w.panel.cases e) ∧
    ((w.escrows e).isSome = true ∧
      EscrowV1.resolveDispute d ⟨d.panel, msg.timestamp⟩
        (w.setCase e { w.panel.cases e with executed := true }) e
        (outcome (w.panel.cases e)) = .ok w' ∨
    w.escrows e = none ∧
      d.env.resolveDispute e msg.timestamp (outcome (w.panel.cases e)) = true ∧
      w.setCase e { w.panel.cases e with executed := true } = w') := by
  simp only [DisputePanel.execute, bind_ok, Prod.exists, markExecuted_ok, ite_ok, revertIf_ok,
    exists_const, pure_ok, Bool.not_eq_false]
  constructor
  · rintro ⟨o, w₁, ⟨due, rfl, rfl⟩, ⟨some, settled⟩ | ⟨none, done⟩⟩
    · exact ⟨due, .inl ⟨some, settled⟩⟩
    · exact ⟨due, .inr ⟨by simpa using none, done⟩⟩
  · rintro ⟨due, ⟨some, settled⟩ | ⟨none, done⟩⟩
    · exact ⟨_, _, ⟨due, rfl, rfl⟩, .inl ⟨some, settled⟩⟩
    · exact ⟨_, _, ⟨due, rfl, rfl⟩, .inr ⟨by simp [none], done⟩⟩

end VapiArc.Escrow
