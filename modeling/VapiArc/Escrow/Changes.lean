import VapiArc.Escrow.Specs

/-!
# What a transaction can do

`exec_change` says once, for all entry points, what an accepted transaction did to
the state. Every invariant is derived from it, and no later proof unfolds a
contract function.
-/
namespace VapiArc.Escrow

open Checked Erc20 Function

variable {d : Deployment} {w w' : World} {tx : Tx}

/-- What `createEscrow` checked and computed. -/
structure Creation (d : Deployment) (msg : Msg) (w : World) (buyer token : Address)
    (amount : Uint256) (workDuration reviewWindow : Uint64) (offerDeadline : Uint64)
    (salt : Bytes32) (e : Address) : Prop where
  address : e = d.predictEscrow msg.sender salt
  buyer : buyer ≠ 0 ∧ buyer ≠ msg.sender
  seller : msg.sender ≠ 0
  token : token = d.paymentToken
  amount : amount ≠ 0
  durations : workDuration ≠ 0 ∧ reviewWindow ≠ 0
  deadline : msg.timestamp + d.offerTtl.val = offerDeadline.val
  vacant : e ∉ d.contracts ∧ w.escrows e = none

/-- The registration and the clone's first storage. -/
def World.created (w : World) (e : Address) (c : EscrowV1) : World :=
  { w with escrows := update w.escrows e (some c),
           factory := ⟨update w.factory.isEscrow e true⟩ }

theorem EscrowFactory.createEscrow_ok {msg : Msg} {e buyer token : Address} {amount : Uint256}
    {workDuration reviewWindow : Uint64} {termsHash salt : Bytes32} :
    EscrowFactory.createEscrow d msg w buyer token amount workDuration reviewWindow termsHash salt
        = .ok (e, w') ↔
      ∃ offerDeadline, Creation d msg w buyer token amount workDuration reviewWindow offerDeadline
          salt e ∧
        w.created e (EscrowV1.offered msg.sender buyer token amount offerDeadline workDuration
          reviewWindow termsHash) = w' := by
  simp only [EscrowFactory.createEscrow, EscrowFactory.cloneDeterministic, EscrowFactory.deadline,
    EscrowV1.initializeEscrow, bind_ok, revertIf_ok, exists_const, pure_ok, Prod.exists,
    Prod.mk.injEq, timestamp64_ok, Word.checkedAdd_ok, World.escrowAt_ok, not_or, not_not]
  constructor
  · rintro ⟨⟨h1, h2⟩, h3, h4, ⟨h5, h6⟩, e', w₁, ⟨⟨h7, h8⟩, rfl, rfl⟩, offerDeadline,
      ⟨now64, h9, h10⟩, w₂, ⟨c, h11, -, -, ⟨h12, -⟩, -, -, -, rfl⟩, rfl, rfl⟩
    refine ⟨offerDeadline, ⟨rfl, ⟨h1, h2⟩, h12, h3, h4, ⟨h5, h6⟩, by omega, h7, ?_⟩, ?_⟩
    · simpa using h8
    · have fresh : c = {} := by simpa using h11.symm
      subst fresh
      simp [World.created, World.setEscrow, EscrowV1.offered]
  · rintro ⟨offerDeadline, ⟨rfl, ⟨h1, h2⟩, h12, h3, h4, ⟨h5, h6⟩, h10, h7, h8⟩, rfl⟩
    have small : msg.timestamp < 2 ^ 64 := by omega
    refine ⟨⟨h1, h2⟩, h3, h4, ⟨h5, h6⟩, _, _, ⟨⟨h7, by simp [h8]⟩, rfl, rfl⟩, offerDeadline,
      ⟨⟨msg.timestamp, small⟩, rfl, h10⟩, _, ⟨{}, by simp, trivial, rfl, ⟨h12, h1, ?_⟩, h2, h4,
      ⟨h5, h6⟩, rfl⟩, rfl, ?_⟩
    · rw [h3]; exact d.paymentToken_ne_zero
    · simp [World.created, World.setEscrow, EscrowV1.offered]

theorem Resolution.toUint8_code (r : Resolution) :
    ¬ (r.toUint8 < ReputationRegistryV0.releaseResolution) ∧
      ¬ (ReputationRegistryV0.splitResolution < r.toUint8) ↔ r ≠ .none := by
  cases r <;> decide

theorem State.toUint8_resolved (s : State) :
    s.toUint8 = ReputationRegistryV0.resolvedState ↔ s = .resolved := by
  cases s <;> decide

/-- An attestation: both parties' scores count the settled escrow. -/
structure Attestation (w : World) (e : Address) (c : EscrowV1) (sellerScore buyerScore : Score) :
    Prop where
  registered : w.factory.isEscrow e = true
  fresh : w.reputation.isAttested e = false
  clone : w.escrows e = some c
  state : c.state = .resolved
  resolution : c.resolution ≠ .none
  seller : ReputationRegistryV0.record (w.reputation.scores c.seller) c.resolution.toUint8
    (decide (c.disputedAt ≠ 0)) = .ok sellerScore
  buyer : ReputationRegistryV0.record (update w.reputation.scores c.seller sellerScore c.buyer)
    c.resolution.toUint8 (decide (c.disputedAt ≠ 0)) = .ok buyerScore

def World.attested (w : World) (e : Address) (c : EscrowV1) (sellerScore buyerScore : Score) :
    World :=
  { w with reputation := ⟨update w.reputation.isAttested e true,
      update (update w.reputation.scores c.seller sellerScore) c.buyer buyerScore⟩ }

theorem ReputationRegistryV0.attest_ok {e : Address} : ReputationRegistryV0.attest w e = .ok w' ↔
    ∃ c sellerScore buyerScore, Attestation w e c sellerScore buyerScore ∧
      w.attested e c sellerScore buyerScore = w' := by
  simp only [ReputationRegistryV0.attest, bind_ok, revertIf_ok, exists_const, World.escrowAt_ok,
    pure_ok, not_or, Resolution.toUint8_code, State.toUint8_resolved, not_not, Bool.not_eq_false,
    Bool.not_eq_true, ne_eq]
  constructor
  · rintro ⟨h1, h2, c, h3, h4, h5, s, h6, b, h7, rfl⟩
    exact ⟨c, s, b, ⟨h1, h2, h3, h4, h5, h6, h7⟩, rfl⟩
  · rintro ⟨c, s, b, ⟨h1, h2, h3, h4, h5, h6, h7⟩, rfl⟩
    exact ⟨h1, h2, c, h3, h4, h5, s, h6, b, h7, rfl⟩

/-- The two ways to fund an escrow. -/
inductive Call.Funds (e : Address) : Call → Prop
  | depositFunds : Funds e (.depositFunds e)
  | fundWithAuthorization {validAfter validBefore : Uint256} {nonce : Bytes32}
      {signature : Bytes} :
      Funds e (.fundWithAuthorization e validAfter validBefore nonce signature)

/-- Who may settle an escrow, when, and to which result. -/
inductive Authority (d : Deployment) (tx : Tx) (e : Address) (c : EscrowV1) : Resolution → Prop
  | released : tx.call = .releaseFunds e → c.state = .submitted → tx.msg.sender = c.buyer →
      Authority d tx e c .release
  | refunded : tx.call = .refundBuyer e → c.state = .locked ∨ c.state = .submitted →
      tx.msg.sender = c.seller → Authority d tx e c .refund
  | timedOut : tx.call = .timeoutRefund e → c.state = .locked →
      c.workDeadline.val < tx.msg.timestamp → Authority d tx e c .refund
  | finalized : tx.call = .finalize e → c.state = .submitted →
      c.reviewDeadline.val < tx.msg.timestamp → Authority d tx e c .release
  | councilRuled {o : Uint8} {result : Resolution} : tx.call = .resolveDispute e o →
      c.state = .disputed → tx.msg.sender = d.council →
      c.disputedAt.val + d.deadlockTimeout.val ≤ tx.msg.timestamp →
      Resolution.ofNat? (o.val + 1) = some result → o ≤ 2 → Authority d tx e c result

/-- The clone after a settlement. -/
def EscrowV1.settled (c : EscrowV1) (result : Resolution) : EscrowV1 :=
  { c with state := .resolved, resolution := result }

def World.settled (w : World) (e : Address) (c : EscrowV1) (result : Resolution)
    (l : Ledger Address) : World :=
  { w.setEscrow e (c.settled result) with token := l }

/-- The clone after a dispute is raised. -/
def EscrowV1.disputedBy (c : EscrowV1) (party : Address) (disputedAt deadline : Uint64) :
    EscrowV1 :=
  { c with state := .disputed, disputedAt, counterEvidenceDeadline := deadline,
           disputeRaisedBy := party }

/-- What an accepted transaction did to the state, the clock aside. -/
inductive Change (d : Deployment) (w : World) (tx : Tx) : World → Prop
  | idle : Change d w tx w
  | ledger (l : Ledger Address) (keeps : ∀ a, d.CloneAddress a → Ledger.Keeps w.token l a) :
      Change d w tx { w with token := l }
  | registry (r : ArbiterRegistry) : Change d w tx { w with registry := r }
  | panel (owner factory : Address) :
      Change d w tx { w with panel := { w.panel with owner, factory } }
  | created {e : Address} {buyer token : Address} {amount : Uint256}
      {workDuration reviewWindow : Uint64} {termsHash salt : Bytes32} {offerDeadline : Uint64}
      (call : tx.call = .createEscrow buyer token amount workDuration reviewWindow termsHash salt)
      (creation : Creation d tx.msg w buyer token amount workDuration reviewWindow offerDeadline
        salt e) :
      Change d w tx (w.created e (EscrowV1.offered tx.msg.sender buyer token amount offerDeadline
        workDuration reviewWindow termsHash))
  | funded {e : Address} {c : EscrowV1} {l : Ledger Address} {workDeadline : Uint64}
      (call : tx.call.Funds e) (funding : EscrowV1.Funding d tx.msg w e c l workDeadline) :
      Change d w tx
        (World.setEscrow { w with token := l } e { c with workDeadline, state := .locked })
  | cancelled {e : Address} {c : EscrowV1} (call : tx.call = .cancelOffer e)
      (clone : w.escrows e = some c) (state : c.state = .created)
      (late : c.offerDeadline.val < tx.msg.timestamp) :
      Change d w tx (w.setEscrow e { c with state := .expired })
  | delivered {e : Address} {c : EscrowV1} {deliveryHash : Bytes32} {reviewDeadline : Uint64}
      (call : tx.call = .submitDelivery e deliveryHash) (clone : w.escrows e = some c)
      (state : c.state = .locked) (seller : tx.msg.sender = c.seller)
      (inTime : tx.msg.timestamp ≤ c.workDeadline.val)
      (deadline : tx.msg.timestamp + c.reviewWindow.val = reviewDeadline.val) :
      Change d w tx (w.setEscrow e { c with deliveryHash, reviewDeadline, state := .submitted })
  | disputed {e : Address} {c : EscrowV1} {evidenceHash : Bytes32}
      {disputedAt deadline start commitEnd revealEnd : Uint64}
      (call : tx.call = .raiseDispute e evidenceHash) (clone : w.escrows e = some c)
      (state : c.state = .locked ∨ c.state = .submitted)
      (party : tx.msg.sender = c.buyer ∨ tx.msg.sender = c.seller)
      (raised : disputedAt.val = tx.msg.timestamp)
      (evidence : deadline.val = tx.msg.timestamp + d.evidenceWindow.val)
      (unopened : (w.panel.cases e).commitDeadline = 0)
      (windows : DisputePanel.Windows d tx.msg.timestamp start commitEnd revealEnd) :
      Change d w tx ((w.setEscrow e (c.disputedBy tx.msg.sender disputedAt deadline)).setCase e
        (DisputePanel.opened (w.panel.cases e) start commitEnd revealEnd))
  | countered {e : Address} {c : EscrowV1} {evidenceHash : Bytes32}
      (call : tx.call = .submitCounterEvidence e evidenceHash) (clone : w.escrows e = some c)
      (state : c.state = .disputed) (party : tx.msg.sender = EscrowV1.counterparty c)
      (inTime : tx.msg.timestamp ≤ c.counterEvidenceDeadline.val)
      (first : c.counterEvidenceSubmitted = false) :
      Change d w tx (w.setEscrow e { c with counterEvidenceSubmitted := true })
  | settled {e : Address} {c : EscrowV1} {result : Resolution} {l : Ledger Address}
      (clone : w.escrows e = some c) (authority : Authority d tx e c result)
      (settlement : Settlement d e c.buyer c.seller (Payout.of result c.amount.val) w.token l) :
      Change d w tx (w.settled e c result l)
  | executed {e : Address} {c : EscrowV1} {result : Resolution} {l : Ledger Address}
      (call : tx.call = .execute e) (clone : w.escrows e = some c) (state : c.state = .disputed)
      (due : DisputePanel.Executable tx.msg.timestamp (w.panel.cases e))
      (ruling : Resolution.ofNat? ((DisputePanel.outcome (w.panel.cases e)).val + 1) = some result)
      (settlement : Settlement d e c.buyer c.seller (Payout.of result c.amount.val) w.token l) :
      Change d w tx ((w.setCase e { w.panel.cases e with executed := true }).settled e c result l)
  | executedElsewhere {e : Address} (call : tx.call = .execute e) (foreign : w.escrows e = none)
      (due : DisputePanel.Executable tx.msg.timestamp (w.panel.cases e)) :
      Change d w tx (w.setCase e { w.panel.cases e with executed := true })
  | openedElsewhere {start commitEnd revealEnd : Uint64}
      (unopened : (w.panel.cases tx.msg.sender).commitDeadline = 0)
      (windows : DisputePanel.Windows d tx.msg.timestamp start commitEnd revealEnd) :
      Change d w tx (w.setCase tx.msg.sender
        (DisputePanel.opened (w.panel.cases tx.msg.sender) start commitEnd revealEnd))
  | committed {e : Address} {commitment : Bytes32} (call : tx.call = .commit e commitment)
      (arbiter : w.registry.arbiters tx.msg.sender = true)
      (known : (w.panel.cases e).commitDeadline ≠ 0)
      (pending : (w.panel.cases e).executed = false)
      (window : (w.panel.cases e).commitStart.val ≤ tx.msg.timestamp ∧
        tx.msg.timestamp < (w.panel.cases e).commitDeadline.val)
      (fresh : w.panel.commitments e tx.msg.sender = 0) (nonzero : commitment ≠ 0) :
      Change d w tx (w.setCommitment e tx.msg.sender commitment)
  | revealed {e : Address} {vote : Uint8} {salt : Bytes32} {dispute : CaseData}
      (call : tx.call = .reveal e vote salt)
      (revealable : DisputePanel.Revealable d tx.msg w e vote salt)
      (counted : DisputePanel.Counted (w.panel.cases e) vote dispute) :
      Change d w tx ((w.setRevealed e tx.msg.sender).setCase e dispute)
  | attested {e : Address} {c : EscrowV1} {sellerScore buyerScore : Score}
      (call : tx.call = .attest e)
      (attestation : Attestation w e c sellerScore buyerScore) :
      Change d w tx (w.attested e c sellerScore buyerScore)

/-! ### External callers are nobody's contract -/

theorem Setup.External.ne_factory {s : Setup} {a : Address} (h : s.External a) : a ≠ s.factory := by
  rintro rfl
  exact h.2.1 (by simp [Setup.contracts])

theorem Setup.External.ne_panel {s : Setup} {a : Address} (h : s.External a) : a ≠ s.panel := by
  rintro rfl
  exact h.2.1 (by simp [Setup.contracts])

theorem Setup.External.ne_clone {s : Setup} {a b : Address} (h : s.External a)
    (clone : s.CloneAddress b) : b ≠ a := by
  rintro rfl
  exact h.2.2 clone

/-! ### Calls to the token and the fee router by external accounts -/

theorem onToken_change {call : Ledger Address → Except Fault (Ledger Address)}
    (h : w.onToken d d.paymentToken call = .ok w')
    (keeps : ∀ l, call w.token = .ok l → ∀ a, d.CloneAddress a → Ledger.Keeps w.token l a) :
    Change d w tx w' := by
  obtain ⟨-, l, called, rfl⟩ := (World.onToken_ok ..).mp h
  exact .ledger l (keeps l called)

theorem distribute_change {token seller : Address} {gross : Uint256}
    (h : (fun r => r.2.2) <$> FeeRouter.distribute d tx.msg w token seller gross = .ok w') :
    Change d w tx w' := by
  obtain ⟨⟨net, fee, _⟩, distributed, rfl⟩ := (map_ok ..).mp h
  obtain ⟨-, -, -, -, m, l, first, second, rfl⟩ := distribute_ok.mp distributed
  refine .ledger l fun a _ closed => ?_
  obtain ⟨closed', more⟩ := Ledger.transferFrom_keeps first closed
  obtain ⟨closed'', more'⟩ := Ledger.transferFrom_keeps second closed'
  exact ⟨closed'', Nat.le_trans more more'⟩

theorem setArbiter_change {arbiter : Address} {allowed : Bool}
    (h : ArbiterRegistry.setArbiter d tx.msg w arbiter allowed = .ok w') : Change d w tx w' := by
  simp only [ArbiterRegistry.setArbiter, bind_ok, ite_ok, pure_ok] at h
  obtain ⟨-, -, -, -, -, -, ⟨-, rfl⟩ | ⟨-, count, -, rfl⟩⟩ := h
  · exact .idle
  · exact .registry _

/-- What every accepted transaction did. -/
theorem exec_change (caller : d.External tx.msg.sender) (h : exec d tx w = .ok w') :
    Change d w tx w' := by
  unfold exec at h
  cases call : tx.call with
  | createEscrow buyer token amount workDuration reviewWindow termsHash salt =>
    rw [call] at h
    obtain ⟨⟨e, _⟩, created, rfl⟩ := (map_ok ..).mp h
    obtain ⟨offerDeadline, creation, rfl⟩ := EscrowFactory.createEscrow_ok.mp created
    exact .created call creation
  | initializeEscrow e seller buyer token amount offerDeadline workDuration reviewWindow terms =>
    rw [call] at h
    -- only the factory initializes, and it is nobody's external caller
    exact (EscrowV1.initializeEscrow_reverts caller.ne_factory _ _ _ _ _ _ _ _ h).elim
  | depositFunds e =>
    rw [call] at h
    obtain ⟨c, l, workDeadline, funding, rfl⟩ := EscrowV1.depositFunds_funding h
    exact .funded (call ▸ .depositFunds) funding
  | fundWithAuthorization e validAfter validBefore nonce signature =>
    rw [call] at h
    obtain ⟨c, l, workDeadline, funding, rfl⟩ := EscrowV1.fundWithAuthorization_funding h
    exact .funded (call ▸ .fundWithAuthorization) funding
  | cancelOffer e =>
    rw [call] at h
    obtain ⟨c, clone, state, late, rfl⟩ := EscrowV1.cancelOffer_ok.mp h
    exact .cancelled call clone state late
  | submitDelivery e deliveryHash =>
    rw [call] at h
    obtain ⟨c, clone, state, seller, inTime, review, deadline, rfl⟩ :=
      EscrowV1.submitDelivery_ok.mp h
    exact .delivered call clone state seller inTime deadline
  | releaseFunds e =>
    rw [call] at h
    obtain ⟨c, clone, state, buyer, settle⟩ := EscrowV1.releaseFunds_ok.mp h
    -- a settlement is the same change from whichever call it comes
    obtain ⟨l, rfl, settlement⟩ := settle_pays settle
    exact .settled clone (.released call state buyer) settlement
  | refundBuyer e =>
    rw [call] at h
    obtain ⟨c, clone, state, seller, settle⟩ := EscrowV1.refundBuyer_ok.mp h
    obtain ⟨l, rfl, settlement⟩ := settle_pays settle
    exact .settled clone (.refunded call state seller) settlement
  | timeoutRefund e =>
    rw [call] at h
    obtain ⟨c, clone, state, late, settle⟩ := EscrowV1.timeoutRefund_ok.mp h
    obtain ⟨l, rfl, settlement⟩ := settle_pays settle
    exact .settled clone (.timedOut call state late) settlement
  | finalize e =>
    rw [call] at h
    obtain ⟨c, clone, state, late, settle⟩ := EscrowV1.finalize_ok.mp h
    obtain ⟨l, rfl, settlement⟩ := settle_pays settle
    exact .settled clone (.finalized call state late) settlement
  | raiseDispute e evidenceHash =>
    rw [call] at h
    obtain ⟨c, clone, state, party, t, t', raised, deadline, opening⟩ :=
      EscrowV1.raiseDispute_ok.mp h
    obtain ⟨-, -, unopened, start, commitEnd, revealEnd, windows, rfl⟩ :=
      DisputePanel.open_ok.mp opening
    exact .disputed call clone state party raised.symm (by omega) unopened windows
  | submitCounterEvidence e evidenceHash =>
    rw [call] at h
    obtain ⟨c, clone, state, party, inTime, first, rfl⟩ := EscrowV1.submitCounterEvidence_ok.mp h
    exact .countered call clone state party inTime first
  | resolveDispute e o =>
    rw [call] at h
    obtain ⟨c, clone, state, known, resolver, result, ruling, settle⟩ :=
      EscrowV1.resolveDispute_ok.mp h
    -- the panel resolves through `execute`, so a caller from outside is the council
    obtain ⟨council, late⟩ := resolver.resolve_left caller.ne_panel
    obtain ⟨l, rfl, settlement⟩ := settle_pays settle
    exact .settled clone (.councilRuled call state council late ruling known) settlement
  | setFactory factory =>
    rw [call] at h
    simp only [DisputePanel.setFactory, bind_ok, pure_ok] at h
    obtain ⟨-, -, -, -, -, -, rfl⟩ := h
    exact .panel _ _
  | «open» raisedBy evidenceHash =>
    rw [call] at h
    obtain ⟨-, -, unopened, start, commitEnd, revealEnd, windows, rfl⟩ := DisputePanel.open_ok.mp h
    -- a foreign factory may vouch for the caller; it opens a case of its own address only
    exact .openedElsewhere unopened windows
  | commit e commitment =>
    rw [call] at h
    obtain ⟨arbiter, known, pending, window, fresh, nonzero, rfl⟩ := DisputePanel.commit_ok.mp h
    exact .committed call arbiter known pending window fresh nonzero
  | reveal e vote salt =>
    rw [call] at h
    obtain ⟨revealable, dispute, counted, rfl⟩ := DisputePanel.reveal_ok.mp h
    exact .revealed call revealable (DisputePanel.countVote_counted counted)
  | execute e =>
    rw [call] at h
    -- a case that a foreign factory vouched for is marked as executed, and nothing is paid
    obtain ⟨due, ⟨-, resolve⟩ | ⟨foreign, -, rfl⟩⟩ := DisputePanel.execute_ok.mp h
    · obtain ⟨c, clone, state, -, -, result, ruling, settle⟩ :=
        EscrowV1.resolveDispute_ok.mp resolve
      obtain ⟨l, rfl, settlement⟩ := settle_pays settle
      exact .executed call clone state due ruling settlement
    · exact .executedElsewhere call foreign due
  | transferPanelOwnership newOwner =>
    rw [call] at h
    simp only [DisputePanel.transferOwnership, bind_ok, pure_ok] at h
    obtain ⟨-, -, -, -, rfl⟩ := h
    exact .panel _ _
  | renouncePanelOwnership =>
    rw [call] at h
    simp only [DisputePanel.renounceOwnership, bind_ok, pure_ok] at h
    obtain ⟨-, -, rfl⟩ := h
    exact .panel _ _
  | setArbiter arbiter allowed =>
    rw [call] at h
    exact setArbiter_change h
  | transferRegistryOwnership newOwner =>
    rw [call] at h
    simp only [ArbiterRegistry.transferOwnership, bind_ok, pure_ok] at h
    obtain ⟨-, -, -, -, rfl⟩ := h
    exact .registry _
  | renounceRegistryOwnership =>
    rw [call] at h
    simp only [ArbiterRegistry.renounceOwnership, bind_ok, pure_ok] at h
    obtain ⟨-, -, rfl⟩ := h
    exact .registry _
  | attest e =>
    rw [call] at h
    obtain ⟨c, sellerScore, buyerScore, attestation, rfl⟩ := ReputationRegistryV0.attest_ok.mp h
    exact .attested call attestation
  | distribute token seller gross =>
    rw [call] at h
    exact distribute_change h
  | transfer dst value =>
    rw [call] at h
    -- a clone has no key and never spends by itself
    exact onToken_change h fun l called a clone =>
      Ledger.transfer_keeps called (caller.ne_clone clone)
  | approve spender value =>
    rw [call] at h
    exact onToken_change h fun l called a clone =>
      Ledger.approve_keeps called (caller.ne_clone clone)
  | transferFrom src dst value =>
    rw [call] at h
    exact onToken_change h fun l called a _ => Ledger.transferFrom_keeps called
  | receiveWithAuthorization src value validAfter validBefore nonce signature =>
    rw [call] at h
    -- the signature's owner has a key, and a clone has none
    refine onToken_change h fun l called a clone =>
      Ledger.receiveWithAuthorization_keeps called ?_
    rintro rfl
    exact d.keyless _ _ _ _ _ _ _ clone
  | mint dst value =>
    rw [call] at h
    exact onToken_change h fun l called a _ => Ledger.mint_keeps called
  | setPolicy permits =>
    rw [call] at h
    cases h
    exact .ledger _ fun a _ closed => ⟨closed, Nat.le_refl _⟩

/-- A step is a revert, which leaves all but the clock, or a change. -/
theorem step_cases (admissible : Admissible d w tx) :
    (¬ Accepted d (w, tx) ∧ step d w tx = { w with clock := tx.msg.timestamp }) ∨
    ∃ w', exec d tx w = .ok w' ∧ Change d w tx w' ∧
      step d w tx = { w' with clock := tx.msg.timestamp } := by
  cases h : exec d tx w with
  | ok w' => exact .inr ⟨w', rfl, exec_change admissible.2 h, step_accepted h⟩
  | error reason =>
    refine .inl ⟨?_, step_reverted h⟩
    rintro ⟨w', accepted⟩
    have contradiction : Except.error reason = .ok w' := h.symm.trans accepted
    cases contradiction

/-- Reverts included, a step is a change and a new clock. -/
theorem step_change (admissible : Admissible d w tx) :
    ∃ w', Change d w tx w' ∧ step d w tx = { w' with clock := tx.msg.timestamp } := by
  rcases step_cases admissible with ⟨_, same⟩ | ⟨w', _, change, next⟩
  · exact ⟨w, .idle, same⟩
  · exact ⟨w', change, next⟩

end VapiArc.Escrow
