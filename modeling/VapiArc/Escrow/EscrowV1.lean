import VapiArc.Escrow.DisputePanel

/-! # `FeeRouter` and `EscrowV1` -/
namespace VapiArc.Escrow

open Checked Function

variable (d : Deployment) (msg : Msg) (w : World)

/-- `distribute` on behalf of `msg.sender`; returns `net` and `fee`. -/
def FeeRouter.distribute (token seller : Address) (gross : Uint256) :
    Except Revert (Uint256 × Uint256 × World) := do
  revertIf (token = 0 ∨ seller = 0) (.feeRouter .invalidAddress)
  let fee : Uint256 ← Word.mulDiv .arithmeticOverflow gross.val d.feeBp.val bpDenominator
  let net ← Word.checkedSub .arithmeticOverflow gross fee
  let w ← w.onToken d token fun l => l.transferFrom d.feeRouter msg.sender seller net.val
  let w ← w.onToken d token fun l => l.transferFrom d.feeRouter msg.sender d.treasury fee.val
  return (net, fee, w)

namespace EscrowV1

def timestamp : Except Revert Uint64 := timestamp64 (.escrow .timestampOverflow) msg

def add (left right : Uint64) : Except Revert Uint64 :=
  Word.checkedAdd .arithmeticOverflow left right

/-- `_deadline(duration)` -/
def deadline (duration : Uint64) : Except Revert Uint64 := do
  let now64 ← timestamp msg
  add now64 duration

def requireState (expected actual : State) : Except Revert Unit :=
  revertIf (actual ≠ expected) (.escrow (.invalidState expected actual))

/-- The guard of `refundBuyer` and `raiseDispute`. -/
def requireLive (actual : State) : Except Revert Unit :=
  revertIf (actual ≠ .locked ∧ actual ≠ .submitted) (.escrow (.invalidLiveState actual))

def initializeEscrow (e seller buyer token : Address) (amount : Uint256) (offerDeadline : Uint64)
    (workDuration reviewWindow : Uint64) (termsHash : Bytes32) : Except Revert World := do
  let c ← w.escrowAt e
  revertIf (msg.sender ≠ d.factory) (.escrow .notFactory)
  revertIf (c.state ≠ .none) (.escrow .alreadyInitialized)
  revertIf (seller = 0 ∨ buyer = 0 ∨ token = 0) (.escrow .invalidAddress)
  revertIf (buyer = seller) (.escrow .invalidAddress)
  revertIf (amount = 0) (.escrow .invalidAmount)
  revertIf (workDuration = 0 ∨ reviewWindow = 0) (.escrow .invalidDuration)
  return w.setEscrow e { c with
    seller, buyer, token, amount, offerDeadline, workDuration, reviewWindow, termsHash,
    state := .created }

/-- `_finishFunding`: the balance must have grown by exactly the amount. -/
def finishFunding (e : Address) (c : EscrowV1) (beforeBalance : Nat) : Except Revert World := do
  -- the subtraction of the balances is a checked one
  revertIf (w.token.balanceOf e < beforeBalance) .arithmeticOverflow
  revertIf (w.token.balanceOf e - beforeBalance ≠ c.amount.val)
    (.escrow .fundingAmountMismatch)
  let workDeadline ← deadline msg c.workDuration
  return w.setEscrow e { c with workDeadline, state := .locked }

def depositFunds (e : Address) : Except Revert World := do
  let c ← w.escrowAt e
  requireState .created c.state
  revertIf (c.offerDeadline.val < msg.timestamp) (.escrow .offerExpired)
  let beforeBalance := w.token.balanceOf e
  -- the escrow itself is the spender: the buyer has approved the escrow
  let w ← w.onToken d c.token fun l => l.transferFrom e c.buyer e c.amount.val
  finishFunding msg w e c beforeBalance

def fundWithAuthorization (e : Address) (validAfter validBefore : Uint256) (nonce : Bytes32)
    (signature : Bytes) : Except Revert World := do
  let c ← w.escrowAt e
  requireState .created c.state
  revertIf (c.offerDeadline.val < msg.timestamp) (.escrow .offerExpired)
  let beforeBalance := w.token.balanceOf e
  let signer := d.env.signer c.buyer e c.amount validAfter validBefore nonce signature
  let w ← w.onToken d c.token fun l =>
    l.receiveWithAuthorization e signer msg.timestamp c.buyer e c.amount.val validAfter.val
      validBefore.val nonce
  finishFunding msg w e c beforeBalance

def cancelOffer (e : Address) : Except Revert World := do
  let c ← w.escrowAt e
  requireState .created c.state
  revertIf (msg.timestamp ≤ c.offerDeadline.val) (.escrow .offerStillOpen)
  return w.setEscrow e { c with state := .expired }

def submitDelivery (e : Address) (deliveryHash : Bytes32) : Except Revert World := do
  let c ← w.escrowAt e
  requireState .locked c.state
  revertIf (msg.sender ≠ c.seller) (.escrow .notSeller)
  revertIf (c.workDeadline.val < msg.timestamp) (.escrow .deadlinePassed)
  let reviewDeadline ← deadline msg c.reviewWindow
  return w.setEscrow e { c with deliveryHash, reviewDeadline, state := .submitted }

/-- The branch of `_settle` that pays the seller's gross through the fee router. -/
def paySeller (e : Address) (c : EscrowV1) (sellerGross : Uint256) : Except Revert World := do
  let w ← w.onToken d c.token fun l => l.approve e d.feeRouter sellerGross.val
  let (sellerNet, fee, w) ←
    FeeRouter.distribute d ⟨e, msg.timestamp⟩ w c.token c.seller sellerGross
  -- no approval outlives the settlement
  let w ← w.onToken d c.token fun l => l.approve e d.feeRouter 0
  let total ← Word.checkedAdd .arithmeticOverflow sellerNet fee
  let expected : Uint256 ←
    Word.mulDiv .arithmeticOverflow sellerGross.val platformFeeBP.val bpDenominator
  revertIf (total ≠ sellerGross ∨ fee ≠ expected) (.escrow .invalidFeeConfiguration)
  return w

/-- The buyer's half of a split; nothing is sent when it is zero. -/
def payBuyer (e : Address) (c : EscrowV1) (buyerAmount : Uint256) : Except Revert World :=
  if buyerAmount ≠ 0 then w.onToken d c.token fun l => l.transfer e c.buyer buyerAmount.val
  else return w

/-- `_settle` -/
def settle (e : Address) (c : EscrowV1) (result : Resolution) : Except Revert World := do
  -- the state is written before any token moves
  let w := w.setEscrow e { c with state := .resolved, resolution := result }
  match result with
  | .refund => w.onToken d c.token fun l => l.transfer e c.buyer c.amount.val
  | .split => do
    let buyerAmount := Word.half c.amount
    let sellerGross ← Word.checkedSub .arithmeticOverflow c.amount buyerAmount
    let w ← payBuyer d w e c buyerAmount
    paySeller d msg w e c sellerGross
  -- the source's last `else`: everything but a refund or a split pays the seller
  | _ => paySeller d msg w e c c.amount

def releaseFunds (e : Address) : Except Revert World := do
  let c ← w.escrowAt e
  requireState .submitted c.state
  revertIf (msg.sender ≠ c.buyer) (.escrow .notBuyer)
  settle d msg w e c .release

def refundBuyer (e : Address) : Except Revert World := do
  let c ← w.escrowAt e
  requireLive c.state
  revertIf (msg.sender ≠ c.seller) (.escrow .notSeller)
  settle d msg w e c .refund

def timeoutRefund (e : Address) : Except Revert World := do
  let c ← w.escrowAt e
  requireState .locked c.state
  revertIf (msg.timestamp ≤ c.workDeadline.val) (.escrow .deadlineNotPassed)
  settle d msg w e c .refund

def finalize (e : Address) : Except Revert World := do
  let c ← w.escrowAt e
  requireState .submitted c.state
  revertIf (msg.timestamp ≤ c.reviewDeadline.val) (.escrow .deadlineNotPassed)
  settle d msg w e c .release

def raiseDispute (e : Address) : Except Revert World := do
  let c ← w.escrowAt e
  requireLive c.state
  revertIf (msg.sender ≠ c.buyer ∧ msg.sender ≠ c.seller) (.escrow .notParty)
  let disputedAt ← timestamp msg
  let counterEvidenceDeadline ← add disputedAt d.evidenceWindow
  let w := w.setEscrow e { c with
    state := .disputed, disputedAt, counterEvidenceDeadline, disputeRaisedBy := msg.sender }
  -- the panel sees the clone as its caller
  DisputePanel.open d ⟨e, msg.timestamp⟩ w

def submitCounterEvidence (e : Address) : Except Revert World := do
  let c ← w.escrowAt e
  requireState .disputed c.state
  -- who raised the dispute has had its say
  let expected := if c.disputeRaisedBy = c.buyer then c.seller else c.buyer
  revertIf (msg.sender ≠ expected) (.escrow .notCounterparty)
  revertIf (c.counterEvidenceDeadline.val < msg.timestamp) (.escrow .deadlinePassed)
  revertIf (c.counterEvidenceSubmitted = true) (.escrow .counterEvidenceAlreadySubmitted)
  return w.setEscrow e { c with counterEvidenceSubmitted := true }

def resolveDispute (e : Address) (outcome : Uint8) : Except Revert World := do
  let c ← w.escrowAt e
  requireState .disputed c.state
  revertIf (2 < outcome) (.escrow .invalidOutcome)
  -- the panel may resolve at any time, the council after the deadlock timeout
  revertIf (msg.sender ≠ d.panel ∧ (msg.sender ≠ d.council ∨
    msg.timestamp < c.disputedAt.val + d.deadlockTimeout.val)) (.escrow .unauthorizedResolver)
  let result ← demand .enumConversion (Resolution.ofNat? (outcome.val + 1))
  settle d msg w e c result

end EscrowV1

/-- `execute`. An escrow of another factory is code outside of the installation:
its `resolveDispute` fails or does nothing to the state modelled here. -/
def DisputePanel.execute (escrow : Address) : Except Revert World := do
  let (outcome, w) ← DisputePanel.markExecuted msg w escrow
  if (w.escrows escrow).isSome then
    EscrowV1.resolveDispute d ⟨d.panel, msg.timestamp⟩ w escrow outcome
  else do
    revertIf (d.env.resolveDispute escrow msg.timestamp outcome = false) .failedCall
    return w

end VapiArc.Escrow
