import VapiArc.Escrow.EscrowV1

/-! # `EscrowFactory` and `ReputationRegistryV0` -/
namespace VapiArc.Escrow

open Checked Function

variable (d : Deployment) (msg : Msg) (w : World)

namespace EscrowFactory

def deadline (duration : Uint64) : Except Revert Uint64 := do
  let now64 ← timestamp64 (.factory .timestampOverflow) msg
  Word.checkedAdd .arithmeticOverflow now64 duration

/-- `Clones.cloneDeterministic`: fails where code exists already. -/
def cloneDeterministic (seller : Address) (salt : Bytes32) :
    Except Revert (Address × World) := do
  let escrow := d.predictEscrow seller salt
  revertIf (escrow ∈ d.contracts ∨ (w.escrows escrow).isSome = true) .failedDeployment
  return (escrow, w.setEscrow escrow {})

def createEscrow (buyer token : Address) (amount : Uint256) (workDuration reviewWindow : Uint64)
    (termsHash salt : Bytes32) : Except Revert (Address × World) := do
  let seller := msg.sender
  revertIf (buyer = 0 ∨ buyer = seller) (.factory .invalidAddress)
  revertIf (token ≠ d.paymentToken) (.factory .unsupportedToken)
  revertIf (amount = 0) (.factory .invalidAmount)
  revertIf (workDuration = 0 ∨ reviewWindow = 0) (.factory .invalidDuration)
  let (escrow, w) ← cloneDeterministic d w seller salt
  let offerDeadline ← deadline msg d.offerTtl
  -- registered before it is initialized; a failing `initialize` undoes both
  let w := { w with factory := { isEscrow := update w.factory.isEscrow escrow true } }
  let w ← EscrowV1.initializeEscrow d ⟨d.factory, msg.timestamp⟩ w escrow seller buyer token amount
    offerDeadline workDuration reviewWindow termsHash
  return (escrow, w)

end EscrowFactory

namespace ReputationRegistryV0

def resolvedState : Uint8 := 5
def releaseResolution : Uint8 := 1
def refundResolution : Uint8 := 2
def splitResolution : Uint8 := 3

/-- The counter that the resolution selects. -/
def recordResolution (score : Score) (result : Uint8) : Except Revert Score :=
  if result = releaseResolution then do
    let released ← Word.increment .arithmeticOverflow score.released
    return { score with released }
  else if result = refundResolution then do
    let refunded ← Word.increment .arithmeticOverflow score.refunded
    return { score with refunded }
  else do
    let splits ← Word.increment .arithmeticOverflow score.splits
    return { score with splits }

/-- `_record` -/
def record (score : Score) (result : Uint8) (wasDisputed : Bool) : Except Revert Score := do
  let settled ← Word.increment .arithmeticOverflow score.settled
  let score ← recordResolution { score with settled } result
  if wasDisputed then do
    let disputed ← Word.increment .arithmeticOverflow score.disputed
    return { score with disputed }
  else return score

def attest (escrow : Address) : Except Revert World := do
  revertIf (w.factory.isEscrow escrow = false) (.reputation .notRegisteredEscrow)
  revertIf (w.reputation.isAttested escrow = true) (.reputation .alreadyAttested)
  let settledEscrow ← w.escrowAt escrow
  revertIf (settledEscrow.state.toUint8 ≠ resolvedState) (.reputation .escrowNotResolved)
  let result := settledEscrow.resolution.toUint8
  revertIf (result < releaseResolution ∨ splitResolution < result)
    (.reputation .invalidResolution)
  let isAttested := update w.reputation.isAttested escrow true
  let seller := settledEscrow.seller
  let buyer := settledEscrow.buyer
  let wasDisputed := decide (settledEscrow.disputedAt ≠ 0)
  let scores := w.reputation.scores
  -- the buyer's record is read after the seller's is written
  let sellerScore ← record (scores seller) result wasDisputed
  let scores := update scores seller sellerScore
  let buyerScore ← record (scores buyer) result wasDisputed
  return { w with reputation := { isAttested, scores := update scores buyer buyerScore } }

end ReputationRegistryV0

end VapiArc.Escrow
