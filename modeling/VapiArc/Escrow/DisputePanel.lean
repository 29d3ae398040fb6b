import VapiArc.Escrow.World

/-! # `DisputePanel` and `ArbiterRegistry` -/
namespace VapiArc.Escrow

open Checked Function

variable (d : Deployment) (msg : Msg) (w : World)

namespace ArbiterRegistry

/-- `++arbiterCount` or `--arbiterCount` -/
def adjustCount (allowed : Bool) (count : Uint256) : Except Revert Uint256 :=
  if allowed then Word.increment .arithmeticOverflow count
  else Word.decrement .arithmeticOverflow count

def setArbiter (arbiter : Address) (allowed : Bool) : Except Revert World := do
  onlyOwner w.registry.owner msg
  revertIf (arbiter = 0) (.registry .invalidArbiter)
  revertIf (allowed = true ∧ d.stakeGate ≠ 0 ∧
      d.env.isEligible d.stakeGate msg.timestamp arbiter = false) (.registry .stakeRequired)
  -- setting a membership to what it is already is accepted and counts nothing
  if w.registry.arbiters arbiter = allowed then return w
  else do
    let count ← adjustCount allowed w.registry.arbiterCount
    return { w with registry := { w.registry with
      arbiters := update w.registry.arbiters arbiter allowed, arbiterCount := count } }

def transferOwnership (newOwner : Address) : Except Revert World := do
  onlyOwner w.registry.owner msg
  revertIf (newOwner = 0) (.ownableInvalidOwner newOwner)
  return { w with registry := { w.registry with owner := newOwner } }

def renounceOwnership : Except Revert World := do
  onlyOwner w.registry.owner msg
  return { w with registry := { w.registry with owner := 0 } }

end ArbiterRegistry

/-- `IEscrowFactory(factory).isEscrow(escrow)` -/
def isEscrowOf (factory escrow : Address) : Bool :=
  if factory = d.factory then w.factory.isEscrow escrow
  else d.env.isEscrow factory msg.timestamp escrow

namespace DisputePanel

def releaseVote : Uint8 := 1
def refundVote : Uint8 := 2
def splitVote : Uint8 := 3
def panelSize : Uint8 := 3

def timestamp : Except Revert Uint64 := timestamp64 (.panel .invalidWindow) msg

def add (left right : Uint64) : Except Revert Uint64 :=
  Word.checkedAdd .arithmeticOverflow left right

/-- `_case(escrow)` -/
def caseOf (escrow : Address) : Except Revert CaseData := do
  revertIf ((w.panel.cases escrow).commitDeadline = 0) (.panel .disputeNotOpened)
  return w.panel.cases escrow

def setFactory (factory : Address) : Except Revert World := do
  onlyOwner w.panel.owner msg
  revertIf (w.panel.factory ≠ 0) (.panel .factoryAlreadySet)
  revertIf (factory = 0) (.panel .invalidAddress)
  return { w with panel := { w.panel with factory := factory } }

def transferOwnership (newOwner : Address) : Except Revert World := do
  onlyOwner w.panel.owner msg
  revertIf (newOwner = 0) (.ownableInvalidOwner newOwner)
  return { w with panel := { w.panel with owner := newOwner } }

def renounceOwnership : Except Revert World := do
  onlyOwner w.panel.owner msg
  return { w with panel := { w.panel with owner := 0 } }

def «open» : Except Revert World := do
  revertIf (w.panel.factory = 0) (.panel .factoryNotSet)
  -- the owner may have set any factory, so the answer is that factory's
  revertIf (isEscrowOf d msg w w.panel.factory msg.sender = false) (.panel .notRegisteredEscrow)
  let dispute := w.panel.cases msg.sender
  revertIf (dispute.commitDeadline ≠ 0) (.panel .disputeAlreadyOpened)
  let now64 ← timestamp msg
  let commitStart ← add now64 d.evidenceWindow
  let commitDeadline ← add commitStart d.commitWindow
  let revealDeadline ← add commitDeadline d.revealWindow
  return w.setCase msg.sender { dispute with commitStart, commitDeadline, revealDeadline }

def commit (escrow : Address) (commitment : Bytes32) : Except Revert World := do
  revertIf (w.registry.arbiters msg.sender = false) (.panel .notArbiter)
  let dispute ← caseOf w escrow
  revertIf (dispute.executed = true) (.panel .disputeAlreadyExecuted)
  revertIf (msg.timestamp < dispute.commitStart.val ∨ dispute.commitDeadline.val ≤ msg.timestamp)
    (.panel .commitWindowClosed)
  -- the zero hash stands for no commitment
  revertIf (w.panel.commitments escrow msg.sender ≠ 0) (.panel .commitmentAlreadySubmitted)
  revertIf (commitment = 0) (.panel .invalidCommitment)
  return w.setCommitment escrow msg.sender commitment

/-- The hash that an arbiter's vote on an escrow is committed with. -/
def commitmentHash (escrow arbiter : Address) (vote : Uint8) (salt : Bytes32) : Bytes32 :=
  d.env.keccak256 [.address escrow, .address arbiter, .uint8 vote, .bytes32 salt]

/-- Count one revealed vote. -/
def countVote (dispute : CaseData) (vote : Uint8) : Except Revert CaseData := do
  let revealCount ← Word.increment .arithmeticOverflow dispute.revealCount
  let dispute := { dispute with revealCount }
  -- `reveal` admits the three votes only, so what is left is a split
  if vote = releaseVote then do
    let releaseVotes ← Word.increment .arithmeticOverflow dispute.releaseVotes
    return { dispute with releaseVotes }
  else if vote = refundVote then do
    let refundVotes ← Word.increment .arithmeticOverflow dispute.refundVotes
    return { dispute with refundVotes }
  else do
    let splitVotes ← Word.increment .arithmeticOverflow dispute.splitVotes
    return { dispute with splitVotes }

def reveal (escrow : Address) (vote : Uint8) (salt : Bytes32) : Except Revert World := do
  revertIf (w.registry.arbiters msg.sender = false) (.panel .notArbiter)
  let dispute ← caseOf w escrow
  revertIf (dispute.executed = true) (.panel .disputeAlreadyExecuted)
  revertIf (msg.timestamp < dispute.commitDeadline.val ∨
    dispute.revealDeadline.val ≤ msg.timestamp) (.panel .revealWindowClosed)
  revertIf (vote < releaseVote ∨ splitVote < vote) (.panel .invalidVote)
  revertIf (w.panel.revealed escrow msg.sender = true) (.panel .voteAlreadyRevealed)
  -- the sender is part of the hash: a copied commitment does not open
  let expected := commitmentHash d escrow msg.sender vote salt
  revertIf (w.panel.commitments escrow msg.sender = 0 ∨
    expected ≠ w.panel.commitments escrow msg.sender) (.panel .commitmentMismatch)
  let w := w.setRevealed escrow msg.sender
  let dispute ← countVote dispute vote
  return w.setCase escrow dispute

/-- The outcome that `execute` reads off the tally. -/
def outcome (dispute : CaseData) : Uint8 :=
  -- release is asked for first; with more than three votes both may have two
  if 2 ≤ dispute.releaseVotes then 0
  else if 2 ≤ dispute.refundVotes then 1
  else 2

/-- `execute` up to the call of `resolveDispute`. -/
def markExecuted (escrow : Address) : Except Revert (Uint8 × World) := do
  let dispute ← caseOf w escrow
  revertIf (dispute.executed = true) (.panel .disputeAlreadyExecuted)
  revertIf (dispute.revealCount < panelSize ∧ msg.timestamp < dispute.revealDeadline.val)
    (.panel .disputeNotExecutable)
  return (outcome dispute, w.setCase escrow { dispute with executed := true })

end DisputePanel

end VapiArc.Escrow
