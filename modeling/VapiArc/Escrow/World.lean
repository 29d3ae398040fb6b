import VapiArc.Escrow.Deployment

/-!
# The state of one installation

Contract functions take the state they run in and return the state they leave, or
the reason they revert with. A revert returns no state, so that it undoes every
effect of the call, those of nested calls included.
-/
namespace VapiArc.Escrow

open Checked Function

structure World where
  /-- The timestamp of the newest block. -/
  clock : Nat
  token : Erc20.Ledger Address
  factory : EscrowFactory
  escrows : Address → Option EscrowV1
  panel : DisputePanel
  registry : ArbiterRegistry
  reputation : ReputationRegistryV0

/-- `msg.sender` and `block.timestamp` of a call. -/
structure Msg where
  sender : Address
  timestamp : Nat
  deriving DecidableEq, Repr

namespace World

variable (w : World)

/-- The storage at an address that holds `EscrowV1` code. -/
def escrowAt (e : Address) : Except Revert EscrowV1 := demand .failedCall (w.escrows e)

def setEscrow (e : Address) (c : EscrowV1) : World :=
  { w with escrows := update w.escrows e (some c) }

def setCase (e : Address) (dispute : CaseData) : World :=
  { w with panel := { w.panel with cases := update w.panel.cases e dispute } }

/-- `_commitments[e][a] = commitment` -/
def setCommitment (e a : Address) (commitment : Bytes32) : World :=
  let row := update (w.panel.commitments e) a commitment
  { w with panel := { w.panel with commitments := update w.panel.commitments e row } }

/-- `_revealed[e][a] = true` -/
def setRevealed (e a : Address) : World :=
  let row := update (w.panel.revealed e) a true
  { w with panel := { w.panel with revealed := update w.panel.revealed e row } }

/-- A call to the payment token, the only token of the model. -/
def onToken (d : Deployment) (token : Address)
    (call : Erc20.Ledger Address → Except Erc20.Fault (Erc20.Ledger Address)) :
    Except Revert World := do
  revertIf (token ≠ d.paymentToken) .failedCall
  let ledger ← (call w.token).mapError .token
  return { w with token := ledger }

theorem onToken_ok (d : Deployment) (token : Address)
    (call : Erc20.Ledger Address → Except Erc20.Fault (Erc20.Ledger Address)) (w' : World) :
    w.onToken d token call = .ok w' ↔
      token = d.paymentToken ∧ ∃ l, call w.token = .ok l ∧ { w with token := l } = w' := by
  simp [onToken]

@[simp] theorem escrowAt_ok (e : Address) (c : EscrowV1) :
    w.escrowAt e = .ok c ↔ w.escrows e = some c := by
  simp [escrowAt]

section Frame

variable (e : Address) (c : EscrowV1) (dispute : CaseData)

@[simp] theorem setEscrow_escrows :
    (w.setEscrow e c).escrows = update w.escrows e (some c) := rfl
@[simp] theorem setEscrow_token : (w.setEscrow e c).token = w.token := rfl
@[simp] theorem setCase_escrows : (w.setCase e dispute).escrows = w.escrows := rfl
@[simp] theorem setCase_cases : (w.setCase e dispute).panel.cases =
    update w.panel.cases e dispute := rfl
@[simp] theorem setCase_revealed :
    (w.setCase e dispute).panel.revealed = w.panel.revealed := rfl
@[simp] theorem setRevealed_revealed (a : Address) : (w.setRevealed e a).panel.revealed =
    update w.panel.revealed e (update (w.panel.revealed e) a true) := rfl

end Frame

end World

/-- `_timestamp()` and its overflow error. -/
def timestamp64 (error : Revert) (msg : Msg) : Except Revert Uint64 :=
  Word.narrow 64 error msg.timestamp

/-- `onlyOwner` -/
def onlyOwner (owner : Address) (msg : Msg) : Except Revert Unit :=
  revertIf (msg.sender ≠ owner) (.ownableUnauthorizedAccount msg.sender)

end VapiArc.Escrow
