import VapiArc.Escrow.EscrowFactory
import VapiArc.Lib.Transition

/-!
# Transactions and runs

A transaction is one call by an account outside of the installation. Calls that
such an account makes from inside of its own code are transactions of their own:
the token has no hooks, so no contract is ever entered in the middle of a call.
-/
namespace VapiArc.Escrow

open Checked

inductive Call where
  | createEscrow (buyer token : Address) (amount : Uint256) (workDuration reviewWindow : Uint64)
      (termsHash salt : Bytes32)
  | initializeEscrow (escrow seller buyer token : Address) (amount : Uint256)
      (offerDeadline workDuration reviewWindow : Uint64) (termsHash : Bytes32)
  | depositFunds (escrow : Address)
  | fundWithAuthorization (escrow : Address) (validAfter validBefore : Uint256) (nonce : Bytes32)
      (signature : Bytes)
  | cancelOffer (escrow : Address)
  | submitDelivery (escrow : Address) (deliveryHash : Bytes32)
  | releaseFunds (escrow : Address)
  | refundBuyer (escrow : Address)
  | timeoutRefund (escrow : Address)
  | finalize (escrow : Address)
  | raiseDispute (escrow : Address) (evidenceHash : Bytes32)
  | submitCounterEvidence (escrow : Address) (evidenceHash : Bytes32)
  | resolveDispute (escrow : Address) (outcome : Uint8)
  | setFactory (factory : Address)
  | open (raisedBy : Address) (evidenceHash : Bytes32)
  | commit (escrow : Address) (commitment : Bytes32)
  | reveal (escrow : Address) (vote : Uint8) (salt : Bytes32)
  | execute (escrow : Address)
  | transferPanelOwnership (newOwner : Address)
  | renouncePanelOwnership
  | setArbiter (arbiter : Address) (allowed : Bool)
  | transferRegistryOwnership (newOwner : Address)
  | renounceRegistryOwnership
  | attest (escrow : Address)
  | distribute (token seller : Address) (gross : Uint256)
  | transfer (dst : Address) (value : Uint256)
  | approve (spender : Address) (value : Uint256)
  | transferFrom (src dst : Address) (value : Uint256)
  | receiveWithAuthorization (src : Address) (value validAfter validBefore : Uint256)
      (nonce : Bytes32) (signature : Bytes)
  /-- The token's operator creates new tokens. -/
  | mint (dst : Address) (value : Uint256)
  /-- The token's operator changes which transfers the token admits. -/
  | setPolicy (permits : Address → Address → Nat → Bool)

structure Tx where
  msg : Msg
  call : Call

/-- The effect of an accepted call, or the reason why it reverts. -/
def exec (d : Deployment) (tx : Tx) (w : World) : Except Revert World :=
  let msg := tx.msg
  match tx.call with
  | .createEscrow buyer token amount workDuration reviewWindow termsHash salt =>
    Prod.snd <$> EscrowFactory.createEscrow d msg w buyer token amount workDuration reviewWindow
      termsHash salt
  | .initializeEscrow e seller buyer token amount offerDeadline workDuration reviewWindow
      termsHash =>
    EscrowV1.initializeEscrow d msg w e seller buyer token amount offerDeadline workDuration
      reviewWindow termsHash
  | .depositFunds e => EscrowV1.depositFunds d msg w e
  | .fundWithAuthorization e validAfter validBefore nonce signature =>
    EscrowV1.fundWithAuthorization d msg w e validAfter validBefore nonce signature
  | .cancelOffer e => EscrowV1.cancelOffer msg w e
  | .submitDelivery e deliveryHash => EscrowV1.submitDelivery msg w e deliveryHash
  | .releaseFunds e => EscrowV1.releaseFunds d msg w e
  | .refundBuyer e => EscrowV1.refundBuyer d msg w e
  | .timeoutRefund e => EscrowV1.timeoutRefund d msg w e
  | .finalize e => EscrowV1.finalize d msg w e
  | .raiseDispute e _ => EscrowV1.raiseDispute d msg w e
  | .submitCounterEvidence e _ => EscrowV1.submitCounterEvidence msg w e
  | .resolveDispute e outcome => EscrowV1.resolveDispute d msg w e outcome
  | .setFactory factory => DisputePanel.setFactory msg w factory
  | .open _ _ => DisputePanel.open d msg w
  | .commit e commitment => DisputePanel.commit msg w e commitment
  | .reveal e vote salt => DisputePanel.reveal d msg w e vote salt
  | .execute e => DisputePanel.execute d msg w e
  | .transferPanelOwnership newOwner => DisputePanel.transferOwnership msg w newOwner
  | .renouncePanelOwnership => DisputePanel.renounceOwnership msg w
  | .setArbiter arbiter allowed => ArbiterRegistry.setArbiter d msg w arbiter allowed
  | .transferRegistryOwnership newOwner => ArbiterRegistry.transferOwnership msg w newOwner
  | .renounceRegistryOwnership => ArbiterRegistry.renounceOwnership msg w
  | .attest e => ReputationRegistryV0.attest w e
  | .distribute token seller gross =>
    (fun r => r.2.2) <$> FeeRouter.distribute d msg w token seller gross
  | .transfer dst value => w.onToken d d.paymentToken fun l => l.transfer msg.sender dst value.val
  | .approve spender value =>
    w.onToken d d.paymentToken fun l => l.approve msg.sender spender value.val
  | .transferFrom src dst value =>
    w.onToken d d.paymentToken fun l => l.transferFrom msg.sender src dst value.val
  | .receiveWithAuthorization src value validAfter validBefore nonce signature =>
    let signer := d.env.signer src msg.sender value validAfter validBefore nonce signature
    w.onToken d d.paymentToken fun l => l.receiveWithAuthorization msg.sender signer msg.timestamp
      src msg.sender value.val validAfter.val validBefore.val nonce
  | .mint dst value => w.onToken d d.paymentToken fun l => l.mint dst value.val
  | .setPolicy permits => .ok { w with token := { w.token with permits } }

/-- One transaction in a block of its own timestamp; a revert leaves the state as it was. -/
def step (d : Deployment) (w : World) (tx : Tx) : World :=
  match exec d tx w with
  | .ok w' => { w' with clock := tx.msg.timestamp }
  | .error _ => { w with clock := tx.msg.timestamp }

/-- Anybody outside of the installation may call at any time that is not in the past. -/
def Admissible (d : Deployment) (w : World) (tx : Tx) : Prop :=
  w.clock ≤ tx.msg.timestamp ∧ d.External tx.msg.sender

def system (d : Deployment) : Transition.System World Tx where
  admits := Admissible d
  next := step d

/-- The state right after the deployment: the token may have any history in which
no address of a clone approved anything, as such an address has no key. -/
structure Genesis (d : Deployment) (w : World) : Prop where
  factory : w.factory = { isEscrow := fun _ => false }
  escrows : w.escrows = fun e => if e = d.implementation then some {} else none
  panel : w.panel = ⟨d.panelOwner, 0, fun _ => {}, fun _ _ => 0, fun _ _ => false⟩
  registry : w.registry = ⟨d.registryOwner, fun _ => false, 0⟩
  reputation : w.reputation = ⟨fun _ => false, fun _ => {}⟩
  unapproved : ∀ e, d.CloneAddress e → Erc20.Ledger.Sealed w.token e

/-- The executed transactions, the newest first, each with the state it ran in. -/
abbrev History : Type := List (World × Tx)

/-- A run of the installation from right after its deployment. -/
structure Run (d : Deployment) (start : World) (history : History) (w : World) : Prop where
  genesis : Genesis d start
  run : Transition.Run (system d) start history w

/-- No transaction happened at the epoch. -/
def History.Positive (history : History) : Prop := ∀ entry ∈ history, 0 < entry.2.msg.timestamp

/-- The transaction of a history entry did not revert. -/
def Accepted (d : Deployment) (entry : World × Tx) : Prop :=
  ∃ w', exec d entry.2 entry.1 = .ok w'

theorem accepted_iff (d : Deployment) (entry : World × Tx) :
    Accepted d entry ↔ (exec d entry.2 entry.1).isOk = true := by
  unfold Accepted
  cases exec d entry.2 entry.1 with
  | ok w' => simp [Except.isOk, Except.toBool]
  | error reason => simp [Except.isOk, Except.toBool]

instance (d : Deployment) (entry : World × Tx) : Decidable (Accepted d entry) :=
  decidable_of_iff _ (accepted_iff d entry).symm

theorem step_accepted {d : Deployment} {w w' : World} {tx : Tx} (h : exec d tx w = .ok w') :
    step d w tx = { w' with clock := tx.msg.timestamp } := by
  simp [step, h]

theorem step_reverted {d : Deployment} {w : World} {tx : Tx} {reason : Revert}
    (h : exec d tx w = .error reason) :
    step d w tx = { w with clock := tx.msg.timestamp } := by
  simp [step, h]

@[simp] theorem step_clock (d : Deployment) (w : World) (tx : Tx) :
    (step d w tx).clock = tx.msg.timestamp := by
  unfold step
  split <;> rfl

/-! ### An installation

A concrete deployment and its genesis, in which what is admitted can be evaluated. Addresses are
small numbers, and the hash is an injective code of its arguments.
-/

namespace Walkthrough

def code : Packed → Nat
  | .address value => Nat.pair 0 value
  | .uint8 value => Nat.pair 1 value.val
  | .bytes32 value => Nat.pair 2 value

def hash : List Packed → Bytes32
  | [] => 0
  | field :: fields => Nat.pair (code field) (hash fields) + 1

theorem code_injective {p q : Packed} (same : code p = code q) : p = q := by
  cases p <;> cases q <;> simp_all [code, Nat.pair_eq_pair, Fin.ext_iff]

theorem hash_injective {ps qs : List Packed} (same : hash ps = hash qs) : ps = qs := by
  induction ps generalizing qs with
  | nil =>
    cases qs with
    | nil => rfl
    | cons q qs => simp [hash] at same
  | cons p ps ih =>
    cases qs with
    | nil => simp [hash] at same
    | cons q qs =>
      simp only [hash, Nat.add_right_cancel_iff, Nat.pair_eq_pair] at same
      rw [code_injective same.1, ih same.2]

def environment : Environment where
  keccak256 := hash
  create2 _ _ salt := 1000 + salt
  signer _ _ _ _ _ _ _ := 0
  isEscrow _ _ _ := false
  resolveDispute _ _ _ := false
  isEligible _ _ _ := false

def deployer : Address := 10
def buyer : Address := 11
def seller : Address := 12
def arbiter1 : Address := 13
def arbiter2 : Address := 14
def arbiter3 : Address := 15

/-- The deployer is treasury, council and owner, as in the script. -/
def setup : Setup where
  env := environment
  paymentToken := 1
  feeRouter := 2
  registry := 3
  panel := 4
  factory := 5
  implementation := 6
  reputation := 7
  treasury := deployer
  council := deployer
  registryOwner := deployer
  panelOwner := deployer
  stakeGate := 0
  feeBp := platformFeeBP
  evidenceWindow := 60
  commitWindow := 60
  revealWindow := 60
  offerTtl := 600
  deadlockTimeout := 600

/-- The constructors accept every deadlock timeout but zero. -/
def deployment (deadlockTimeout : Uint64) (positive : deadlockTimeout ≠ 0) : Deployment where
  toSetup := { setup with deadlockTimeout }
  accepted := by
    obtain ⟨router, registry, panel, addresses, ⟨ttl, _⟩, rest⟩ :=
      (Deployment.accepted_iff setup).mp (by decide)
    exact (Deployment.accepted_iff _).mpr
      ⟨router, registry, panel, addresses, ⟨ttl, positive⟩, rest⟩
  distinct := (by decide : setup.contracts.Nodup)
  nonzero := (by decide : 0 ∉ setup.contracts)
  keyless := by
    rintro _ _ _ _ _ _ _ ⟨owner, salt, same⟩
    have below : (0 : Nat) = 1000 + hash [.address owner, .bytes32 salt] := same
    omega

def genesis : World where
  clock := 1
  token := ⟨fun _ => 0, fun _ _ => 0, fun _ _ => false, fun _ _ _ => true⟩
  factory := ⟨fun _ => false⟩
  escrows e := if e = 6 then some {} else none
  panel := ⟨deployer, 0, fun _ => {}, fun _ _ => 0, fun _ _ => false⟩
  registry := ⟨deployer, fun _ => false, 0⟩
  reputation := ⟨fun _ => false, fun _ => {}⟩

variable (deadlockTimeout : Uint64) (positive : deadlockTimeout ≠ 0)

theorem genesis_ok : Genesis (deployment deadlockTimeout positive) genesis where
  factory := rfl
  escrows := rfl
  panel := rfl
  registry := rfl
  reputation := rfl
  unapproved := fun _ _ _ => rfl

/-- Calls by accounts with small addresses, at times that do not run backwards. -/
def orderly (clock : Nat) : List Tx → Bool
  | [] => true
  | tx :: rest => decide (clock ≤ tx.msg.timestamp) && decide (7 < tx.msg.sender) &&
      decide (tx.msg.sender < 1000) && orderly tx.msg.timestamp rest

theorem external {a : Nat} (low : 7 < a) (high : a < 1000) :
    (deployment deadlockTimeout positive).External a := by
  refine ⟨Nat.ne_of_gt (Nat.zero_lt_of_lt low), ?_, ?_⟩
  · intro (member : a ∈ [1, 2, 3, 4, 5, 6, 7])
    simp only [List.mem_cons, List.not_mem_nil, or_false] at member
    omega
  · rintro ⟨owner, salt, same⟩
    have address : a = 1000 + hash [.address owner, .bytes32 salt] := same
    omega

theorem orderly_admitsAll (w : World) (txs : List Tx) (ordered : orderly w.clock txs = true) :
    (system (deployment deadlockTimeout positive)).AdmitsAll w txs := by
  induction txs generalizing w with
  | nil => trivial
  | cons tx rest ih =>
    simp only [orderly, Bool.and_eq_true, decide_eq_true_eq] at ordered
    obtain ⟨⟨⟨time, low⟩, high⟩, later⟩ := ordered
    refine ⟨⟨time, external deadlockTimeout positive low high⟩, ih _ ?_⟩
    exact (step_clock (deployment deadlockTimeout positive) w tx).symm ▸ later

/-- The history of a list of transactions from the genesis. -/
def history (txs : List Tx) : History :=
  (system (deployment deadlockTimeout positive)).record genesis [] txs

def state (txs : List Tx) : World :=
  (system (deployment deadlockTimeout positive)).replay genesis txs

theorem run (txs : List Tx) (ordered : orderly 1 txs = true) :
    Run (deployment deadlockTimeout positive) genesis (history deadlockTimeout positive txs)
      (state deadlockTimeout positive txs) where
  genesis := genesis_ok deadlockTimeout positive
  run := Transition.System.replay_run _ .refl txs
    (orderly_admitsAll deadlockTimeout positive genesis txs ordered)

def escrow (salt : Bytes32) : Address := setup.predictEscrow seller salt

/-- The deployment script's wiring. -/
def wiring : List Tx :=
  [⟨⟨deployer, 1⟩, .setFactory 5⟩,
   ⟨⟨deployer, 1⟩, .setArbiter arbiter1 true⟩,
   ⟨⟨deployer, 1⟩, .setArbiter arbiter2 true⟩,
   ⟨⟨deployer, 1⟩, .setArbiter arbiter3 true⟩]

/-- `create_and_fund` -/
def createAndFund (salt : Bytes32) : List Tx :=
  [⟨⟨seller, 1⟩, .createEscrow buyer 1 1000000000 600 60 7 salt⟩,
   ⟨⟨deployer, 1⟩, .mint buyer 1000000000⟩,
   ⟨⟨buyer, 1⟩, .approve (escrow salt) 1000000000⟩,
   ⟨⟨deployer, 1⟩, .depositFunds (escrow salt)⟩]

end Walkthrough

end VapiArc.Escrow
