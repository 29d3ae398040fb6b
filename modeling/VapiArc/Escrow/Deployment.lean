import VapiArc.Escrow.Storage

/-!
# Constructors and deployments

A deployment is a set of constructor arguments that every constructor accepts,
together with what the chain guarantees about its addresses.
-/
namespace VapiArc.Escrow

open Checked

/-- A field of an `abi.encodePacked` argument list. -/
inductive Packed where
  | address (value : Address)
  | uint8 (value : Uint8)
  | bytes32 (value : Bytes32)
  deriving DecidableEq, Repr

/-- The code that the contracts rely on but do not contain: hashing, address
derivation and signature recovery, and contracts at addresses other than those of
the deployment. -/
structure Environment where
  keccak256 : List Packed → Bytes32
  /-- The address of an EIP-1167 clone: deployer, implementation and salt. -/
  create2 : Address → Address → Bytes32 → Address
  /-- Who signed an ERC-3009 authorization: from, to, value, validity, nonce, signature. -/
  signer : Address → Address → Uint256 → Uint256 → Uint256 → Bytes32 → Bytes → Address
  /-- What another contract answers to `isEscrow` at a timestamp. -/
  isEscrow : Address → Nat → Address → Bool
  /-- Whether another contract accepts `resolveDispute` at a timestamp. -/
  resolveDispute : Address → Nat → Uint8 → Bool
  /-- What a stake gate answers to `isEligible` at a timestamp. -/
  isEligible : Address → Nat → Address → Bool

def platformFeeBP : Uint16 := 500
def bpDenominator : Nat := 10000

def Ownable.constructor (initialOwner : Address) : Except Revert Unit :=
  revertIf (initialOwner = 0) (.ownableInvalidOwner initialOwner)

def FeeRouter.constructor (treasury : Address) (feeBp : Uint16) : Except Revert Unit := do
  revertIf (treasury = 0) (.feeRouter .invalidAddress)
  revertIf (feeBp.val > bpDenominator) (.feeRouter .invalidFee)

def DisputePanel.constructor (initialOwner registry : Address)
    (evidenceWindow commitWindow revealWindow : Uint64) : Except Revert Unit := do
  Ownable.constructor initialOwner
  revertIf (registry = 0) (.panel .invalidAddress)
  revertIf (evidenceWindow.val < 60 ∨ commitWindow.val < 60 ∨ revealWindow.val < 60)
    (.panel .invalidWindow)

/-- `routerFeeBp` is what `feeRouter.feeBp()` answers. -/
def EscrowV1.constructor (factory feeRouter disputePanel council : Address)
    (routerFeeBp feeBp : Uint16) (deadlockTimeout : Uint64) : Except Revert Unit := do
  revertIf (factory = 0 ∨ feeRouter = 0 ∨ disputePanel = 0 ∨ council = 0)
    (.escrow .invalidAddress)
  revertIf (deadlockTimeout = 0) (.escrow .invalidDuration)
  revertIf (routerFeeBp ≠ feeBp) (.escrow .invalidFeeConfiguration)

def EscrowFactory.constructor (this paymentToken feeRouter disputePanel council : Address)
    (routerFeeBp : Uint16) (offerTtl deadlockTimeout : Uint64) : Except Revert Unit := do
  revertIf (paymentToken = 0 ∨ feeRouter = 0 ∨ disputePanel = 0 ∨ council = 0)
    (.factory .invalidAddress)
  revertIf (offerTtl = 0 ∨ deadlockTimeout = 0) (.factory .invalidDuration)
  revertIf (routerFeeBp ≠ platformFeeBP) (.factory .invalidFeeConfiguration)
  EscrowV1.constructor this feeRouter disputePanel council routerFeeBp platformFeeBP
    deadlockTimeout

def ReputationRegistryV0.constructor (factory : Address) : Except Revert Unit :=
  revertIf (factory = 0) (.reputation .invalidAddress)

/-- The addresses and constructor arguments of one installation. -/
structure Setup where
  env : Environment
  paymentToken : Address
  feeRouter : Address
  registry : Address
  panel : Address
  factory : Address
  implementation : Address
  reputation : Address
  treasury : Address
  council : Address
  registryOwner : Address
  panelOwner : Address
  stakeGate : Address
  feeBp : Uint16
  evidenceWindow : Uint64
  commitWindow : Uint64
  revealWindow : Uint64
  offerTtl : Uint64
  deadlockTimeout : Uint64

namespace Setup

variable (s : Setup)

/-- The constructors in the order of the deployment script. -/
def deploy : Except Revert Unit := do
  FeeRouter.constructor s.treasury s.feeBp
  Ownable.constructor s.registryOwner
  DisputePanel.constructor s.panelOwner s.registry s.evidenceWindow s.commitWindow s.revealWindow
  EscrowFactory.constructor s.factory s.paymentToken s.feeRouter s.panel s.council s.feeBp
    s.offerTtl s.deadlockTimeout
  ReputationRegistryV0.constructor s.factory

def contracts : List Address :=
  [s.paymentToken, s.feeRouter, s.registry, s.panel, s.factory, s.implementation, s.reputation]

/-- `predictEscrow`. It reads immutables only, so it has one answer at all times. -/
def predictEscrow (seller : Address) (salt : Bytes32) : Address :=
  s.env.create2 s.factory s.implementation (s.env.keccak256 [.address seller, .bytes32 salt])

/-- An address that some clone of the factory has or can get. -/
def CloneAddress (a : Address) : Prop := ∃ seller salt, a = s.predictEscrow seller salt

/-- An account outside of the installation: it may call anything at any time. -/
def External (a : Address) : Prop := a ≠ 0 ∧ a ∉ s.contracts ∧ ¬ s.CloneAddress a

end Setup

/-- A setup that every constructor accepted. Contracts have distinct nonzero
addresses, and no signature recovers to the address of a clone. -/
structure Deployment extends Setup where
  accepted : toSetup.deploy = .ok ()
  distinct : toSetup.contracts.Nodup
  nonzero : 0 ∉ toSetup.contracts
  keyless : ∀ src dst value validAfter validBefore nonce signature,
    ¬ toSetup.CloneAddress (env.signer src dst value validAfter validBefore nonce signature)

namespace Deployment

variable (d : Deployment)

/-- What the constructors checked. -/
theorem accepted_iff (s : Setup) : s.deploy = .ok () ↔
    (s.treasury ≠ 0 ∧ s.feeBp.val ≤ bpDenominator) ∧ s.registryOwner ≠ 0 ∧
    (s.panelOwner ≠ 0 ∧ s.registry ≠ 0 ∧
      60 ≤ s.evidenceWindow.val ∧ 60 ≤ s.commitWindow.val ∧ 60 ≤ s.revealWindow.val) ∧
    ((s.paymentToken ≠ 0 ∧ s.feeRouter ≠ 0 ∧ s.panel ≠ 0 ∧ s.council ≠ 0) ∧
      (s.offerTtl ≠ 0 ∧ s.deadlockTimeout ≠ 0) ∧ s.feeBp = platformFeeBP ∧ s.factory ≠ 0) := by
  simp only [Setup.deploy, FeeRouter.constructor, Ownable.constructor, DisputePanel.constructor,
    EscrowFactory.constructor, EscrowV1.constructor, ReputationRegistryV0.constructor, bind_ok,
    revertIf_ok, exists_const]
  push Not
  constructor
  · rintro ⟨⟨h1, h2⟩, h3, ⟨h4, h5, h6⟩, ⟨h7, h8, h9, ⟨h10, -⟩, -⟩, -⟩
    exact ⟨⟨h1, h2⟩, h3, ⟨h4, h5, h6⟩, h7, h8, h9, h10⟩
  · rintro ⟨⟨h1, h2⟩, h3, ⟨h4, h5, h6⟩, h7, h8, h9, h10⟩
    exact ⟨⟨h1, h2⟩, h3, ⟨h4, h5, h6⟩, ⟨h7, h8, h9, ⟨h10, h7.2⟩, h8.2, h9⟩, h10⟩

theorem feeBp_eq : d.feeBp = platformFeeBP := ((accepted_iff d.toSetup).mp d.accepted).2.2.2.2.2.1

theorem treasury_ne_zero : d.treasury ≠ 0 := ((accepted_iff d.toSetup).mp d.accepted).1.1

theorem paymentToken_ne_zero : d.paymentToken ≠ 0 :=
  ((accepted_iff d.toSetup).mp d.accepted).2.2.2.1.1

theorem feeRouter_ne_zero : d.feeRouter ≠ 0 :=
  ((accepted_iff d.toSetup).mp d.accepted).2.2.2.1.2.1

theorem windows : 60 ≤ d.evidenceWindow.val ∧ 60 ≤ d.commitWindow.val ∧ 60 ≤ d.revealWindow.val :=
  ((accepted_iff d.toSetup).mp d.accepted).2.2.1.2.2

end Deployment

end VapiArc.Escrow
