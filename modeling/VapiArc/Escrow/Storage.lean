import VapiArc.Lib.Erc20
import VapiArc.Lib.Word

/-!
# Storage and errors of the escrow contracts

Addresses and 32-byte words are natural numbers: only their equality matters, and
an unbounded range leaves room for hash functions without collisions.
-/
namespace VapiArc.Escrow

abbrev Address := Nat
abbrev Bytes32 := Nat
abbrev Uint8 := Word 8
abbrev Uint16 := Word 16
abbrev Uint64 := Word 64
abbrev Uint256 := Word 256
abbrev Bytes := List Uint8

instance neZero8 : NeZero (2 ^ 8) := ⟨by decide⟩
instance neZero16 : NeZero (2 ^ 16) := ⟨by decide⟩
instance neZero64 : NeZero (2 ^ 64) := ⟨by decide⟩
instance neZero256 : NeZero (2 ^ 256) := ⟨by decide⟩

inductive State where
  | none
  | created
  | locked
  | submitted
  | disputed
  | resolved
  | expired
  deriving DecidableEq, Repr

inductive Resolution where
  | none
  | release
  | refund
  | split
  deriving DecidableEq, Repr

/-- The value a Solidity enum member has as a `uint8`. -/
def State.toUint8 : State → Uint8
  | .none => 0
  | .created => 1
  | .locked => 2
  | .submitted => 3
  | .disputed => 4
  | .resolved => 5
  | .expired => 6

def Resolution.toUint8 : Resolution → Uint8
  | .none => 0
  | .release => 1
  | .refund => 2
  | .split => 3

/-- The conversion `Resolution(value)`, which panics outside of the enum. -/
def Resolution.ofNat? : Nat → Option Resolution
  | 0 => some .none
  | 1 => some .release
  | 2 => some .refund
  | 3 => some .split
  | _ => Option.none

/-- The storage of one `EscrowV1` instance. -/
structure EscrowV1 where
  state : State := .none
  resolution : Resolution := .none
  buyer : Address := 0
  seller : Address := 0
  token : Address := 0
  amount : Uint256 := 0
  termsHash : Bytes32 := 0
  deliveryHash : Bytes32 := 0
  offerDeadline : Uint64 := 0
  workDeadline : Uint64 := 0
  reviewDeadline : Uint64 := 0
  disputedAt : Uint64 := 0
  counterEvidenceDeadline : Uint64 := 0
  workDuration : Uint64 := 0
  reviewWindow : Uint64 := 0
  disputeRaisedBy : Address := 0
  counterEvidenceSubmitted : Bool := false
  deriving DecidableEq, Repr

structure EscrowFactory where
  isEscrow : Address → Bool

structure CaseData where
  commitStart : Uint64 := 0
  commitDeadline : Uint64 := 0
  revealDeadline : Uint64 := 0
  revealCount : Uint8 := 0
  releaseVotes : Uint8 := 0
  refundVotes : Uint8 := 0
  splitVotes : Uint8 := 0
  executed : Bool := false
  deriving DecidableEq, Repr

structure DisputePanel where
  owner : Address
  factory : Address
  cases : Address → CaseData
  commitments : Address → Address → Bytes32
  revealed : Address → Address → Bool

structure ArbiterRegistry where
  owner : Address
  arbiters : Address → Bool
  arbiterCount : Uint256

structure Score where
  settled : Uint64 := 0
  released : Uint64 := 0
  refunded : Uint64 := 0
  disputed : Uint64 := 0
  splits : Uint64 := 0
  deriving DecidableEq, Repr

structure ReputationRegistryV0 where
  isAttested : Address → Bool
  scores : Address → Score

inductive EscrowV1.Error where
  | notFactory
  | alreadyInitialized
  | invalidAddress
  | invalidAmount
  | invalidDuration
  | invalidFeeConfiguration
  | invalidState (expected actual : State)
  | invalidLiveState (actual : State)
  | offerStillOpen
  | offerExpired
  | notBuyer
  | notSeller
  | notParty
  | notCounterparty
  | deadlinePassed
  | deadlineNotPassed
  | counterEvidenceAlreadySubmitted
  | fundingAmountMismatch
  | unauthorizedResolver
  | invalidOutcome
  | timestampOverflow
  deriving DecidableEq, Repr

inductive EscrowFactory.Error where
  | invalidAddress
  | invalidAmount
  | invalidDuration
  | unsupportedToken
  | invalidFeeConfiguration
  | timestampOverflow
  deriving DecidableEq, Repr

inductive DisputePanel.Error where
  | factoryAlreadySet
  | factoryNotSet
  | invalidAddress
  | invalidWindow
  | notRegisteredEscrow
  | disputeAlreadyOpened
  | disputeNotOpened
  | disputeAlreadyExecuted
  | notArbiter
  | commitWindowClosed
  | commitmentAlreadySubmitted
  | invalidCommitment
  | revealWindowClosed
  | invalidVote
  | voteAlreadyRevealed
  | commitmentMismatch
  | disputeNotExecutable
  deriving DecidableEq, Repr

inductive FeeRouter.Error where
  | invalidAddress
  | invalidFee
  deriving DecidableEq, Repr

inductive ArbiterRegistry.Error where
  | invalidArbiter
  | stakeRequired
  deriving DecidableEq, Repr

inductive ReputationRegistryV0.Error where
  | invalidAddress
  | notRegisteredEscrow
  | escrowNotResolved
  | alreadyAttested
  | invalidResolution
  deriving DecidableEq, Repr

/-- Why a call reverts. -/
inductive Revert where
  | escrow (error : EscrowV1.Error)
  | factory (error : EscrowFactory.Error)
  | panel (error : DisputePanel.Error)
  | feeRouter (error : FeeRouter.Error)
  | registry (error : ArbiterRegistry.Error)
  | reputation (error : ReputationRegistryV0.Error)
  | token (fault : Erc20.Fault)
  | ownableInvalidOwner (owner : Address)
  | ownableUnauthorizedAccount (account : Address)
  | failedDeployment
  /-- A call to an address without the expected code, or into code that reverted. -/
  | failedCall
  /-- `Panic(0x11)` -/
  | arithmeticOverflow
  /-- `Panic(0x21)` -/
  | enumConversion
  deriving DecidableEq, Repr

end VapiArc.Escrow
