import VapiArc.App.DashboardWire
import VapiArc.App.DisputeView
import VapiArc.App.LogStore
import VapiArc.App.LogSync
import VapiArc.App.Marketplace
import VapiArc.App.Mirror
import VapiArc.App.Reputation
import VapiArc.Demo.Actions
import VapiArc.Demo.Archives
import VapiArc.Demo.Capabilities
import VapiArc.Demo.FundRecord
import VapiArc.Demo.Moves
import VapiArc.Demo.Processing
import VapiArc.Demo.Processor
import VapiArc.Demo.Refunds
import VapiArc.Demo.Runs
import VapiArc.Demo.Service
import VapiArc.Demo.SingleRun
import VapiArc.Demo.Steps
import VapiArc.Demo.Tracking
import VapiArc.Escrow.Ballots
import VapiArc.Escrow.Cases
import VapiArc.Escrow.Changes
import VapiArc.Escrow.Deployment
import VapiArc.Escrow.DisputePanel
import VapiArc.Escrow.DisputePhases
import VapiArc.Escrow.EscrowFactory
import VapiArc.Escrow.EscrowV1
import VapiArc.Escrow.Events
import VapiArc.Escrow.Execution
import VapiArc.Escrow.FactoryIdentity
import VapiArc.Escrow.Lifecycle
import VapiArc.Escrow.Liveness
import VapiArc.Escrow.OrderEvents
import VapiArc.Escrow.PanelOutcome
import VapiArc.Escrow.Registration
import VapiArc.Escrow.ReputationSoundness
import VapiArc.Escrow.Settlement
import VapiArc.Escrow.SettlementAuthority
import VapiArc.Escrow.Solvency
import VapiArc.Escrow.Specs
import VapiArc.Escrow.Storage
import VapiArc.Escrow.VoteCap
import VapiArc.Escrow.World
import VapiArc.Judge.DecisionEvidence
import VapiArc.Judge.Evidence
import VapiArc.Judge.EvidenceAccepted
import VapiArc.Judge.EvidenceSchema
import VapiArc.Judge.EvidenceStore
import VapiArc.Judge.Gates
import VapiArc.Judge.Handover
import VapiArc.Judge.Pipeline
import VapiArc.Judge.Prompts
import VapiArc.Judge.RequestPacer
import VapiArc.Judge.Validate
import VapiArc.Judge.Watcher
import VapiArc.Judge.WatcherCoverage
import VapiArc.Judge.Worker
import VapiArc.Judge.WorkerHealth
import VapiArc.Lib.Admission
import VapiArc.Lib.Async
import VapiArc.Lib.Checked
import VapiArc.Lib.Erc20
import VapiArc.Lib.FixedPoint
import VapiArc.Lib.Interpret
import VapiArc.Lib.Json
import VapiArc.Lib.JsonOrder
import VapiArc.Lib.JsonRoundTrip
import VapiArc.Lib.Latest
import VapiArc.Lib.Number
import VapiArc.Lib.OrderedMap
import VapiArc.Lib.Outcome
import VapiArc.Lib.Pool
import VapiArc.Lib.Reentrancy
import VapiArc.Lib.Roll
import VapiArc.Lib.Table
import VapiArc.Lib.Threshold
import VapiArc.Lib.Transition
import VapiArc.Lib.Word
import VapiArc.Review.Amounts
import VapiArc.Review.Chain
import VapiArc.Review.CircleOnce
import VapiArc.Review.CircleWebhook
import VapiArc.Review.ClaimUnique
import VapiArc.Review.Contract
import VapiArc.Review.Council
import VapiArc.Review.CouncilBootstrap
import VapiArc.Review.DashboardAgrees
import VapiArc.Review.DashboardService
import VapiArc.Review.DashboardSnapshot
import VapiArc.Review.DashboardStorage
import VapiArc.Review.DashboardWindow
import VapiArc.Review.DeliverableScan
import VapiArc.Review.Evidence
import VapiArc.Review.EvidenceStable
import VapiArc.Review.ExpiryBudget
import VapiArc.Review.Gateway
import VapiArc.Review.Ledger
import VapiArc.Review.Liability
import VapiArc.Review.Offers
import VapiArc.Review.OnePayment
import VapiArc.Review.Orders
import VapiArc.Review.Payments
import VapiArc.Review.Phases
import VapiArc.Review.Processor
import VapiArc.Review.Purchases
import VapiArc.Review.Rails
import VapiArc.Review.RateLimit
import VapiArc.Review.ReservationChanges
import VapiArc.Review.ReservationKept
import VapiArc.Review.Reservations
import VapiArc.Review.ResolutionRefund
import VapiArc.Review.Semaphore
import VapiArc.Review.Service
import VapiArc.Review.Soundness
import VapiArc.Review.TelegramUpdates
import VapiArc.Review.Treasury
import VapiArc.Review.VerdictKept
import VapiArc.Review.VerdictPrompts
import VapiArc.Router.EvaluationRouter
import VapiArc.Router.Events
import VapiArc.Router.LaneSafety
import VapiArc.Router.OneShot
import VapiArc.Router.Specs
