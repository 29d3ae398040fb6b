import VapiArc.Demo.Actions
import VapiArc.Lib.Async

/-!
# The processing of a demo run

`processRun` of `DemoProcessor` as an asynchronous routine: a call of the repository is one
synchronous step, and a call of `DemoChainRail` is a request whose reply is awaited, as is the
turn of the wallet. The entries of the log of events are left out.
-/
namespace VapiArc.Demo

open Checked Function Async Review

/-- What becomes of a transaction: it is on its way to a node, waits in the network, is in a
block, or will never be in one. -/
inductive Fate where
  | requested
  | pending
  | success
  | reverted
  | lost
  deriving DecidableEq, Repr

/-- A transaction that funds an escrow; its hash is known once a node has it. -/
structure FundTransaction where
  runId : RunId
  jobId : Nat
  hash : Option Hex := none
  fate : Fate := .requested
  deriving DecidableEq, Repr

/-- The statuses of the jobs, and the fund transactions in the order in which they were sent. -/
structure DemoChain where
  status : Nat → Nat := fun _ => 0
  funds : List FundTransaction := []

/-- The tables, the chain, the payment requests that the gateway has not finished, and a record
of the runs that `archive` has changed. -/
structure DemoStore where
  repository : DemoRepository := {}
  purchases : PurchaseState := {}
  chain : DemoChain := {}
  paying : List String := []
  archived : List RunId := []

def DemoStore.database (s : DemoStore) : DemoDatabase := ⟨s.repository, s.purchases.db⟩

/-- The fields of `RawJob` that are read. -/
structure DemoJob where
  budget : Nat
  expiredAt : Nat
  status : Nat
  deriving DecidableEq, Repr

structure DemoHumanResolution where
  resolution : Nat
  evidenceHash : Hex
  reviewer : Address
  reward : Nat
  payoutTransactionHash : Hex
  deriving DecidableEq, Repr

structure DemoPaymentResult where
  orderId : Token
  transaction : String
  deriving DecidableEq, Repr

/-- The calls of `DemoChainRail`, and the wait for the wallet. -/
inductive DemoCall where
  | walletTurn
  | getBlockNumber
  | findCreatedJob
  | getReceipt (transaction : Reference)
  | getLane (jobId : Nat)
  | getJob (jobId : Nat)
  | getAllowance
  | getResolution (jobId : Nat)
  | getHumanResolution (jobId : Nat)
  | findEscalationTransaction (jobId : Nat) (fromBlock : Option Nat)
  | sendCreateJob
  | sendSetLane (jobId : Nat)
  | sendSetBudget (jobId budget : Nat)
  | sendApprove (amount : Nat)
  | sendFund (jobId : Nat)
  | sendSubmit (jobId : Nat) (deliverableHash : Hex)
  | sendClaimRefund (jobId : Nat)
  | purchaseReview (requestId : String)
  deriving DecidableEq, Repr

/-- A call, and the run that it is made for. -/
structure DemoRequest where
  runId : RunId
  call : DemoCall
  deriving DecidableEq, Repr

inductive DemoReply where
  | done
  | block (number : Nat)
  | created (recovered : Option (Nat × Hex))
  /-- Whether the transaction succeeded, once it is in a block. -/
  | receipt (success : Option Bool)
  | number (value : Nat)
  | job (job : DemoJob)
  | provenance (resolution : DemoHumanResolution)
  | found (hash : Option Hex)
  | sent (hash : Hex)
  | paid (payment : DemoPaymentResult)
  deriving DecidableEq, Repr

abbrev DemoRoutine (α : Type) : Type := Routine DemoStore Timestamp DemoRequest DemoReply DemoError α

namespace DemoProcessor

section Steps

/-- A transaction of the repository. -/
def write {α : Type} (t : DemoRepository → Except DemoError (α × DemoRepository)) : DemoRoutine α :=
  .transaction fun _ s => (t s.repository).map fun (a, repository) => (a, { s with repository })

/-- A read of the tables and the clock. -/
def read {α : Type} (f : Timestamp → DemoDatabase → α) : DemoRoutine α :=
  .transaction fun now s => .ok (f now s.database, s)

def check (result : Except DemoError Unit) : DemoRoutine Unit :=
  match result with
  | .ok () => pure ()
  | .error e => throw e

/-- An `if` without an `else`. -/
def doIf (condition : Bool) (x : DemoRoutine Unit) : DemoRoutine Unit :=
  if condition then x else pure ()

def fails {α : Type} (message : String) : DemoRoutine α := throw { message }

variable (runId : RunId)

def recordTransaction (key : DemoTransactionKey) (transaction : Reference) : DemoRoutine Unit := do
  let _ ← write (·.recordTransaction runId key transaction)

def transition (state : DemoRunState) (currentOperation : Option DemoOperation) : DemoRoutine Unit := do
  let _ ← write (·.transition runId state currentOperation)

/-- A call of the rail; a reply has the form that the call asks for. -/
def rail {α : Type} (call : DemoCall) (result : DemoReply → Option α) : DemoRoutine α := do
  let reply ← (.await { runId, call } : DemoRoutine DemoReply)
  match result reply with
  | some a => pure a
  | none => fails "the reply does not belong to the call"

end Steps

section Replies

namespace DemoReply

def block? : DemoReply → Option Nat
  | .block number => some number
  | _ => none

def created? : DemoReply → Option (Option (Nat × Hex))
  | .created recovered => some recovered
  | _ => none

def receipt? : DemoReply → Option (Option Bool)
  | .receipt success => some success
  | _ => none

def number? : DemoReply → Option Nat
  | .number value => some value
  | _ => none

def job? : DemoReply → Option DemoJob
  | .job job => some job
  | _ => none

def provenance? : DemoReply → Option DemoHumanResolution
  | .provenance resolution => some resolution
  | _ => none

def found? : DemoReply → Option (Option Hex)
  | .found hash => some hash
  | _ => none

def sent? : DemoReply → Option Hex
  | .sent hash => some hash
  | _ => none

def paid? : DemoReply → Option DemoPaymentResult
  | .paid payment => some payment
  | _ => none

end DemoReply

end Replies

variable (d : DemoDependencies)

def requireChain : DemoRoutine Unit :=
  if d.chain then pure () else fails "Live Arc demo rail is not configured"

def requireJobId (run : DemoRun) : DemoRoutine Nat :=
  match run.jobId with
  | some jobId => pure jobId
  | none => fails "Demo run is missing its escrow job id"

/-- Whether the transaction is in a block; it may have been reverted there. -/
def confirmedReceipt (runId : RunId) (transaction : Reference) : DemoRoutine Bool := do
  requireChain d
  match ← rail runId (.getReceipt transaction) DemoReply.receipt? with
  | none => return false
  | some success =>
    if success then return true else fails ("Arc transaction reverted: " ++ transaction.text)

/-- A transaction is sent when it is the wallet's turn, and recorded then. -/
def sendTransaction (runId : RunId) (call : DemoCall) (key : DemoTransactionKey) :
    DemoRoutine Unit := do
  let _ ← (.await { runId, call := .walletTurn } : DemoRoutine DemoReply)
  let hash ← rail runId call DemoReply.sent?
  recordTransaction runId key (.hash hash)

/-- A transaction that has become known is recorded, unless it is on record already; the text of a
transfer may be empty. -/
def syncTransaction (run : DemoRun) (key : DemoTransactionKey) (transaction : Option Reference) :
    DemoRoutine Unit :=
  match transaction with
  | some reference =>
    doIf (reference ≠ .transfer "" ∧ run.transactions key ≠ some reference)
      (recordTransaction run.id key reference)
  | none => pure ()

section Escrow

def processCreateJob (run : DemoRun) : DemoRoutine Unit := do
  requireChain d
  match ← rail run.id .findCreatedJob DemoReply.created? with
  | some (jobId, transactionHash) => do
    doIf (run.transactions .createJob).isNone
      (recordTransaction run.id .createJob (.hash transactionHash))
    let _ ← write (·.completeStep run.id .createJob (some .setHumanLane)
      ({ · with jobId := some jobId }))
  | none =>
    match run.transactions .createJob with
    | some transaction => do
      doIf (← confirmedReceipt d run.id transaction)
        (fails "createJob confirmed but its uniquely tagged job could not be recovered")
    | none => sendTransaction run.id .sendCreateJob .createJob

/-- The shape of the steps that send one transaction each: complete the step if its effect is on
chain, look at the transaction if it was sent, or send it. -/
def processStep (run : DemoRun) (effective : DemoRoutine Bool) (step : DemoOperation)
    (nextOperation : DemoOperation) (change : DemoRun → DemoRun) (key : DemoTransactionKey)
    (ineffective : String) (send : DemoRoutine Unit) : DemoRoutine Unit := do
  if ← effective then
    let _ ← write (·.completeStep run.id step (some nextOperation) change)
  else
    match run.transactions key with
    | some transaction => do
      doIf (← confirmedReceipt d run.id transaction) (do
        doIf (!(← effective)) (fails ineffective))
    | none => send

def laneIsHuman (runId : RunId) (jobId : Nat) : DemoRoutine Bool := do
  return (← rail runId (.getLane jobId) DemoReply.number?) = 1

def getJob (runId : RunId) (jobId : Nat) : DemoRoutine DemoJob :=
  rail runId (.getJob jobId) DemoReply.job?

def processSetLane (run : DemoRun) : DemoRoutine Unit := do
  requireChain d
  let jobId ← requireJobId run
  processStep d run (laneIsHuman run.id jobId) .setHumanLane .setBudget id .setLane
    "HumanOnly lane transaction did not update the router"
    (sendTransaction run.id (.sendSetLane jobId) .setLane)

def processSetBudget (run : DemoRun) : DemoRoutine Unit := do
  requireChain d
  let jobId ← requireJobId run
  processStep d run (do return (← getJob run.id jobId).budget = run.input.budget) .setBudget
    .approveUsdc id .setBudget "setBudget transaction did not update the escrow"
    (sendTransaction run.id (.sendSetBudget jobId run.input.budget) .setBudget)

def processApproval (run : DemoRun) : DemoRoutine Unit := do
  requireChain d
  processStep d run
    (do return run.input.budget ≤ (← rail run.id .getAllowance DemoReply.number?)) .approveUsdc
    .fundEscrow id .approval "USDC approval did not provide sufficient allowance"
    (sendTransaction run.id (.sendApprove run.input.budget) .approval)

def processFunding (run : DemoRun) : DemoRoutine Unit := do
  requireChain d
  let jobId ← requireJobId run
  processStep d run (do return 1 ≤ (← getJob run.id jobId).status) .fundEscrow .submitDeliverable id
    .fund "fund transaction did not fund the escrow"
    (sendTransaction run.id (.sendFund jobId) .fund)

/-- The lane is checked again right before the submission. -/
def processSubmission (run : DemoRun) : DemoRoutine Unit := do
  requireChain d
  let jobId ← requireJobId run
  processStep d run (do return 2 ≤ (← getJob run.id jobId).status) .submitDeliverable
    .waitForEscalation ({ · with state := .awaitingEscalation }) .submit
    "submit transaction did not commit the deliverable"
    (do
      if ← laneIsHuman run.id jobId then
        sendTransaction run.id (.sendSubmit jobId run.input.deliverableHash) .submit
      else fails "HumanOnly lane is not set before deliverable submission")

/-- The block from which on the run's transactions are looked for. -/
def startBlock (run : DemoRun) : DemoRoutine Nat :=
  match run.chainStartBlock with
  | some block => pure block
  | none => rail run.id .getBlockNumber DemoReply.block?

/-- The start block of a queued run is found out first. -/
def beginPreparation (run : DemoRun) : DemoRoutine DemoRun :=
  if run.state = .queued then do
    let startBlock ← startBlock run
    write (·.patch run.id ({ · with
      state := .preparingEscrow
      currentOperation := some .createJob
      chainStartBlock := some startBlock
      lastError := none }))
  else pure run

/-- The operation that is due. -/
def prepareStep (run : DemoRun) : DemoRoutine Unit :=
  match run.currentOperation with
  | some .initialize_ | some .createJob | none => processCreateJob d run
  | some .setHumanLane => processSetLane d run
  | some .setBudget => processSetBudget d run
  | some .approveUsdc => processApproval d run
  | some .fundEscrow => processFunding d run
  | some .submitDeliverable => processSubmission d run
  | some operation => fails ("Unknown demo escrow operation " ++ operation.name)

def prepareEscrow (run : DemoRun) : DemoRoutine Unit := do
  requireChain d
  prepareStep d (← beginPreparation run)

def reconcileEscalation (run : DemoRun) : DemoRoutine Unit := do
  requireChain d
  let jobId ← requireJobId run
  let resolution ← rail run.id (.getResolution jobId) DemoReply.number?
  if resolution = 0 then
    doIf (run.input.expiresAt ≤ (← read fun now _ => now / 1000))
      (fails "Escrow expired before the judge escalated it")
  else if resolution ≠ 3 then
    fails s!"Expected HumanOnly escalation, received router resolution {resolution}"
  else
    let transaction ← rail run.id (.findEscalationTransaction jobId run.chainStartBlock)
      DemoReply.found?
    syncTransaction run .escalation (transaction.map .hash)
    transition run.id .awaitingPurchase none

end Escrow

section Review

/-- `internalOrder(order, publicBaseUrl).evidenceVerified === true` -/
def evidenceVerified (order : OrderRow) : Bool :=
  match order.rows.order.evidenceHash, order.rows.order.evidenceJson with
  | some evidenceHash, some evidenceJson =>
    evidenceJson ≠ "" && match (Json.parse evidenceJson : Option JsonValue) with
      | some record => verifyHumanEvidence d.library record evidenceHash
      | none => false
  | _, _ => false

/-- The router's record of the job is that of the order's decision, payout and evidence. -/
def provenanceMatches (order : OrderRow) (job : DemoJob) (provenance : DemoHumanResolution) : Bool :=
  let (expectedResolution, expectedJobStatus) := match order.rows.order.decision with
    | some .approve => (4, 3)
    | some .reject => (5, 4)
    | none => (0, 0)
  expectedResolution ≠ 0 && expectedJobStatus ≠ 0 && job.status = expectedJobStatus &&
    provenance.resolution = expectedResolution &&
    some provenance.evidenceHash = order.rows.order.evidenceHash &&
    some provenance.reviewer = order.rows.order.reviewerPayoutAddress &&
    provenance.reward = order.purchase.reward &&
    some provenance.payoutTransactionHash = (order.rows.order.circle .payout).hash

/-- The part of `reconcileReview` that concerns a settled order. -/
def reconcileSettled (run : DemoRun) (order : OrderRow) : DemoRoutine Unit := do
  match (order.rows.order.circle .resolution).hash with
  | none => fails "Settled review order is missing its humanResolve transaction"
  | some hash =>
    doIf (← confirmedReceipt d run.id (.hash hash)) (do
      requireChain d
      let jobId ← requireJobId run
      let job ← getJob run.id jobId
      let provenance ← rail run.id (.getHumanResolution jobId) DemoReply.provenance?
      doIf (!evidenceVerified d order || !provenanceMatches order job provenance)
        (fails "Human review evidence does not match the terminal Arc router provenance")
      doIf (!run.onChainVerified) (do
        let _ ← write (·.patch run.id ({ · with onChainVerified := true })))
      transition run.id .finalized none)

def reconcileReview (run : DemoRun) : DemoRoutine Unit := do
  match ← read fun _ db => db.attachedOrder run with
  | none => fails "Attached human review order was not found"
  | some order => do
    check (assertReviewOrderMatchesRun d run order)
    doIf run.orderId.isNone (do
      let _ ← write (·.patch run.id ({ · with orderId := some order.purchase.id })))
    syncTransaction run .payment (order.purchase.gatewayTransaction.map .transfer)
    syncTransaction run .payout ((order.rows.order.circle .payout).hash.map .hash)
    syncTransaction run .resolution ((order.rows.order.circle .resolution).hash.map .hash)
    syncTransaction run .reviewRefund ((order.rows.order.circle .refund).hash.map .hash)
    if order.rows.order.state = .refunded then
      transition run.id .archivedRefundPending (some .waitForRefundEligibility)
    else if order.rows.order.state = .settled then
      reconcileSettled d run order

/-- The run is read again before the review is looked at. -/
def attachReviewOrder (run : DemoRun) (order : OrderRow) : DemoRoutine Unit := do
  check (assertReviewOrderMatchesRun d run order)
  let _ ← write (·.completeStep run.id .purchaseReview (some .waitForReview)
    ({ · with orderId := some order.purchase.id, state := .reviewActive }))
  match ← read fun _ db => db.repository.get run.id with
  | some run => reconcileReview d run
  | none => throw { name := "TypeError", message := "Cannot read properties of undefined" }

def purchaseReview (run : DemoRun) : DemoRoutine Unit := do
  match ← read fun _ db => db.attachedOrder run with
  | some existing => do
    check (assertReviewOrderMatchesRun d run existing)
    attachReviewOrder d run existing
  | none => do
    requireChain d
    let payment ← rail run.id (.purchaseReview run.requestId) DemoReply.paid?
    match ← read fun _ db =>
      (db.getOrder payment.orderId).or (db.getOrderByRequestId run.requestId) with
    | none => fails "x402 returned a review order that is not present in durable storage"
    | some order => do
      check (assertReviewOrderMatchesRun d run order)
      doIf (payment.transaction ≠ "")
        (recordTransaction run.id .payment (.transfer payment.transaction))
      match ← read fun _ db => db.repository.get run.id with
      | some run => attachReviewOrder d run order
      | none => throw { name := "TypeError", message := "Cannot read properties of undefined" }

end Review

section Archive

def providerCompleted : String :=
  "Archived escrow was completed to the provider and cannot be reported as a client refund"

/-- The part of `reconcileArchive` that concerns a run without a job. -/
def reconcileUnknownJob (run : DemoRun) : DemoRoutine Unit := do
  match ← rail run.id .findCreatedJob DemoReply.created? with
  | some (jobId, transactionHash) => do
    doIf (run.transactions .createJob).isNone
      (recordTransaction run.id .createJob (.hash transactionHash))
    let _ ← write (·.patch run.id ({ · with jobId := some jobId }))
  | none =>
    match run.transactions .createJob with
    | some transaction => do
      doIf (← confirmedReceipt d run.id transaction)
        (fails "Archived createJob confirmed but its tagged job could not be recovered")
    | none => transition run.id .archivedRefunded none

/-- The part that waits for the expiry, and then claims the refund. -/
def claimRefund (run : DemoRun) (jobId : Nat) (job : DemoJob) : DemoRoutine Unit := do
  doIf (job.expiredAt ≤ (← read fun now _ => now / 1000))
    (match run.transactions .escrowRefund with
    | some transaction => do
      doIf (← confirmedReceipt d run.id transaction) (do
        let refundedJob ← getJob run.id jobId
        if refundedJob.status = 3 then
          fails "claimRefund receipt conflicts with a provider-completed escrow"
        else doIf (refundedJob.status = 4) (transition run.id .archivedRefunded none))
    | none => sendTransaction run.id (.sendClaimRefund jobId) .escrowRefund)

/-- The part for a job that has been seen unfunded. -/
def reconcileUnfunded (run : DemoRun) (jobId : Nat) : DemoRoutine Unit :=
  match run.transactions .fund with
  | none => transition run.id .archivedRefunded none
  | some transaction => do
    doIf (← confirmedReceipt d run.id transaction) (do
      let job ← getJob run.id jobId
      if job.status = 3 then fails providerCompleted
      else if job.status = 4 then transition run.id .archivedRefunded none
      else if job.status = 0 then
        fails "Confirmed fund transaction did not update the escrow; refund state is uncertain"
      else claimRefund d run jobId job)

def reconcileArchive (run : DemoRun) : DemoRoutine Unit := do
  requireChain d
  match run.jobId with
  | none => reconcileUnknownJob d run
  | some jobId => do
    let job ← getJob run.id jobId
    if job.status = 3 then fails providerCompleted
    else if job.status = 4 then transition run.id .archivedRefunded none
    else if job.status = 0 then reconcileUnfunded d run jobId
    else claimRefund d run jobId job

end Archive

def processState (run : DemoRun) : DemoRoutine Unit :=
  match run.state with
  | .queued | .preparingEscrow => prepareEscrow d run
  | .awaitingEscalation => reconcileEscalation d run
  | .purchasingReview => purchaseReview d run
  | .reviewActive => reconcileReview d run
  | .archivedRefundPending => reconcileArchive d run
  | _ => pure ()

/-- What an error leaves behind. -/
def handleError (runId : RunId) (error : DemoError) : DemoRoutine Unit := do
  if isTransientDemoError error then
    let _ ← write (·.noteTransientFailure runId error)
  else
    let _ ← write (·.fail runId error)

/-- A second call for the same run returns at once while one is under way. -/
def processRun (runId : RunId) : DemoRoutine Unit :=
  tryCatch
    (do
      match ← read fun _ db => db.repository.get runId with
      | some run => processState d run
      | none => pure ())
    (handleError runId)

end DemoProcessor

end VapiArc.Demo
