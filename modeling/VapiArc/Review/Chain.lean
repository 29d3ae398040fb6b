import VapiArc.Review.Gateway

/-!
# The review chain

`LiveReviewChain` reads a job, and the deliverable that its provider committed to, from the
commerce contract. Blocks are integers, as the source's `bigint`.
-/
namespace VapiArc.Review

open Checked

/-- A `JobSubmitted` log of the commerce contract. -/
structure JobSubmitted where
  blockNumber : ℤ
  jobId : Nat
  provider : Address
  deliverable : Hex
  deriving DecidableEq, Repr

/-- The filter that is handed to `getLogs`; both bounds are inclusive. -/
structure LogQuery where
  jobId : Nat
  fromBlock : ℤ
  toBlock : ℤ
  deriving DecidableEq, Repr

def LogQuery.matching (query : LogQuery) (log : JobSubmitted) : Bool :=
  log.jobId = query.jobId ∧ query.fromBlock ≤ log.blockNumber ∧ log.blockNumber ≤ query.toBlock

structure RawJob where
  id : Nat
  client : Address
  provider : Address
  evaluator : Address
  budget : Nat
  expiredAt : Nat
  status : Nat
  deriving DecidableEq, Repr

/-- Whatever the calls of a client throw, and what the service throws itself. -/
inductive ChainFailure where
  | error (message : String)
  | validation (error : ReviewValidationError)
  deriving DecidableEq, Repr

/-- The calls of viem's public client, with what they answer. -/
structure PublicClient where
  getBlockNumber : Except ChainFailure ℤ
  getLogs : LogQuery → Except ChainFailure (List JobSubmitted)
  getJob : Nat → Except ChainFailure RawJob
  resolutions : Nat → Except ChainFailure Nat
  evidence : Nat → Except ChainFailure Hex

def logBlockRange : ℤ := 2000

def deliverableCommitmentNotFound : ReviewValidationError where
  message := "JobSubmitted commitment was not found within the configured block lookback"
  statusCode := 422
  code := "deliverable_commitment_not_found"

/-- The queries of a scan, in their order, and how it ends. -/
structure Scan where
  queries : List LogQuery
  outcome : Except ChainFailure Hex

def Scan.after (scan : Scan) (query : LogQuery) : Scan := { scan with queries := query :: scan.queries }

def earliestBlock (latest logLookbackBlocks : ℤ) : ℤ :=
  if latest > logLookbackBlocks then latest - logLookbackBlocks else 0

/-- The range that ends with `toBlock`. -/
def chunkStart (earliest toBlock : ℤ) : ℤ :=
  if toBlock - earliest + 1 > logBlockRange then toBlock - logBlockRange + 1 else earliest

theorem earliest_le_chunkStart {earliest toBlock : ℤ} : earliest ≤ chunkStart earliest toBlock := by
  unfold chunkStart logBlockRange
  split <;> omega

theorem chunkStart_le {earliest toBlock : ℤ} (more : earliest ≤ toBlock) :
    chunkStart earliest toBlock ≤ toBlock := by
  unfold chunkStart logBlockRange
  split <;> omega

theorem chunk_short {earliest toBlock : ℤ} :
    toBlock - chunkStart earliest toBlock + 1 ≤ logBlockRange := by
  unfold chunkStart logBlockRange
  split <;> omega

section Scan

variable (client : PublicClient)

/-- The loop of `scanDeliverableHash`, from `toBlock` down. -/
def scanFrom (jobId : Nat) (earliest toBlock : ℤ) : Scan :=
  if _ : earliest ≤ toBlock then
    let fromBlock := chunkStart earliest toBlock
    let query := { jobId, fromBlock, toBlock }
    let rest : Scan :=
      match client.getLogs query with
      | .error failure => ⟨[], .error failure⟩
      | .ok logs =>
        match logs.getLast? with
        -- A strictly decoded log has its deliverable.
        | some latestLog => ⟨[], .ok latestLog.deliverable⟩
        | none =>
          if fromBlock = earliest then ⟨[], .error (.validation deliverableCommitmentNotFound)⟩
          else scanFrom jobId earliest (fromBlock - 1)
    rest.after query
  else ⟨[], .error (.validation deliverableCommitmentNotFound)⟩
termination_by (toBlock + 1 - earliest).toNat
decreasing_by
  have below : chunkStart earliest toBlock ≤ toBlock := chunkStart_le ‹_›
  omega

def scanDeliverableHash (logLookbackBlocks : ℤ) (jobId : Nat) : Scan :=
  match client.getBlockNumber with
  | .error failure => ⟨[], .error failure⟩
  | .ok latest => scanFrom client jobId (earliestBlock latest logLookbackBlocks) latest

end Scan

/-- `Number.MAX_SAFE_INTEGER` -/
def maxSafeInteger : ℤ := 9007199254740991

/-- `Number.isSafeInteger` -/
def isSafeInteger (n : ℤ) : Bool := -maxSafeInteger ≤ n ∧ n ≤ maxSafeInteger

def statusSubmitted : Nat := 2

def resolutionEscalated : Nat := 3

structure LiveReviewChain where
  client : PublicClient
  library : Library
  routerAddress : Address
  logLookbackBlocks : ℤ := 100000
  minJobExpiryBufferSeconds : ℤ := 0

namespace LiveReviewChain

variable (chain : LiveReviewChain)

/-- `deliverableHashes` holds what was found before. -/
def findDeliverableHash (deliverableHashes : Nat → Option Hex) (jobId : Nat) : Except ChainFailure Hex :=
  match deliverableHashes jobId with
  | some cached => .ok cached
  | none => (scanDeliverableHash chain.client chain.logLookbackBlocks jobId).outcome

def jobExpiryTooClose (expiryBuffer : ℤ) : ReviewValidationError where
  message := "job expires too soon for the current review phase; require at least " ++
    toString expiryBuffer ++ " seconds"
  statusCode := 409
  code := "job_expiry_too_close"
  permanent := true

/-- `now` is the time after the job was read. -/
def validateReview (deliverableHashes : Nat → Option Hex) (jobId : Nat) (content : String)
    (minJobExpiryBufferSeconds : Option ℤ) (now : Timestamp) :
    Except ChainFailure ValidatedReviewJob := do
  let job ← chain.client.getJob jobId
  revertIf (job.id ≠ jobId)
    (.validation { message := "job does not exist", statusCode := 404, code := "job_not_found" })
  revertIf (job.evaluator ≠ chain.routerAddress)
    (.validation {
      message := "job is not assigned to the current EvaluationRouter"
      statusCode := 409, code := "wrong_evaluator", permanent := true })
  revertIf (job.status ≠ statusSubmitted)
    (.validation {
      message := "job is not in Submitted state"
      statusCode := 409, code := "wrong_job_status"
      permanent := job.status = 3 ∨ job.status = 4 })
  let expiryBuffer := minJobExpiryBufferSeconds.getD chain.minJobExpiryBufferSeconds
  revertIf (isSafeInteger expiryBuffer = false ∨ expiryBuffer < 0)
    (.error "review expiry buffer must be a safe non-negative integer")
  let minimumExpiry : ℤ := (now / 1000 : Nat) + expiryBuffer
  revertIf ((job.expiredAt : ℤ) < minimumExpiry) (.validation (jobExpiryTooClose expiryBuffer))
  let resolution ← chain.client.resolutions jobId
  revertIf (resolution ≠ resolutionEscalated)
    (.validation {
      message := "job has not been escalated for human review"
      statusCode := 409, code := "job_not_escalated"
      permanent := [1, 2, 4, 5].contains resolution })
  let deliverableHash ← chain.findDeliverableHash deliverableHashes jobId
  let escalationReasonHash ← chain.client.evidence jobId
  revertIf (chain.library.keccak256 content ≠ deliverableHash)
    (.validation {
      message := "deliverable content does not match the on-chain commitment"
      statusCode := 422, code := "deliverable_hash_mismatch", permanent := true })
  return {
    jobId
    client := job.client
    provider := job.provider
    expiredAt := job.expiredAt
    deliverableHash
    escalationReasonHash
    escalationReasonCode := none
    escalationCause := none }

end LiveReviewChain

end VapiArc.Review
