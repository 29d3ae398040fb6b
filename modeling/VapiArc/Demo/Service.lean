import VapiArc.Demo.Processor
import VapiArc.Lib.Pool
import VapiArc.Review.ReservationChanges

/-!
# The demo service

The runs are processed in any order and at any times, and a run by one activity at most. The
presenter's actions and the gateway, which takes payments and recovers them, share the thread
with the activities; the chain does not. A request under the identifier of a run's request is
one of the run's own payments.
-/
namespace VapiArc.Demo

open Checked Function Async Transition Review

/-- What happens outside of the processing. -/
inductive DemoOutside where
  | createRun (input : CreateDemoRunInput) (now timestamp : Timestamp)
  | purchase (runId : RunId)
  | retry (runId : RunId) (nextKey : IdempotencyKey)
  /-- A crash between the two transactions of a `retry`. -/
  | interruptedRetry (runId : RunId)
  | archive (runId : RunId)
  | review (event : PurchaseEvent)
  /-- The gateway has finished a payment request. -/
  | finish (requestId : String)
  | fund (index : Nat) (fate : Fate) (hash : Hex)
  | status (jobId status : Nat)

namespace DemoStore

variable (s : DemoStore)

def withDatabase (db : DemoDatabase) : DemoStore :=
  { s with repository := db.repository, purchases := { s.purchases with db := db.reviews } }

/-- An action writes nothing when it is refused. -/
def acted (result : Except DemoError (DemoRun × DemoDatabase)) : DemoStore :=
  match result with
  | .ok (_, db) => s.withDatabase db
  | .error _ => s

/-- The store after a request was sent. -/
def issue (request : DemoRequest) : DemoStore :=
  match request.call with
  | .sendFund jobId =>
    { s with chain := { s.chain with
      funds := s.chain.funds ++ [{ runId := request.runId, jobId }] } }
  | .purchaseReview requestId => { s with paying := requestId :: s.paying }
  | _ => s

/-- The identifier is that of a run's request. -/
def Owned (requestId : String) : Prop := ∃ run ∈ s.repository.runs, run.requestId = requestId

/-- The gateway takes part in the payments of a run while one of them is under way, and in the
recovery of what it has journaled at any time. -/
def Serves : PurchaseEvent → Prop
  | .acquire p => s.Owned p.requestId → p.requestId ∈ s.paying
  | .mark token _ _ _ => ∀ r ∈ s.purchases.db.reservations, r.token = token →
      s.Owned r.requestId → r.requestId ∈ s.paying
  | .defer token _ _ _ | .record token _ => ∀ r ∈ s.purchases.db.reservations, r.token = token →
      s.Owned r.requestId → r.requestId ∈ s.paying ∨ r.mayBePaid = true
  | .create input _ => s.Owned input.requestId → input.requestId ∈ s.paying
  | _ => True

end DemoStore

namespace DemoChain

variable (chain : DemoChain)

/-- `Rejected` and `Completed` are the ends of a job. -/
def final (status : Nat) : Prop := status = 3 ∨ status = 4

/-- What may become of a transaction next; one that funds a job finds it open. -/
def Permits (tx : FundTransaction) : Fate → Prop
  | .requested => False
  | .pending => tx.fate = .requested
  | .success => tx.fate = .pending ∧ chain.status tx.jobId = 0
  | .reverted => tx.fate = .pending
  | .lost => tx.fate = .requested ∨ tx.fate = .pending

/-- A fund transaction that succeeds makes its job a funded one. -/
def settle (index : Nat) (fate : Fate) (hash : Hex) : DemoChain :=
  match chain.funds[index]? with
  | none => chain
  | some tx =>
    { status := if fate = .success then update chain.status tx.jobId 1 else chain.status
      funds := chain.funds.set index
        { tx with fate, hash := if fate = .pending then some hash else tx.hash } }

end DemoChain

/-- A node may be behind, but what it tells of the end of a job and of a transaction in a block
is true. -/
def answers (request : DemoRequest) (s : DemoStore) : Except DemoError DemoReply → Prop
  | .error _ => True
  | .ok reply =>
    match request.call, reply with
    | .walletTurn, .done | .getBlockNumber, .block _ | .findCreatedJob, .created _
    | .getLane _, .number _ | .getAllowance, .number _ | .getResolution _, .number _
    | .getHumanResolution _, .provenance _ | .findEscalationTransaction _ _, .found _
    | .sendCreateJob, .sent _ | .sendSetLane _, .sent _ | .sendSetBudget _ _, .sent _
    | .sendApprove _, .sent _ | .sendSubmit _ _, .sent _ | .sendClaimRefund _, .sent _
    | .purchaseReview _, .paid _ => True
    | .getJob jobId, .job job => DemoChain.final job.status → s.chain.status jobId = job.status
    | .getReceipt transaction, .receipt success => ∀ tx ∈ s.chain.funds,
        tx.hash.map .hash = some transaction → ∀ succeeded, success = some succeeded →
          tx.fate = if succeeded then .success else .reverted
    | .sendFund _, .sent hash => ∃ tx ∈ s.chain.funds, tx.runId = request.runId ∧ tx.hash = some hash
    | _, _ => False

section Service

variable (d : DemoDependencies) (config : TreasuryConfig) (balance : Nat)

/-- `archive` changes the run. -/
def archives (s : DemoStore) (runId : RunId) : Bool :=
  match DemoProcessor.archive d s.database runId with
  | .ok _ => (s.repository.get runId).any fun run =>
      run.state = .failed || run.state = .awaitingPurchase
  | .error _ => false

def outside (s : DemoStore) : DemoOutside → DemoStore
  | .createRun input now timestamp =>
    match s.repository.createRun input d.config.demoMaxRunsPerHour now timestamp with
    | .ok (_, repository) => { s with repository }
    | .error _ => s
  | .purchase runId => s.acted (DemoProcessor.purchase s.database runId)
  | .retry runId nextKey => s.acted (DemoProcessor.retry d s.database runId nextKey)
  | .interruptedRetry runId =>
    s.acted (do
      let run ← DemoProcessor.requireRun s.database runId
      DemoProcessor.writes s.database (DemoProcessor.cleared s.database run))
  | .archive runId =>
    { s.acted (DemoProcessor.archive d s.database runId) with
      archived := if archives d s runId then runId :: s.archived else s.archived }
  | .review event => { s with purchases := purchaseStep config balance s.purchases event }
  | .finish requestId => { s with paying := s.paying.erase requestId }
  | .fund index fate hash => { s with chain := s.chain.settle index fate hash }
  | .status jobId status =>
    { s with chain := { s.chain with status := update s.chain.status jobId status } }

def demoHost : Host DemoStore Timestamp DemoRequest DemoReply DemoError DemoOutside RunId where
  inputs _ _ := True
  issue request s := s.issue request
  answers := answers
  spawn runId := (DemoProcessor.processRun d runId).start
  outside := outside d config balance
  permits s
    | .interruptedRetry runId => ∃ run, s.repository.get runId = some run ∧ run.state = .failed
    | .review event => (purchases config balance).admits s.purchases event ∧ s.Serves event
    | .fund index fate _ => ∃ tx, s.chain.funds[index]? = some tx ∧ s.chain.Permits tx fate
    | .status jobId _ => ¬ DemoChain.final (s.chain.status jobId)
    | _ => True
  remote
    | .fund _ _ _ | .status _ _ => True
    | _ => False

abbrev DemoActivity : Type := Activity DemoStore Timestamp DemoRequest DemoReply DemoError

abbrev DemoState := PoolState RunId DemoStore Timestamp DemoRequest DemoReply DemoError
abbrev DemoEvent := PoolEvent RunId Timestamp DemoReply DemoError DemoOutside

def demo : System DemoState DemoEvent := (demoHost d config balance).pool

/-- A run of the service, from empty tables. -/
abbrev DemoServiceRun (history : List (DemoState × DemoEvent)) (v : DemoState) : Prop :=
  Run (demo d config balance) ⟨{}, fun _ => .idle⟩ history v

end Service

/-! ### An installation

Two concrete runs, and a check of what the service admits that can be evaluated.
-/

namespace DemoWalkthrough

theorem maxAttempts_pos : 0 < 3 := Nat.succ_pos 2

def config : TreasuryConfig :=
  { reviewPrice := 100000, reviewerReward := 50000, minimumTreasuryBalance := 0 }

def balance : Nat := 1000000

def dependencies : DemoDependencies :=
  { config :=
      { gatewayNetwork := "eip155:5042002", circleMaxAttempts := 3
        circleMaxAttempts_pos := maxAttempts_pos, demoMaxRunsPerHour := 3 }
    library := { keccak256 := String.length, addressText := fun address => toString address }
    jobColumns := fun _ => { jobDescription := "demo", jobBudget := 1000000 }
    chain := true }

def requestId : RunId → String
  | 0 => "first"
  | _ => "second"

def input (runId : RunId) : CreateDemoRunInput :=
  { runId, requestId := requestId runId, description := "demo", deliverableContent := "content"
    deliverableHash := 2, clientAddress := 3, providerAddress := 4, budget := 1000000
    reviewPrice := 100000, reward := 50000, expiresAt := 90000 }

section Checks

def running : DemoActivity → Bool
  | .running _ => true
  | _ => false

/-- Nothing holds the thread; two runs are all that there are. -/
def free (v : DemoState) : Bool := !running (v.activity 0) && !running (v.activity 1)

def answered (request : DemoRequest) (s : DemoStore) : Except DemoError DemoReply → Bool
  | .error _ => true
  | .ok reply =>
    match request.call, reply with
    | .walletTurn, .done | .getBlockNumber, .block _ | .findCreatedJob, .created _
    | .getLane _, .number _ | .getAllowance, .number _ | .getResolution _, .number _
    | .getHumanResolution _, .provenance _ | .findEscalationTransaction _ _, .found _
    | .sendCreateJob, .sent _ | .sendSetLane _, .sent _ | .sendSetBudget _ _, .sent _
    | .sendApprove _, .sent _ | .sendSubmit _ _, .sent _ | .sendClaimRefund _, .sent _
    | .purchaseReview _, .paid _ => true
    | .getJob jobId, .job job => s.chain.status jobId = job.status
    | .sendFund _, .sent hash => s.chain.funds.any fun tx =>
        tx.runId = request.runId && tx.hash = some hash
    | _, _ => false

def settles (chain : DemoChain) (tx : FundTransaction) : Fate → Bool
  | .requested => false
  | .pending => tx.fate = .requested
  | .success => tx.fate = .pending && chain.status tx.jobId = 0
  | .reverted => tx.fate = .pending
  | .lost => tx.fate = .requested || tx.fate = .pending

def served (s : DemoStore) : PurchaseEvent → Bool
  | .acquire p => !s.purchases.issued.contains p.randomUUID && s.paying.contains p.requestId
  | .mark token _ _ _ => s.purchases.db.reservations.all fun r =>
      r.token ≠ token || s.paying.contains r.requestId
  | .record token _ => s.purchases.db.reservations.all fun r => r.token ≠ token || r.mayBePaid
  | .promote _ generated => s.purchases.Fresh generated
  | _ => false

def permitted (s : DemoStore) : DemoOutside → Bool
  | .interruptedRetry _ => false
  | .review event => served s event
  | .fund index fate _ => (s.chain.funds[index]?).any fun tx => settles s.chain tx fate
  | .status jobId _ => s.chain.status jobId ≠ 3 && s.chain.status jobId ≠ 4
  | _ => true

def admitted (v : DemoState) : DemoEvent → Bool
  | .start key => key < 2 && free v
  | .advance key _ => key < 2 && running (v.activity key)
  | .reply key answer => key < 2 && free v &&
      match v.activity key with
      | .waiting message _ => answered message v.store answer
      | _ => false
  | .crash => true
  | .outside event => free v && permitted v.store event

theorem answers_of_answered {request : DemoRequest} {s : DemoStore}
    {answer : Except DemoError DemoReply} (given : answered request s answer = true) :
    answers request s answer := by
  cases answer with
  | error e => trivial
  | ok reply =>
    obtain ⟨runId, call⟩ := request
    cases call <;> cases reply <;> first | trivial | cases given | skip
    · exact fun _ => by simpa [answered] using given
    · simpa [answered, answers, and_assoc] using given

theorem serves_of_served {s : DemoStore} {event : PurchaseEvent} (given : served s event = true) :
    (purchases config balance).admits s.purchases event ∧ s.Serves event := by
  cases event with
  | acquire p =>
    simp only [served, Bool.and_eq_true, Bool.not_eq_true', List.contains_iff_mem] at given
    have fresh : p.randomUUID ∉ s.purchases.issued := by simpa using given.1
    exact ⟨fresh, fun _ => given.2⟩
  | mark token _ _ _ =>
    refine ⟨trivial, fun r member keyed _ => ?_⟩
    simp only [served, List.all_eq_true, Bool.or_eq_true, List.contains_iff_mem] at given
    simpa [keyed] using given r member
  | record token _ =>
    refine ⟨trivial, fun r member keyed _ => .inr ?_⟩
    simp only [served, List.all_eq_true, Bool.or_eq_true] at given
    simpa [keyed] using given r member
  | promote token generated =>
    have fresh : s.purchases.Fresh generated := by simpa [served] using given
    exact ⟨fresh, trivial⟩
  | _ => cases given

theorem permits_of_permitted {s : DemoStore} {event : DemoOutside} (given : permitted s event = true) :
    (demoHost dependencies config balance).permits s event := by
  cases event with
  | interruptedRetry => cases given
  | review event => exact serves_of_served given
  | fund index fate _ =>
    simp only [permitted, Option.any_eq_true] at given
    obtain ⟨tx, found, settled⟩ := given
    refine ⟨tx, found, ?_⟩
    cases fate with
    | requested => cases settled
    | _ => simpa [settles, DemoChain.Permits] using settled
  | status jobId _ =>
    simp only [permitted, Bool.and_eq_true, decide_eq_true_eq] at given
    exact fun final => final.elim given.1 given.2
  | _ => trivial

/-- Only the two runs are processed. -/
def Few (v : DemoState) : Prop := ∀ key, 2 ≤ key → v.activity key = .idle

theorem free_of_free {v : DemoState} (few : Few v) (given : free v = true) : v.Free := by
  intro key program runs
  simp only [free, Bool.and_eq_true, Bool.not_eq_true'] at given
  match key with
  | 0 => simp [running, runs] at given
  | 1 => simp [running, runs] at given
  | key + 2 =>
    rw [few (key + 2) (Nat.le_add_left 2 key)] at runs
    cases runs

theorem admits_of_admitted {v : DemoState} {event : DemoEvent} (few : Few v)
    (given : admitted v event = true) : (demo dependencies config balance).admits v event := by
  cases event with
  | start key =>
    simp only [admitted, Bool.and_eq_true] at given
    exact free_of_free few given.2
  | advance key now =>
    simp only [admitted, Bool.and_eq_true] at given
    refine ⟨?_, trivial⟩
    cases runs : v.activity key with
    | running program => exact ⟨program, rfl⟩
    | _ => simp [running, runs] at given
  | reply key answer =>
    simp only [admitted, Bool.and_eq_true] at given
    obtain ⟨⟨-, still⟩, given⟩ := given
    refine ⟨free_of_free few still, ?_⟩
    split at given
    next message rest waiting => exact ⟨message, rest, waiting, answers_of_answered given⟩
    next => cases given
  | crash => trivial
  | outside event =>
    simp only [admitted, Bool.and_eq_true] at given
    exact ⟨permits_of_permitted given.2, .inr (free_of_free few given.1)⟩

theorem few_next {v : DemoState} {event : DemoEvent} (few : Few v)
    (given : admitted v event = true) : Few ((demo dependencies config balance).next v event) := by
  intro key more
  have put {other : RunId} (inside : other < 2) (u : State DemoStore Timestamp DemoRequest DemoReply
      DemoError) : (v.put other u).activity key = .idle := by
    have different : key ≠ other := (Nat.lt_of_lt_of_le inside more).ne'
    simp [PoolState.put, different, few key more]
  cases event with
  | start other =>
    simp only [admitted, Bool.and_eq_true, decide_eq_true_eq] at given
    exact put given.1 _
  | advance other now =>
    simp only [admitted, Bool.and_eq_true, decide_eq_true_eq] at given
    exact put given.1 _
  | reply other answer =>
    simp only [admitted, Bool.and_eq_true, decide_eq_true_eq] at given
    exact put given.1.1 _
  | crash => rfl
  | outside event => exact few key more

/-- A check of every step of a script. -/
def checks (check : DemoState → DemoEvent → Bool) (v : DemoState) : List DemoEvent → Bool
  | [] => true
  | event :: rest =>
    check v event && checks check ((demo dependencies config balance).next v event) rest

theorem admitsAll_of_checks {v : DemoState} {events : List DemoEvent} (few : Few v)
    (given : checks admitted v events = true) :
    (demo dependencies config balance).AdmitsAll v events := by
  induction events generalizing v with
  | nil => trivial
  | cons event rest ih =>
    simp only [checks, Bool.and_eq_true] at given
    exact ⟨admits_of_admitted few given.1, ih (few_next few given.1) given.2⟩

theorem recorded_of_checks {check : DemoState → DemoEvent → Bool} {v : DemoState}
    {events : List DemoEvent} {history : List (DemoState × DemoEvent)}
    (given : checks check v events = true) (old : ∀ entry ∈ history, check entry.1 entry.2 = true) :
    ∀ entry ∈ (demo dependencies config balance).record v history events,
      check entry.1 entry.2 = true := by
  induction events generalizing v history with
  | nil => exact old
  | cons event rest ih =>
    simp only [checks, Bool.and_eq_true] at given
    refine ih given.2 fun entry member => ?_
    rcases List.mem_cons.mp member with rfl | older
    · exact given.1
    · exact old entry older

end Checks

def start : DemoState := ⟨{}, fun _ => .idle⟩

theorem few_start : Few start := fun _ _ => rfl

/-- A script that is admitted is a run of the service. -/
theorem script_run {events : List DemoEvent} (given : checks admitted start events = true) :
    DemoServiceRun dependencies config balance
      ((demo dependencies config balance).record start [] events)
      ((demo dependencies config balance).replay start events) :=
  System.replay_run _ .refl events (admitsAll_of_checks few_start given)

end DemoWalkthrough

end VapiArc.Demo
