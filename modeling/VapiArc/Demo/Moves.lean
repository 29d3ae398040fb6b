import VapiArc.Demo.Service

/-!
# What the processing of a run may do

The moves of a run's row, and that `processRun` makes no others. While an activity awaits a
reply, nobody else writes the row of its run, as long as the row is in a state that is processed.
-/
namespace VapiArc.Demo

open Checked Function Async Transition Review DemoProcessor

inductive DemoRunState.Next : DemoRunState → DemoRunState → Prop
  | prepares : Next .queued .preparingEscrow
  | submits : Next .preparingEscrow .awaitingEscalation
  | escalates : Next .awaitingEscalation .awaitingPurchase
  | attaches : Next .purchasingReview .reviewActive
  | finalizes : Next .reviewActive .finalized
  | refunds : Next .reviewActive .archivedRefundPending
  | archives : Next .archivedRefundPending .archivedRefunded

theorem DemoRunState.Next.live {state state' : DemoRunState} (next : state.Next state') :
    state.processable = true := by
  cases next <;> rfl

/-- What one write of the processing does to a row. A run without a fund transaction on record is
archived as refunded, and otherwise one whose job was rejected. -/
structure DemoRun.Proceeds (chain : DemoChain) (run run' : DemoRun) : Prop where
  input : run'.input = run.input
  live : run.state.processable = true
  jobId : ∀ jobId, run.jobId = some jobId → run'.jobId ≠ none
  state : (run'.state = run.state ∨ run.state.Next run'.state) ∧
      run'.recoveryState = run.recoveryState ∨
    run'.state = .failed ∧ run'.recoveryState = some run.state
  refunded : run'.state = .archivedRefunded → run.jobId = none ∨
    ∃ jobId, run.jobId = some jobId ∧ run'.jobId = some jobId ∧
      (chain.status jobId = 4 ∨ run.transactions .fund = none)

/-- What one step of the processing of a run does to the store. -/
structure Moves (runId : RunId) (s s' : DemoStore) : Prop where
  ids : s'.repository.runs.map (·.id) = s.repository.runs.map (·.id)
  others : ∀ other, other ≠ runId → s'.repository.get other = s.repository.get other
  row : s'.repository.get runId = s.repository.get runId ∨ ∃ run run',
    s.repository.get runId = some run ∧ s'.repository.get runId = some run' ∧
      run.Proceeds s.chain run'
  purchases : s'.purchases = s.purchases
  archived : s'.archived = s.archived
  status : s'.chain.status = s.chain.status
  funds : s'.chain.funds = s.chain.funds ∨ ∃ run jobId, s.repository.get runId = some run ∧
    run.state = .preparingEscrow ∧ run.jobId = some jobId ∧
      s'.chain.funds = s.chain.funds ++ [{ runId := runId, jobId := jobId }]
  paying : s'.paying = s.paying ∨ ∃ run, s.repository.get runId = some run ∧
    run.state = .purchasingReview ∧ s'.paying = run.requestId :: s.paying

theorem Moves.refl (runId : RunId) (s : DemoStore) : Moves runId s s :=
  ⟨rfl, fun _ _ => rfl, .inl rfl, rfl, rfl, rfl, .inl rfl, .inl rfl⟩

/-- What an activity may count on while it awaits a reply. -/
structure Meanwhile (runId : RunId) (s s' : DemoStore) : Prop where
  row : ∀ run, s.repository.get runId = some run → run.state.processable = true →
    s'.repository.get runId = some run
  rejected : ∀ jobId, s.chain.status jobId = 4 → s'.chain.status jobId = 4

/-- Only the chain has done something. -/
structure Untouched (s s' : DemoStore) : Prop where
  repository : s'.repository = s.repository
  rejected : ∀ jobId, s.chain.status jobId = 4 → s'.chain.status jobId = 4

def demoContracts : Contracts RunId DemoStore where
  invariant _ := True
  guarantee := Moves
  awaiting := Meanwhile
  anytime := Untouched
  guarantee_refl := .refl
  awaiting_refl _ _ := ⟨fun _ here _ => here, fun _ here => here⟩
  awaiting_trans _ _ _ _ first second :=
    ⟨fun run here live => second.row run (first.row run here live) live,
      fun jobId here => second.rejected jobId (first.rejected jobId here)⟩
  anytime_refl _ := ⟨rfl, fun _ here => here⟩
  anytime_trans _ _ _ first second :=
    ⟨second.repository.trans first.repository,
      fun jobId here => second.rejected jobId (first.rejected jobId here)⟩

/-- The columns that the moves are about are the same. -/
structure DemoRun.Agrees (run row : DemoRun) : Prop where
  input : row.input = run.input
  state : row.state = run.state
  recoveryState : row.recoveryState = run.recoveryState
  jobId : row.jobId = run.jobId
  fund : row.transactions .fund = run.transactions .fund

theorem DemoRun.Agrees.refl (run : DemoRun) : run.Agrees run := ⟨rfl, rfl, rfl, rfl, rfl⟩

/-- The row of the run agrees with what was read of it. -/
def At (run : DemoRun) (s : DemoStore) : Prop :=
  ∃ row, s.repository.get run.id = some row ∧ run.Agrees row

/-- The run is in a state that is processed. -/
def Live (runId : RunId) (s : DemoStore) : Prop :=
  ∃ run, s.repository.get runId = some run ∧ run.state.processable = true

section Rules

variable (d : DemoDependencies) (config : TreasuryConfig) (balance : Nat)

/-- The routine makes no other moves than those of the run, and fails in live states only. -/
abbrev Meets {α : Type} (runId : RunId) (P : DemoStore → Prop) (x : DemoRoutine α)
    (Q : α → DemoStore → Prop) : Prop :=
  Triple (demoHost d config balance) (demoContracts.of DemoRequest runId) P x Q
    fun _ s => Live runId s

abbrev Lasting (runId : RunId) (P : DemoStore → Prop) : Prop :=
  Stable (demoContracts.of DemoRequest runId) P

variable {d config balance} {α : Type} {run : DemoRun} {P : DemoStore → Prop}

theorem At.live {s : DemoStore} (here : At run s) (live : run.state.processable = true) :
    Live run.id s := by
  obtain ⟨row, found, agrees⟩ := here
  exact ⟨row, found, by rw [agrees.state, live]⟩

theorem At.meanwhile {s s' : DemoStore} (here : At run s) (live : run.state.processable = true)
    (later : Meanwhile run.id s s') : At run s' := by
  obtain ⟨row, found, agrees⟩ := here
  exact ⟨row, later.row row found (by rw [agrees.state, live]), agrees⟩

theorem At.lasting (runId : RunId) (run : DemoRun) : Lasting runId (At run) := by
  intro s s' here later _
  simpa only [At, later.repository] using here

theorem rejected_lasting (runId : RunId) (run : DemoRun) (jobId : Nat) (status : Nat) :
    Lasting runId fun s => At run s ∧ (status = 4 → s.chain.status jobId = 4) := by
  intro s s' holds later kept
  exact ⟨At.lasting runId run s s' holds.1 later kept,
    fun rejected => later.rejected jobId (holds.2 rejected)⟩

theorem fails_meets (live : run.state.processable = true) (message : String)
    {Q : α → DemoStore → Prop} : Meets d config balance run.id (At run) (fails message) Q :=
  .throw_ fun _ here => here.live live

theorem check_meets (live : run.state.processable = true) (result : Except DemoError Unit) :
    Meets d config balance run.id (At run) (check result) fun _ => At run := by
  unfold check
  split
  · exact .pure_ fun _ here => here
  · exact .throw_ fun _ here => here.live live

theorem read_meets {runId : RunId} {f : Timestamp → DemoDatabase → α} (stable : Lasting runId P) :
    Meets d config balance runId P (DemoProcessor.read f)
      fun a s => P s ∧ ∃ now, a = f now s.database := by
  refine .transaction_ stable ?_ ?_
  · intro s here _ now _ a s' done
    cases done
    exact ⟨Moves.refl _ _, trivial, here, now, rfl⟩
  · intro s here _ now _ e failed
    cases failed

/-- A write of the row leaves the row that it computes, or nothing when it is refused. -/
theorem patch_meets {change : DemoRun → DemoRun} (here : ∀ s, P s → At run s)
    (stable : Lasting run.id P) (live : run.state.processable = true)
    (same : ∀ row, (change row).input = row.input)
    (proceeds : ∀ s row, P s → run.Agrees row → row.Proceeds s.chain (change row)) :
    Meets d config balance run.id P (DemoProcessor.write (·.patch run.id change))
      fun updated s => s.repository.get run.id = some updated ∧
        ∃ row, run.Agrees row ∧ updated = change row := by
  have keeps (row : DemoRun) : (change row).id = row.id := congrArg (·.runId) (same row)
  refine .transaction_ stable ?_ ?_
  · intro s holds _ now _ updated s' done
    cases result : s.repository.patch run.id change with
    | error e => simp [result, Except.map] at done
    | ok pair =>
      simp only [result, Except.map, Except.ok.injEq, Prod.mk.injEq] at done
      obtain ⟨rfl, rfl⟩ := done
      obtain ⟨row, found, value, there, others⟩ := DemoRepository.patch_ok result keeps
      obtain ⟨row', found', agrees⟩ := here s holds
      cases found.symm.trans found'
      refine ⟨⟨DemoRepository.patch_ids result keeps, others,
        .inr ⟨row, _, found, there, proceeds s row holds agrees⟩, rfl, rfl, rfl, .inl rfl, .inl rfl⟩,
        trivial, ?_, row, agrees, value⟩
      rw [value]
      exact there
  · exact fun s holds _ now _ e _ => (here s holds).live live

/-- A call of the rail may be awaited when the move that its request makes is one of the run's. -/
theorem rail_meets {call : DemoCall} {result : DemoReply → Option α} {Q : α → DemoStore → Prop}
    (live : run.state.processable = true)
    (issued : ∀ s, At run s → Moves run.id s (s.issue ⟨run.id, call⟩))
    (answered : ∀ s reply a, At run s → answers ⟨run.id, call⟩ s (.ok reply) → result reply = some a →
      Q a s) :
    Meets d config balance run.id (At run) (rail run.id call result) Q := by
  have issue_at (s : DemoStore) (here : At run s) : At run (s.issue ⟨run.id, call⟩) := by
    cases call <;> exact here
  have awaited (s s' : DemoStore) (here : At run s)
      (later : Meanwhile run.id (s.issue ⟨run.id, call⟩) s') : At run s' :=
    (issue_at s here).meanwhile live later
  refine .bind_ (M := fun reply s => At run s ∧ answers ⟨run.id, call⟩ s (.ok reply)) ?_ ?_
  · refine .await_ (At.lasting run.id run) ?_ (fun _ _ _ _ _ _ => trivial) ?_ ?_
    · exact fun s here _ => ⟨issued s here, trivial⟩
    · exact fun s s' here _ later _ reply given => ⟨awaited s s' here later, given⟩
    · exact fun s s' here _ later _ _ _ => (awaited s s' here later).live live
  · intro reply
    cases value : result reply with
    | none =>
      exact .throw_ fun _ holds => holds.1.live live
    | some a => exact .pure_ fun s holds => answered s reply a holds.1 holds.2 value

/-- Most calls leave the store as it is when they are sent. -/
theorem rail_at {call : DemoCall} {result : DemoReply → Option α}
    (live : run.state.processable = true) (quiet : ∀ s : DemoStore, s.issue ⟨run.id, call⟩ = s) :
    Meets d config balance run.id (At run) (rail run.id call result) fun _ => At run :=
  rail_meets live (fun s _ => (quiet s).symm ▸ Moves.refl run.id s) fun _ _ _ here _ _ => here

/-- A write that leaves the state of the run as it is. -/
theorem DemoRun.Proceeds.stay {chain : DemoChain} {run run' : DemoRun}
    (live : run.state.processable = true) (input : run'.input = run.input)
    (state : run'.state = run.state) (recoveryState : run'.recoveryState = run.recoveryState)
    (jobId : ∀ jobId, run.jobId = some jobId → run'.jobId ≠ none) : run.Proceeds chain run' where
  input := input
  live := live
  jobId := jobId
  state := .inl ⟨.inl state, recoveryState⟩
  refunded refunded := by
    rw [state] at refunded
    simp [refunded, DemoRunState.processable] at live

/-- A write that moves the run on, but not to the end of its archiving. -/
theorem DemoRun.Proceeds.next {chain : DemoChain} {run run' : DemoRun}
    (input : run'.input = run.input) (next : run.state.Next run'.state)
    (recoveryState : run'.recoveryState = run.recoveryState) (jobId : ∀ jobId, run.jobId = some jobId → run'.jobId ≠ none)
    (refunded : run'.state = .archivedRefunded → run.jobId = none ∨
      ∃ jobId, run.jobId = some jobId ∧ run'.jobId = some jobId ∧
        (chain.status jobId = 4 ∨ run.transactions .fund = none)) : run.Proceeds chain run' where
  input := input
  live := next.live
  jobId := jobId
  state := .inl ⟨.inr next, recoveryState⟩
  refunded := refunded

/-- A write that does not concern the columns of the moves. -/
theorem stay_meets {change : DemoRun → DemoRun} (live : run.state.processable = true)
    (same : ∀ row : DemoRun, row.Agrees (change row)) :
    Meets d config balance run.id (At run) (DemoProcessor.write (·.patch run.id change))
      fun _ => At run := by
  refine .weaken (patch_meets (fun _ here => here) (At.lasting _ run) live (fun row => (same row).input)
    fun s row _ agrees => ?_) (fun _ here => here) ?_ fun _ _ failed => failed
  · obtain ⟨input, state, recoveryState, jobId, -⟩ := same row
    exact .stay (by rw [agrees.state, live]) input state recoveryState fun _ given => by
      simp [jobId, given]
  · rintro updated s ⟨found, row, agrees, rfl⟩
    obtain ⟨input, state, recoveryState, jobId, fund⟩ := same row
    exact ⟨_, found, input.trans agrees.input, state.trans agrees.state,
      recoveryState.trans agrees.recoveryState, jobId.trans agrees.jobId, fund.trans agrees.fund⟩

theorem recordTransaction_meets (live : run.state.processable = true) (key : DemoTransactionKey)
    (other : key ≠ .fund) (transaction : Reference) :
    Meets d config balance run.id (At run) (recordTransaction run.id key transaction)
      fun _ => At run := by
  refine .bind_ (M := fun _ => At run) (stay_meets live fun row => ⟨rfl, rfl, rfl, rfl, ?_⟩)
    fun _ => .pure_ fun _ here => here
  simp [other.symm]

/-- The fund transaction is recorded too, which the columns of the moves show. -/
theorem recordTransaction_ends (live : run.state.processable = true) (key : DemoTransactionKey)
    (transaction : Reference) :
    Meets d config balance run.id (At run) (recordTransaction run.id key transaction)
      fun _ _ => True := by
  refine .bind_ (M := fun _ _ => True) ?_ fun _ => .pure_ fun _ _ => trivial
  refine .weaken (patch_meets (fun _ here => here) (At.lasting _ run) live (fun _ => rfl)
    fun s row _ agrees => ?_) (fun _ here => here) (fun _ _ _ => trivial) fun _ _ failed => failed
  exact .stay (by rw [agrees.state, live]) rfl rfl rfl fun _ given => by simp [given]

/-- The run moves on to its next state. -/
theorem transition_meets {state : DemoRunState} {operation : Option DemoOperation}
    (next : run.state.Next state) (stable : Lasting run.id P) (here : ∀ s, P s → At run s)
    (refunded : ∀ s, P s → state = .archivedRefunded → run.jobId = none ∨
      ∃ jobId, run.jobId = some jobId ∧
        (s.chain.status jobId = 4 ∨ run.transactions .fund = none)) :
    Meets d config balance run.id P (transition run.id state operation) fun _ _ => True := by
  refine .bind_ (M := fun _ _ => True) ?_ fun _ => .pure_ fun _ _ => trivial
  refine .weaken (patch_meets here stable next.live (fun _ => rfl) fun s row holds agrees => ?_)
    (fun _ here => here) (fun _ _ _ => trivial) fun _ _ failed => failed
  refine .next rfl (agrees.state ▸ next) rfl (fun _ given => by simp [given]) fun archived => ?_
  rw [agrees.jobId, agrees.fund]
  exact (refunded s holds archived).imp_right fun ⟨jobId, given, why⟩ =>
    ⟨jobId, given, given, why⟩

theorem doIf_meets {condition : Bool} {x : DemoRoutine Unit} {Q : Unit → DemoStore → Prop}
    (holds : condition = true → Meets d config balance run.id P x Q)
    (skips : condition = false → ∀ s, P s → Q () s) :
    Meets d config balance run.id P (doIf condition x) Q := by
  unfold doIf
  split
  next given => exact holds given
  next other => exact .pure_ fun s here => skips (by simpa using other) s here

theorem sendTransaction_meets (live : run.state.processable = true) (call : DemoCall)
    (key : DemoTransactionKey)
    (issued : ∀ s, At run s → Moves run.id s (s.issue ⟨run.id, call⟩)) :
    Meets d config balance run.id (At run) (sendTransaction run.id call key) fun _ _ => True := by
  have turn : Meets d config balance run.id (At run)
      (.await ⟨run.id, .walletTurn⟩ : DemoRoutine DemoReply) fun _ => At run := by
    refine .await_ (At.lasting run.id run) ?_ (fun _ _ _ _ _ _ => trivial) ?_ ?_
    · exact fun s _ _ => ⟨Moves.refl run.id s, trivial⟩
    · exact fun s s' here _ later _ _ _ => here.meanwhile live later
    · exact fun s s' here _ later _ _ _ => (here.meanwhile live later).live live
  refine .bind_ turn fun _ => .bind_ (rail_meets (Q := fun _ => At run) live issued
    fun _ _ _ here _ _ => here) fun hash => ?_
  exact recordTransaction_ends live key (.hash hash)

/-- Nothing needs to be known of what a routine leaves. -/
theorem Meets.forget {runId : RunId} {x : DemoRoutine α} {Q : α → DemoStore → Prop}
    (meets : Meets d config balance runId P x Q) :
    Meets d config balance runId P x fun _ _ => True :=
  meets.weaken (fun _ here => here) (fun _ _ _ => trivial) fun _ _ failed => failed

/-- A routine may start from more than it needs. -/
theorem Meets.from {runId : RunId} {P' : DemoStore → Prop} {x : DemoRoutine α}
    {Q : α → DemoStore → Prop} (meets : Meets d config balance runId P x Q)
    (less : ∀ s, P' s → P s) : Meets d config balance runId P' x Q :=
  meets.weaken less (fun _ _ here => here) fun _ _ failed => failed

end Rules

end VapiArc.Demo
