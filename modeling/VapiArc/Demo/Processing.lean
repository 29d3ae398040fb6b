import VapiArc.Demo.Moves

/-!
# The processing of a run keeps to its moves

One triple for each routine of `DemoProcessor`, up to the one for `processRun`. What an activity
has read of its run stays true for as long as the run is in a state that is processed.
-/
namespace VapiArc.Demo

open Checked Function Async Transition Review DemoProcessor

section Routines

variable {d : DemoDependencies} {config : TreasuryConfig} {balance : Nat} {run : DemoRun}
  (live : run.state.processable = true)
include live

theorem requireChain_bind {α : Type} {x : DemoRoutine α} {Q : α → DemoStore → Prop}
    (rest : Meets d config balance run.id (At run) x Q) :
    Meets d config balance run.id (At run) (do requireChain d; x) Q := by
  refine .bind_ (M := fun _ => At run) ?_ fun _ => rest
  unfold requireChain
  split
  · exact .pure_ fun _ here => here
  · exact fails_meets live _

theorem requireJobId_bind {α : Type} {f : Nat → DemoRoutine α} {Q : α → DemoStore → Prop}
    (rest : ∀ jobId, run.jobId = some jobId → Meets d config balance run.id (At run) (f jobId) Q) :
    Meets d config balance run.id (At run) (requireJobId run >>= f) Q := by
  unfold requireJobId
  split
  next jobId given =>
    refine .bind_ (M := fun id s => id = jobId ∧ At run s) (.pure_ fun _ here => ⟨rfl, here⟩) ?_
    intro id
    refine .known (fun _ holds => holds.1) fun same => ?_
    subst same
    exact (rest id given).from fun _ holds => holds.2
  · exact .bind_ (M := fun _ _ => False) (fails_meets live _) fun _ => .known (fun _ no => no) False.elim

theorem confirmedReceipt_meets (transaction : Reference) :
    Meets d config balance run.id (At run) (confirmedReceipt d run.id transaction)
      fun _ => At run := by
  refine requireChain_bind live (.bind_ (rail_at live fun _ => rfl) fun receipt => ?_)
  cases receipt with
  | none => exact .pure_ fun _ here => here
  | some success =>
    cases success with
    | true => exact .pure_ fun _ here => here
    | false => exact fails_meets live _

theorem syncTransaction_meets {key : DemoTransactionKey} (other : key ≠ .fund)
    (transaction : Option Reference) :
    Meets d config balance run.id (At run) (syncTransaction run key transaction)
      fun _ => At run := by
  cases transaction with
  | none => exact .pure_ fun _ here => here
  | some reference =>
    exact doIf_meets (fun _ => recordTransaction_meets live key other reference) fun _ _ here => here

/-- A transaction whose request leaves the store as it is. -/
theorem sendQuietly_meets {call : DemoCall} (key : DemoTransactionKey)
    (quiet : ∀ s : DemoStore, s.issue ⟨run.id, call⟩ = s) :
    Meets d config balance run.id (At run) (sendTransaction run.id call key) fun _ _ => True :=
  sendTransaction_meets live call key fun s _ => (quiet s).symm ▸ Moves.refl run.id s

/-- The last write of a routine. -/
theorem write_ends {change : DemoRun → DemoRun} (same : ∀ row, (change row).input = row.input)
    (proceeds : ∀ chain row, run.Agrees row → row.Proceeds chain (change row)) :
    Meets d config balance run.id (At run)
      (do let _ ← DemoProcessor.write (·.patch run.id change)) fun _ _ => True :=
  .bind_ (M := fun _ _ => True)
    (patch_meets (fun _ here => here) (At.lasting _ run) live same fun s row _ agrees =>
      proceeds s.chain row agrees).forget
    fun _ => .pure_ fun _ _ => trivial

theorem getJob_meets (jobId : Nat) :
    Meets d config balance run.id (At run) (getJob run.id jobId) fun job s =>
      At run s ∧ (job.status = 4 → s.chain.status jobId = 4) := by
  refine rail_meets live (fun s _ => Moves.refl run.id s) fun s reply job here given value => ?_
  refine ⟨here, fun rejected => ?_⟩
  cases reply with
  | job job' =>
    cases value
    exact (given (.inr rejected)).trans rejected
  | _ => cases value

theorem looksAtJob_meets {f : DemoJob → Bool} (jobId : Nat) :
    Meets d config balance run.id (At run) (do return f (← getJob run.id jobId))
      fun _ => At run :=
  .bind_ (getJob_meets live jobId) fun _ => .pure_ fun _ holds => holds.1

theorem laneIsHuman_meets (jobId : Nat) :
    Meets d config balance run.id (At run) (laneIsHuman run.id jobId) fun _ => At run :=
  .bind_ (rail_at live fun _ => rfl) fun _ => .pure_ fun _ here => here

section Escrow

theorem processCreateJob_meets :
    Meets d config balance run.id (At run) (processCreateJob d run) fun _ _ => True := by
  refine requireChain_bind live (.bind_ (rail_at live fun _ => rfl) fun recovered => ?_)
  cases recovered with
  | some created =>
    obtain ⟨jobId, transactionHash⟩ := created
    refine .bind_ (M := fun _ => At run) ?_ fun _ => ?_
    · exact doIf_meets (fun _ => recordTransaction_meets live _ (by decide) _) fun _ _ here => here
    · refine write_ends live (fun _ => rfl) fun chain row agrees => ?_
      exact .stay (by rw [agrees.state, live]) rfl rfl rfl fun _ _ => by simp
  | none =>
    simp only
    split
    next transaction _ =>
      refine .bind_ (confirmedReceipt_meets live transaction) fun _ => ?_
      exact doIf_meets (fun _ => fails_meets live _) fun _ _ _ => trivial
    · exact sendQuietly_meets live _ fun _ => rfl

/-- `run` may have been changed in its completed steps and its operation only before `change`. -/
theorem processStep_meets {effective : DemoRoutine Bool} {step nextOperation : DemoOperation}
    {change : DemoRun → DemoRun} {key : DemoTransactionKey} {ineffective : String}
    {send : DemoRoutine Unit}
    (looks : Meets d config balance run.id (At run) effective fun _ => At run)
    (same : ∀ row, (change row).input = row.input)
    (proceeds : ∀ chain row row', run.Agrees row → row.Agrees row' → row.Proceeds chain (change row'))
    (sends : Meets d config balance run.id (At run) send fun _ _ => True) :
    Meets d config balance run.id (At run)
      (processStep d run effective step nextOperation change key ineffective send)
      fun _ _ => True := by
  refine .bind_ looks fun done => ?_
  cases done with
  | true =>
    refine write_ends live (fun row => same _) fun chain row agrees => ?_
    exact proceeds chain row _ agrees ⟨rfl, rfl, rfl, rfl, rfl⟩
  | false =>
    simp only [Bool.false_eq_true, ↓reduceIte]
    split
    next transaction _ =>
      refine .bind_ (confirmedReceipt_meets live transaction) fun _ => ?_
      refine doIf_meets (fun _ => .bind_ looks fun _ => ?_) fun _ _ _ => trivial
      exact doIf_meets (fun _ => fails_meets live _) fun _ _ _ => trivial
    · exact sends

/-- A completed step that is recorded as such only. -/
theorem id_proceeds (chain : DemoChain) (row row' : DemoRun) (agrees : run.Agrees row)
    (later : row.Agrees row') : row.Proceeds chain (id row') :=
  .stay (by rw [agrees.state, live]) later.input later.state later.recoveryState fun _ given => by
    simp [later.jobId, given]

theorem processSetLane_meets :
    Meets d config balance run.id (At run) (processSetLane d run) fun _ _ => True := by
  refine requireChain_bind live (requireJobId_bind live fun jobId _ => ?_)
  exact processStep_meets live (laneIsHuman_meets live jobId) (fun _ => rfl) (id_proceeds live)
    (sendQuietly_meets live _ fun _ => rfl)

theorem processSetBudget_meets :
    Meets d config balance run.id (At run) (processSetBudget d run) fun _ _ => True := by
  refine requireChain_bind live (requireJobId_bind live fun jobId _ => ?_)
  exact processStep_meets live (looksAtJob_meets live jobId) (fun _ => rfl) (id_proceeds live)
    (sendQuietly_meets live _ fun _ => rfl)

theorem processApproval_meets :
    Meets d config balance run.id (At run) (processApproval d run) fun _ _ => True := by
  refine requireChain_bind live ?_
  refine processStep_meets live ?_ (fun _ => rfl) (id_proceeds live)
    (sendQuietly_meets live _ fun _ => rfl)
  exact .bind_ (rail_at live fun _ => rfl) fun _ => .pure_ fun _ here => here

/-- The escrow is funded while it is prepared only. -/
theorem processFunding_meets (preparing : run.state = .preparingEscrow) :
    Meets d config balance run.id (At run) (processFunding d run) fun _ _ => True := by
  refine requireChain_bind live (requireJobId_bind live fun jobId given => ?_)
  refine processStep_meets live (looksAtJob_meets live jobId) (fun _ => rfl) (id_proceeds live) ?_
  refine sendTransaction_meets live _ _ fun s ⟨row, found, agrees⟩ => ?_
  exact { Moves.refl run.id s with
    funds := .inr ⟨row, jobId, found, agrees.state.trans preparing, agrees.jobId.trans given, rfl⟩ }

theorem processSubmission_meets (preparing : run.state = .preparingEscrow) :
    Meets d config balance run.id (At run) (processSubmission d run) fun _ _ => True := by
  refine requireChain_bind live (requireJobId_bind live fun jobId _ => ?_)
  refine processStep_meets live (looksAtJob_meets live jobId) (fun _ => rfl) ?_ ?_
  · intro chain row row' agrees later
    refine .next later.input ?_ later.recoveryState (fun _ given => ?_) nofun
    · rw [agrees.state, preparing]
      exact .submits
    · simp [later.jobId, given]
  · refine .bind_ (laneIsHuman_meets live jobId) fun isHuman => ?_
    cases isHuman with
    | true => exact sendQuietly_meets live _ fun _ => rfl
    | false => exact fails_meets live _

theorem startBlock_meets :
    Meets d config balance run.id (At run) (startBlock run) fun _ => At run := by
  unfold startBlock
  split
  · exact .pure_ fun _ here => here
  · exact rail_at live fun _ => rfl

/-- The run that is returned is the row as it has been written. -/
theorem beginPreparation_meets (begins : run.state = .queued ∨ run.state = .preparingEscrow) :
    Meets d config balance run.id (At run) (beginPreparation run) fun updated s =>
      (updated.id = run.id ∧ updated.state = .preparingEscrow) ∧ At updated s := by
  unfold beginPreparation
  split
  next queued =>
    refine .bind_ (startBlock_meets live) fun startBlock => ?_
    refine .weaken (patch_meets (fun _ here => here) (At.lasting _ run) live (fun _ => rfl)
      fun s row _ agrees => ?_) (fun _ here => here) ?_ fun _ _ failed => failed
    · refine .next rfl ?_ rfl (fun _ given => by simp [given]) nofun
      rw [agrees.state, queued]
      exact .prepares
    · rintro updated s ⟨found, row, agrees, rfl⟩
      exact ⟨⟨congrArg (·.runId) agrees.input, rfl⟩, _,
        (congrArg (s.repository.get ·.runId) agrees.input).trans found, .refl _⟩
  next other => exact .pure_ fun _ here => ⟨⟨rfl, begins.resolve_left other⟩, here⟩

theorem prepareStep_meets (preparing : run.state = .preparingEscrow) :
    Meets d config balance run.id (At run) (prepareStep d run) fun _ _ => True := by
  unfold prepareStep
  split
  · exact processCreateJob_meets live
  · exact processCreateJob_meets live
  · exact processCreateJob_meets live
  · exact processSetLane_meets live
  · exact processSetBudget_meets live
  · exact processApproval_meets live
  · exact processFunding_meets live preparing
  · exact processSubmission_meets live preparing
  · exact fails_meets live _

theorem prepareEscrow_meets (begins : run.state = .queued ∨ run.state = .preparingEscrow) :
    Meets d config balance run.id (At run) (prepareEscrow d run) fun _ _ => True := by
  refine requireChain_bind live (.bind_ (beginPreparation_meets live begins) fun updated => ?_)
  refine .known (fun _ holds => holds.1) fun ⟨same, preparing⟩ => ?_
  rw [← same]
  exact (prepareStep_meets (by rw [preparing]; rfl) preparing).from fun _ holds => holds.2

theorem reconcileEscalation_meets (waits : run.state = .awaitingEscalation) :
    Meets d config balance run.id (At run) (reconcileEscalation d run) fun _ _ => True := by
  have next : run.state.Next .awaitingPurchase := by
    rw [waits]
    exact .escalates
  refine requireChain_bind live (requireJobId_bind live fun jobId _ => ?_)
  refine .bind_ (rail_at live fun _ => rfl) fun resolution => ?_
  split
  · refine .bind_ (read_meets (At.lasting _ run)) fun now => ?_
    refine (doIf_meets (fun _ => fails_meets live _) fun _ _ _ => trivial).from fun _ holds => holds.1
  · split
    · exact fails_meets live _
    · refine .bind_ (rail_at live fun _ => rfl) fun transaction => ?_
      refine .bind_ (syncTransaction_meets live (by decide) _) fun _ => ?_
      exact transition_meets next (At.lasting _ run) (fun _ here => here) fun _ _ no => by cases no

end Escrow

section Review

theorem reconcileSettled_meets (active : run.state = .reviewActive) (order : OrderRow) :
    Meets d config balance run.id (At run) (reconcileSettled d run order) fun _ _ => True := by
  have next : run.state.Next .finalized := by
    rw [active]
    exact .finalizes
  unfold reconcileSettled
  split
  · exact fails_meets live _
  next hash _ =>
    refine .bind_ (confirmedReceipt_meets live _) fun _ => ?_
    refine doIf_meets (fun _ => ?_) fun _ _ _ => trivial
    refine requireChain_bind live (requireJobId_bind live fun jobId _ => ?_)
    refine .bind_ ((getJob_meets live jobId).weaken (fun _ here => here) (fun _ _ holds => holds.1)
      fun _ _ failed => failed) fun job => ?_
    refine .bind_ (rail_at live fun _ => rfl) fun provenance => ?_
    refine .bind_ (M := fun _ => At run)
      (doIf_meets (fun _ => fails_meets live _) fun _ _ here => here) fun _ => ?_
    refine .bind_ (M := fun _ => At run) (doIf_meets (fun _ => ?_) fun _ _ here => here) fun _ => ?_
    · exact .bind_ (stay_meets live fun row => ⟨rfl, rfl, rfl, rfl, rfl⟩) fun _ =>
        .pure_ fun _ here => here
    · exact transition_meets next (At.lasting _ run) (fun _ here => here) fun _ _ no => by cases no

theorem reconcileReview_meets (active : run.state = .reviewActive) :
    Meets d config balance run.id (At run) (reconcileReview d run) fun _ _ => True := by
  have next : run.state.Next .archivedRefundPending := by
    rw [active]
    exact .refunds
  refine .bind_ (read_meets (At.lasting _ run)) fun order => ?_
  refine Meets.from (P := At run) ?_ fun _ holds => holds.1
  cases order with
  | none => exact fails_meets live _
  | some order =>
    refine .bind_ (check_meets live _) fun _ => ?_
    refine .bind_ (M := fun _ => At run) (doIf_meets (fun _ => ?_) fun _ _ here => here) fun _ => ?_
    · exact .bind_ (stay_meets live fun row => ⟨rfl, rfl, rfl, rfl, rfl⟩) fun _ =>
        .pure_ fun _ here => here
    · refine .bind_ (syncTransaction_meets live (by decide) _) fun _ => ?_
      refine .bind_ (syncTransaction_meets live (by decide) _) fun _ => ?_
      refine .bind_ (syncTransaction_meets live (by decide) _) fun _ => ?_
      refine .bind_ (syncTransaction_meets live (by decide) _) fun _ => ?_
      split
      · exact transition_meets next (At.lasting _ run) (fun _ here => here) fun _ _ no => by cases no
      · split
        · exact reconcileSettled_meets live active order
        · exact .pure_ fun _ _ => trivial

/-- The review is looked at with the row as it is after the write. -/
theorem attachReviewOrder_meets (purchasing : run.state = .purchasingReview) (order : OrderRow) :
    Meets d config balance run.id (At run) (attachReviewOrder d run order) fun _ _ => True := by
  refine .bind_ (check_meets live _) fun _ => ?_
  refine .bind_ (M := fun updated s => (updated.id = run.id ∧ updated.state = .reviewActive) ∧
    s.repository.get run.id = some updated) ?_ fun updated => ?_
  · refine .weaken (patch_meets (fun _ here => here) (At.lasting _ run) live (fun _ => rfl)
      fun s row _ agrees => ?_) (fun _ here => here) ?_ fun _ _ failed => failed
    · refine .next rfl ?_ rfl (fun _ given => by simp [given]) fun no => by cases no
      rw [agrees.state, purchasing]
      exact .attaches
    · rintro updated s ⟨found, row, agrees, rfl⟩
      exact ⟨⟨congrArg (·.runId) agrees.input, rfl⟩, found⟩
  · refine .known (fun _ holds => holds.1) fun ⟨same, active⟩ => ?_
    have stable : Lasting run.id fun s => (updated.id = run.id ∧ updated.state = .reviewActive) ∧
        s.repository.get run.id = some updated := by
      intro s s' holds later _
      rwa [later.repository]
    refine .bind_ (read_meets stable) fun found => ?_
    have known (s : DemoStore) (holds : ((updated.id = run.id ∧ updated.state = .reviewActive) ∧
        s.repository.get run.id = some updated) ∧
          ∃ _ : Timestamp, found = s.database.repository.get run.id) : found = some updated := by
      obtain ⟨⟨-, there⟩, -, rfl⟩ := holds
      exact there
    refine .known known fun value => ?_
    subst value
    rw [← same]
    refine (reconcileReview_meets (by rw [active]; rfl) active).from ?_
    rintro s ⟨⟨-, there⟩, -⟩
    exact ⟨updated, there, .refl _⟩

theorem purchaseReview_meets (purchasing : run.state = .purchasingReview) :
    Meets d config balance run.id (At run) (purchaseReview d run) fun _ _ => True := by
  refine .bind_ (read_meets (At.lasting _ run)) fun existing => ?_
  refine Meets.from (P := At run) ?_ fun _ holds => holds.1
  cases existing with
  | some existing =>
    exact .bind_ (check_meets live _) fun _ => attachReviewOrder_meets live purchasing existing
  | none =>
    refine requireChain_bind live ?_
    refine .bind_ (M := fun _ => At run) (rail_meets live ?_ fun _ _ _ here _ _ => here)
      fun payment => ?_
    · rintro s ⟨row, found, agrees⟩
      exact { Moves.refl run.id s with
        paying := .inr ⟨row, found, agrees.state.trans purchasing,
          congrArg (fun input : CreateDemoRunInput => input.requestId :: s.paying) agrees.input.symm⟩ }
    refine .bind_ (read_meets (At.lasting _ run)) fun order => ?_
    refine Meets.from (P := At run) ?_ fun _ holds => holds.1
    cases order with
    | none => exact fails_meets live _
    | some order =>
      refine .bind_ (check_meets live _) fun _ => ?_
      refine .bind_ (M := fun _ => At run) ?_ fun _ => ?_
      · exact doIf_meets (fun _ => recordTransaction_meets live _ (by decide) _) fun _ _ here => here
      refine .bind_ (read_meets (At.lasting _ run)) fun found => ?_
      have known (s : DemoStore) (holds : At run s ∧
          ∃ _ : Timestamp, found = s.database.repository.get run.id) :
          ∃ row, found = some row ∧ run.Agrees row := by
        obtain ⟨⟨row, there, agrees⟩, -, rfl⟩ := holds
        exact ⟨row, there, agrees⟩
      refine .known known fun ⟨row, value, agrees⟩ => ?_
      subst value
      have same : row.id = run.id := congrArg (·.runId) agrees.input
      have purchasing' : row.state = .purchasingReview := agrees.state.trans purchasing
      rw [← same]
      refine (attachReviewOrder_meets (by rw [purchasing']; rfl) purchasing' order).from ?_
      rintro s ⟨-, -, found⟩
      exact ⟨row, found.symm, .refl _⟩

end Review

section Archive

omit live in
theorem DemoRunState.Next.ofPending (pending : run.state = .archivedRefundPending) :
    run.state.Next .archivedRefunded := by
  rw [pending]
  exact .archives

omit live in
/-- A run whose job has been seen rejected is archived as refunded. -/
theorem refunded_meets (pending : run.state = .archivedRefundPending) {jobId : Nat} {job : DemoJob}
    (given : run.jobId = some jobId) (rejected : job.status = 4) :
    Meets d config balance run.id
      (fun s => At run s ∧ (job.status = 4 → s.chain.status jobId = 4))
      (transition run.id .archivedRefunded none) fun _ _ => True := by
  refine transition_meets (.ofPending pending) (rejected_lasting _ run jobId job.status)
    (fun _ holds => holds.1) fun s holds _ => ?_
  exact .inr ⟨jobId, given, .inl (holds.2 rejected)⟩

theorem reconcileUnknownJob_meets (pending : run.state = .archivedRefundPending)
    (unknown : run.jobId = none) :
    Meets d config balance run.id (At run) (reconcileUnknownJob d run) fun _ _ => True := by
  refine .bind_ (rail_at live fun _ => rfl) fun recovered => ?_
  cases recovered with
  | some created =>
    obtain ⟨jobId, transactionHash⟩ := created
    refine .bind_ (M := fun _ => At run) ?_ fun _ => ?_
    · exact doIf_meets (fun _ => recordTransaction_meets live _ (by decide) _) fun _ _ here => here
    · refine write_ends live (fun _ => rfl) fun chain row agrees => ?_
      exact .stay (by rw [agrees.state, live]) rfl rfl rfl fun _ _ => by simp
  | none =>
    simp only
    split
    next transaction _ =>
      refine .bind_ (confirmedReceipt_meets live transaction) fun _ => ?_
      exact doIf_meets (fun _ => fails_meets live _) fun _ _ _ => trivial
    · exact transition_meets (.ofPending pending) (At.lasting _ run) (fun _ here => here)
        fun _ _ _ => .inl unknown

theorem claimRefund_meets (pending : run.state = .archivedRefundPending) {jobId : Nat}
    (given : run.jobId = some jobId) (job : DemoJob) :
    Meets d config balance run.id (At run) (claimRefund d run jobId job) fun _ _ => True := by
  refine .bind_ (read_meets (At.lasting _ run)) fun now => ?_
  refine Meets.from (P := At run) ?_ fun _ holds => holds.1
  refine doIf_meets (fun _ => ?_) fun _ _ _ => trivial
  split
  next transaction _ =>
    refine .bind_ (confirmedReceipt_meets live transaction) fun _ => ?_
    refine doIf_meets (fun _ => .bind_ (getJob_meets live jobId) fun refundedJob => ?_)
      fun _ _ _ => trivial
    split
    · exact (fails_meets live _).from fun _ holds => holds.1
    · exact doIf_meets (fun rejected => refunded_meets pending given (by simpa using rejected))
        fun _ _ _ => trivial
  · exact sendQuietly_meets live _ fun _ => rfl

theorem reconcileUnfunded_meets (pending : run.state = .archivedRefundPending) {jobId : Nat}
    (given : run.jobId = some jobId) :
    Meets d config balance run.id (At run) (reconcileUnfunded d run jobId) fun _ _ => True := by
  unfold reconcileUnfunded
  split
  next unfunded =>
    exact transition_meets (.ofPending pending) (At.lasting _ run) (fun _ here => here)
      fun _ _ _ => .inr ⟨jobId, given, .inr unfunded⟩
  next transaction _ =>
    refine .bind_ (confirmedReceipt_meets live transaction) fun _ => ?_
    refine doIf_meets (fun _ => .bind_ (getJob_meets live jobId) fun job => ?_) fun _ _ _ => trivial
    split
    · exact (fails_meets live _).from fun _ holds => holds.1
    · split
      next rejected => exact refunded_meets pending given rejected
      · split
        · exact (fails_meets live _).from fun _ holds => holds.1
        · exact (claimRefund_meets live pending given job).from fun _ holds => holds.1

theorem reconcileArchive_meets (pending : run.state = .archivedRefundPending) :
    Meets d config balance run.id (At run) (reconcileArchive d run) fun _ _ => True := by
  refine requireChain_bind live ?_
  split
  next unknown => exact reconcileUnknownJob_meets live pending unknown
  next jobId given =>
    refine .bind_ (getJob_meets live jobId) fun job => ?_
    split
    · exact (fails_meets live _).from fun _ holds => holds.1
    · split
      next rejected => exact refunded_meets pending given rejected
      · split
        · exact (reconcileUnfunded_meets live pending given).from fun _ holds => holds.1
        · exact (claimRefund_meets live pending given job).from fun _ holds => holds.1

end Archive

end Routines

section Runs

variable {d : DemoDependencies} {config : TreasuryConfig} {balance : Nat}

theorem processState_meets (run : DemoRun) :
    Meets d config balance run.id (At run) (processState d run) fun _ _ => True := by
  unfold processState
  split
  next state => exact prepareEscrow_meets (by rw [state]; rfl) (.inl state)
  next state => exact prepareEscrow_meets (by rw [state]; rfl) (.inr state)
  next state => exact reconcileEscalation_meets (by rw [state]; rfl) state
  next state => exact purchaseReview_meets (by rw [state]; rfl) state
  next state => exact reconcileReview_meets (by rw [state]; rfl) state
  next state => exact reconcileArchive_meets (by rw [state]; rfl) state
  · exact .pure_ fun _ _ => trivial

/-- An error is noted in the row, or fails the run. -/
theorem handleError_meets (runId : RunId) (error : DemoError) :
    Meets d config balance runId (Live runId) (handleError runId error) fun _ _ => True := by
  have known (s : DemoStore) (holds : Live runId s) :
      ∃ run : DemoRun, (run.id = runId ∧ run.state.processable = true) ∧ At run s := by
    obtain ⟨run, found, live⟩ := holds
    have same := DemoRepository.get_id found
    exact ⟨run, ⟨same, live⟩, run, (congrArg s.repository.get same).trans found, .refl run⟩
  refine Meets.from (.any_ fun run => ?_) known
  refine .known (fun _ holds => holds.1) fun fixed => ?_
  obtain ⟨same, live⟩ := fixed
  subst same
  refine Meets.from (P := At run) ?_ fun _ holds => holds.2
  unfold handleError
  split
  · refine write_ends live (fun _ => rfl) fun chain row agrees => ?_
    exact .stay (by rw [agrees.state, live]) rfl rfl rfl fun _ given => by simp [given]
  · refine write_ends live (fun _ => rfl) fun chain row agrees => ?_
    have processed : row.state.processable = true := by rw [agrees.state, live]
    have other : row.state ≠ .failed := by
      intro failed
      simp [failed, DemoRunState.processable] at processed
    refine ⟨rfl, processed, fun _ given => by simp [given], .inr ⟨rfl, by simp [other]⟩, ?_⟩
    intro refunded
    cases refunded

theorem processRun_meets (runId : RunId) :
    Meets d config balance runId (fun _ => True) (processRun d runId) fun _ _ => True := by
  refine .tryCatch_ (M := fun _ s => Live runId s) ?_ (handleError_meets runId)
  refine .bind_ (read_meets fun _ _ _ _ _ => trivial) fun found => ?_
  cases found with
  | none => exact .pure_ fun _ _ => trivial
  | some run =>
    have known (s : DemoStore)
        (holds : True ∧ ∃ _ : Timestamp, some run = s.database.repository.get runId) :
        run.id = runId := by
      obtain ⟨-, -, there⟩ := holds
      exact DemoRepository.get_id there.symm
    refine .known known fun same => ?_
    subst same
    refine (processState_meets run).from ?_
    rintro s ⟨-, -, there⟩
    exact ⟨run, there.symm, .refl run⟩

end Runs

end VapiArc.Demo
