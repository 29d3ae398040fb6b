import VapiArc.Demo.SingleRun

/-!
# The record of the fund transactions

Processing writes the hash of a fund transaction into the run's row as soon as it has the hash, and
writes that column at no other time. So a transaction that may take effect is on record, unless its
hash was lost on the way.
-/
namespace VapiArc.Demo

open Checked Function Async Transition Review DemoProcessor

namespace DemoRepository

variable {repository repository' : DemoRepository} {runId : RunId} {run updated : DemoRun}
  {change : DemoRun → DemoRun}

/-- Identifiers, jobs and orders belong to one run each. -/
structure Keyed (repository : DemoRepository) : Prop where
  distinct : (repository.runs.map (·.id)).Nodup
  apart : ∀ run ∈ repository.runs, ∀ other ∈ repository.runs, other.id ≠ run.id →
    sameKey other.jobId run.jobId = false ∧ sameKey other.orderId run.orderId = false

/-- The fund transaction that is on record for a run, if there is such a run. -/
def fund (repository : DemoRepository) (runId : RunId) : Option (Option Reference) :=
  (repository.get runId).map (·.transactions .fund)

theorem sameKey_comm {α : Type} [DecidableEq α] (a b : Option α) : sameKey a b = sameKey b a := by
  cases a <;> cases b <;> simp [sameKey, eq_comm]

/-- An update is refused when it would give the run the job or the order of another one. -/
theorem patch_keyed (done : repository.patch runId change = .ok (updated, repository'))
    (keeps : ∀ run, (change run).id = run.id) (keyed : repository.Keyed) : repository'.Keyed := by
  constructor
  · rw [patch_ids done keeps]
    exact keyed.distinct
  · simp only [patch, bind_ok, demand_ok, revertIf_ok, exists_const, pure_ok, Prod.mk.injEq,
      Bool.not_eq_true, List.any_eq_false] at done
    obtain ⟨run, found, jobs, orders, -, rfl⟩ := done
    -- the only row with the identifier is the one that was found
    have unique (row : DemoRun) (member : row ∈ repository.runs) (same : row.id = runId) :
        row = run := by
      have there := get_of_mem keyed.distinct member
      rw [same, found] at there
      exact (Option.some.inj there).symm
    have others (row : DemoRun) (member : row ∈ repository.runs) (different : row.id ≠ runId) :
        sameKey row.jobId (change run).jobId = false ∧
          sameKey row.orderId (change run).orderId = false := by
      have listed : row ∈ repository.runs.filter (·.id ≠ runId) := by simp [member, different]
      exact ⟨by simpa using jobs row listed, by simpa using orders row listed⟩
    intro row member other member' different
    obtain ⟨row, old, rfl⟩ := List.mem_map.mp member
    obtain ⟨other, old', rfl⟩ := List.mem_map.mp member'
    by_cases here : row.id = runId
    · rw [if_pos here] at different ⊢
      rw [unique row old here] at different ⊢
      by_cases there : other.id = runId
      · rw [if_pos there, unique other old' there] at different
        exact absurd rfl different
      · rw [if_neg there]
        exact others other old' there
    · rw [if_neg here] at different ⊢
      by_cases there : other.id = runId
      · rw [if_pos there, unique other old' there]
        rw [sameKey_comm, sameKey_comm (change run).orderId]
        exact others row old here
      · rw [if_neg there] at different ⊢
        exact keyed.apart row old other old' different

theorem patch_fund (done : repository.patch runId change = .ok (updated, repository'))
    (keeps : ∀ run, (change run).id = run.id)
    (same : ∀ run, (change run).transactions .fund = run.transactions .fund) (other : RunId) :
    repository'.fund other = repository.fund other := by
  obtain ⟨run, found, -, written, others⟩ := patch_ok done keeps
  unfold fund
  by_cases here : other = runId
  · rw [here, found, written, Option.map_some, Option.map_some, same]
  · rw [others other here]

/-- A run that is there can be written to, when the write leaves its job and its order. -/
theorem patch_there (keyed : repository.Keyed) (found : repository.get runId = some run)
    (jobId : (change run).jobId = run.jobId) (orderId : (change run).orderId = run.orderId) :
    ∃ repository', repository.patch runId change = .ok (change run, repository') := by
  have same := get_id found
  have others : ∀ other ∈ repository.runs.filter (·.id ≠ runId),
      sameKey other.jobId (change run).jobId = false ∧
        sameKey other.orderId (change run).orderId = false := by
    intro other member
    obtain ⟨listed, different⟩ := List.mem_filter.mp member
    rw [jobId, orderId]
    apply keyed.apart run (get_mem found) other listed
    rw [same]
    simpa using different
  have jobs : ¬ (repository.runs.filter (·.id ≠ runId)).any
      (fun other => sameKey other.jobId (change run).jobId) = true := by
    simp only [List.any_eq_true, not_exists, not_and, Bool.not_eq_true]
    exact fun other member => (others other member).1
  have orders : ¬ (repository.runs.filter (·.id ≠ runId)).any
      (fun other => sameKey other.orderId (change run).orderId) = true := by
    simp only [List.any_eq_true, not_exists, not_and, Bool.not_eq_true]
    exact fun other member => (others other member).2
  simp only [patch, found, demand, revertIf, if_neg jobs, if_neg orders, bind, Except.bind]
  exact ⟨_, rfl⟩

end DemoRepository

section Programs

abbrev DemoProgram : Type := Program DemoStore Timestamp DemoRequest DemoReply DemoError

/-- A write that concerns neither the fund transactions nor their record. -/
structure Kept (s s' : DemoStore) : Prop where
  ids : s'.repository.runs.map (·.id) = s.repository.runs.map (·.id)
  keyed : s.repository.Keyed → s'.repository.Keyed
  fund : ∀ runId, s'.repository.fund runId = s.repository.fund runId
  funds : s'.chain.funds = s.chain.funds

theorem Kept.refl (s : DemoStore) : Kept s s := ⟨rfl, fun keyed => keyed, fun _ => rfl, rfl⟩

/-- The store once the hash of a fund transaction has been written. -/
def recorded (runId : RunId) (hash : Hex) (s : DemoStore) : DemoStore :=
  match s.repository.recordTransaction runId .fund (.hash hash) with
  | .ok (_, repository) => { s with repository }
  | .error _ => s

/-- From here on the program sends fund transactions of this run only, and the first thing that it does
with the hash of one is to write it. -/
inductive Records (runId : RunId) : DemoProgram → Prop
  | done : Records runId .done
  | sync {write : Timestamp → DemoStore → DemoStore} {rest : Timestamp → DemoStore → DemoProgram} :
      (∀ now s, Kept s (write now s)) → (∀ now s, Records runId (rest now s)) →
      Records runId (.sync write rest)
  | request {message : DemoRequest} {rest : Except DemoError DemoReply → DemoProgram} :
      (∀ jobId, message.call ≠ .sendFund jobId) → (∀ answer, Records runId (rest answer)) →
      Records runId (.request message rest)
  | send {jobId : Nat} {rest : Except DemoError DemoReply → DemoProgram}
      (next : Hex → Timestamp → DemoStore → DemoProgram) :
      (∀ hash, rest (.ok (.sent hash)) = .sync (fun _ => recorded runId hash) (next hash)) →
      (∀ hash now s, Records runId (next hash now s)) →
      (∀ answer, (∀ hash, answer ≠ .ok (.sent hash)) → Records runId (rest answer)) →
      Records runId (.request ⟨runId, .sendFund jobId⟩ rest)

/-- The routine records what it sends, whatever follows it. -/
def Careful {α : Type} (runId : RunId) (x : DemoRoutine α) : Prop :=
  ∀ ok error, (∀ a, Records runId (ok a)) → (∀ e, Records runId (error e)) →
    Records runId (x ok error)

namespace Careful

variable {runId : RunId} {α β : Type}

theorem pure_ (a : α) : Careful runId (pure a) := fun _ _ ok _ => ok a

theorem throw_ (e : DemoError) : Careful runId (throw e : DemoRoutine α) := fun _ _ _ error => error e

theorem fails_ (message : String) : Careful runId (fails message : DemoRoutine α) := throw_ _

theorem bind_ {x : DemoRoutine α} {f : α → DemoRoutine β} (first : Careful runId x)
    (second : ∀ a, Careful runId (f a)) : Careful runId (x >>= f) :=
  fun ok error good bad => first _ error (fun a => second a ok error good bad) bad

theorem assoc_ {γ : Type} {x : DemoRoutine α} {g : α → DemoRoutine β} {f : β → DemoRoutine γ}
    (careful : Careful runId (x >>= fun a => g a >>= f)) : Careful runId ((x >>= g) >>= f) := careful

theorem tryCatch_ {x : DemoRoutine α} {handle : DemoError → DemoRoutine α}
    (first : Careful runId x) (second : ∀ e, Careful runId (handle e)) :
    Careful runId (tryCatch x handle) :=
  fun ok error good bad => first ok _ good fun e => second e ok error good bad

/-- What follows a transaction is given one of its results. -/
theorem transaction_bind {t : Timestamp → DemoStore → Except DemoError (α × DemoStore)}
    {f : α → DemoRoutine β}
    (result : ∀ now s a s', t now s = .ok (a, s') → Kept s s' ∧ Careful runId (f a)) :
    Careful runId ((Routine.transaction t : DemoRoutine α) >>= f) := by
  intro ok error good bad
  apply Records.sync
  · intro now s
    unfold Routine.committed
    cases done : t now s with
    | error e => exact .refl s
    | ok pair => exact (result now s pair.1 pair.2 done).1
  · intro now s
    cases done : t now s with
    | error e => exact bad e
    | ok pair => exact (result now s pair.1 pair.2 done).2 ok error good bad

theorem read_bind {f : Timestamp → DemoDatabase → α} {g : α → DemoRoutine β}
    (result : ∀ now db, Careful runId (g (f now db))) :
    Careful runId (DemoProcessor.read f >>= g) := by
  apply transaction_bind
  intro now s a s' done
  cases done
  exact ⟨.refl s, result now s.database⟩

/-- An update that keeps the identifier and the record of the fund transaction. -/
theorem update_bind {id : RunId} {change : DemoRun → DemoRun} {f : DemoRun → DemoRoutine β}
    (keeps : ∀ run, (change run).id = run.id)
    (same : ∀ run, (change run).transactions .fund = run.transactions .fund)
    (result : ∀ run, run.id = id → Careful runId (f (change run))) :
    Careful runId (DemoProcessor.write (·.patch id change) >>= f) := by
  apply transaction_bind
  intro now s updated s' done
  cases written : s.repository.patch id change with
  | error e => simp [written, Except.map] at done
  | ok pair =>
    simp only [written, Except.map, Except.ok.injEq, Prod.mk.injEq] at done
    obtain ⟨rfl, rfl⟩ := done
    obtain ⟨run, found, value, -⟩ := DemoRepository.patch_ok written keeps
    constructor
    · exact ⟨DemoRepository.patch_ids written keeps, DemoRepository.patch_keyed written keeps,
        DemoRepository.patch_fund written keeps same, rfl⟩
    · rw [value]
      exact result run (DemoRepository.get_id found)

/-- A write after which nothing else is done. -/
theorem update_ {id : RunId} {change : DemoRun → DemoRun}
    (keeps : ∀ run, (change run).id = run.id)
    (same : ∀ run, (change run).transactions .fund = run.transactions .fund) :
    Careful runId (do let _ ← DemoProcessor.write (·.patch id change)) :=
  update_bind keeps same fun _ _ => pure_ ()

theorem await_ {message : DemoRequest} (other : ∀ jobId, message.call ≠ .sendFund jobId) :
    Careful runId (.await message : DemoRoutine DemoReply) := by
  intro ok error good bad
  apply Records.request other
  intro answer
  cases answer with
  | ok reply => exact good reply
  | error e => exact bad e

theorem rail_ {id : RunId} {call : DemoCall} {result : DemoReply → Option α}
    (other : ∀ jobId, call ≠ .sendFund jobId) : Careful runId (rail id call result) := by
  apply bind_ (await_ other)
  intro reply
  cases result reply with
  | some a => exact pure_ a
  | none => exact throw_ _

theorem doIf_ {condition : Bool} {x : DemoRoutine Unit} (given : Careful runId x) :
    Careful runId (doIf condition x) := by
  unfold doIf
  split
  · exact given
  · exact pure_ ()

theorem recordTransaction_ {key : DemoTransactionKey} (other : key ≠ .fund) (id : RunId)
    (transaction : Reference) : Careful runId (recordTransaction id key transaction) := by
  apply update_
  · intro _
    rfl
  · intro _
    exact update_of_ne other.symm _ _

theorem transition_ (id : RunId) (state : DemoRunState) (operation : Option DemoOperation) :
    Careful runId (transition id state operation) :=
  update_ (fun _ => rfl) fun _ => rfl

theorem sendTransaction_ {id : RunId} {call : DemoCall} {key : DemoTransactionKey}
    (other : ∀ jobId, call ≠ .sendFund jobId) (key_ : key ≠ .fund) :
    Careful runId (sendTransaction id call key) := by
  apply bind_ (await_ fun _ same => by cases same)
  intro _
  apply bind_ (rail_ other)
  intro hash
  exact recordTransaction_ key_ id _

/-- The reply to the request is followed by the write of the hash. -/
theorem sendFund_ (jobId : Nat) :
    Careful runId (sendTransaction runId (.sendFund jobId) .fund) := by
  apply bind_ (await_ fun _ same => by cases same)
  intro _ ok error good bad
  refine Records.send (fun hash _ s => match s.repository.recordTransaction runId .fund (.hash hash) with
    | .ok _ => ok ()
    | .error e => error e) ?_ ?_ ?_
  · intro hash
    change Program.sync _ _ = Program.sync _ _
    congr 1
    · funext now s
      simp only [Routine.committed, recorded, DemoRepository.recordTransaction]
      cases s.repository.patch runId _ <;> rfl
    · funext now s
      simp only [DemoRepository.recordTransaction]
      cases s.repository.patch runId _ <;> rfl
  · intro hash now s
    split
    · exact good ()
    · exact bad _
  · intro answer lost
    cases answer with
    | error e => exact bad e
    | ok reply =>
      cases reply with
      | sent hash => exact absurd rfl (lost hash)
      | _ => exact bad _

end Careful

end Programs

section Routines

variable {d : DemoDependencies} {runId : RunId} {run : DemoRun}

open Careful

theorem requireChain_careful : Careful runId (requireChain d) := by
  unfold requireChain
  split
  · exact pure_ ()
  · exact fails_ _

theorem requireJobId_careful : Careful runId (requireJobId run) := by
  unfold requireJobId
  split
  · exact pure_ _
  · exact fails_ _

theorem confirmedReceipt_careful (id : RunId) (transaction : Reference) :
    Careful runId (confirmedReceipt d id transaction) := by
  apply bind_ requireChain_careful
  intro _
  apply bind_ (rail_ fun _ same => by cases same)
  intro receipt
  cases receipt with
  | none => exact pure_ false
  | some success =>
    cases success with
    | true => exact pure_ true
    | false => exact fails_ _

theorem syncTransaction_careful {key : DemoTransactionKey} (other : key ≠ .fund)
    (transaction : Option Reference) : Careful runId (syncTransaction run key transaction) := by
  cases transaction with
  | none => exact pure_ ()
  | some reference => exact doIf_ (recordTransaction_ other _ _)

theorem getJob_careful (id : RunId) (jobId : Nat) : Careful runId (getJob id jobId) :=
  rail_ fun _ same => by cases same

theorem laneIsHuman_careful (id : RunId) (jobId : Nat) : Careful runId (laneIsHuman id jobId) := by
  apply bind_ (rail_ fun _ same => by cases same)
  intro _
  exact pure_ _

section Escrow

theorem processCreateJob_careful : Careful runId (processCreateJob d run) := by
  apply bind_ requireChain_careful
  intro _
  apply bind_ (rail_ fun _ same => by cases same)
  intro recovered
  cases recovered with
  | some created =>
    apply bind_ (doIf_ (recordTransaction_ (by decide) _ _))
    intro _
    exact update_ (fun _ => rfl) fun _ => rfl
  | none =>
    simp only
    split
    · apply bind_ (confirmedReceipt_careful _ _)
      intro _
      exact doIf_ (fails_ _)
    · exact sendTransaction_ (fun _ same => by cases same) (by decide)

theorem processStep_careful {effective : DemoRoutine Bool} {step nextOperation : DemoOperation}
    {change : DemoRun → DemoRun} {key : DemoTransactionKey} {ineffective : String}
    {send : DemoRoutine Unit} (looks : Careful runId effective)
    (keeps : ∀ run, (change run).id = run.id)
    (same : ∀ run, (change run).transactions .fund = run.transactions .fund)
    (sends : Careful runId send) :
    Careful runId (processStep d run effective step nextOperation change key ineffective send) := by
  apply bind_ looks
  intro done
  cases done with
  | true => exact update_ (fun _ => keeps _) fun _ => same _
  | false =>
    simp only [Bool.false_eq_true, ↓reduceIte]
    split
    · apply bind_ (confirmedReceipt_careful _ _)
      intro _
      apply doIf_ (bind_ looks _)
      intro _
      exact doIf_ (fails_ _)
    · exact sends

theorem processSetLane_careful : Careful runId (processSetLane d run) := by
  apply bind_ requireChain_careful
  intro _
  apply bind_ requireJobId_careful
  intro jobId
  exact processStep_careful (laneIsHuman_careful _ _) (fun _ => rfl) (fun _ => rfl)
    (sendTransaction_ (fun _ same => by cases same) (by decide))

theorem processSetBudget_careful : Careful runId (processSetBudget d run) := by
  apply bind_ requireChain_careful
  intro _
  apply bind_ requireJobId_careful
  intro jobId
  exact processStep_careful (bind_ (getJob_careful _ _) fun _ => pure_ _) (fun _ => rfl)
    (fun _ => rfl) (sendTransaction_ (fun _ same => by cases same) (by decide))

theorem processApproval_careful : Careful runId (processApproval d run) := by
  apply bind_ requireChain_careful
  intro _
  exact processStep_careful (bind_ (rail_ fun _ same => by cases same) fun _ => pure_ _)
    (fun _ => rfl) (fun _ => rfl) (sendTransaction_ (fun _ same => by cases same) (by decide))

theorem processFunding_careful : Careful run.id (processFunding d run) := by
  apply bind_ requireChain_careful
  intro _
  apply bind_ requireJobId_careful
  intro jobId
  exact processStep_careful (bind_ (getJob_careful _ _) fun _ => pure_ _) (fun _ => rfl)
    (fun _ => rfl) (sendFund_ jobId)

theorem processSubmission_careful : Careful runId (processSubmission d run) := by
  apply bind_ requireChain_careful
  intro _
  apply bind_ requireJobId_careful
  intro jobId
  refine processStep_careful (bind_ (getJob_careful _ _) fun _ => pure_ _) (fun _ => rfl)
    (fun _ => rfl) ?_
  apply bind_ (laneIsHuman_careful _ _)
  intro isHuman
  cases isHuman with
  | true => exact sendTransaction_ (fun _ same => by cases same) (by decide)
  | false => exact fails_ _

theorem prepareStep_careful (same : run.id = runId) : Careful runId (prepareStep d run) := by
  subst same
  unfold prepareStep
  split
  · exact processCreateJob_careful
  · exact processCreateJob_careful
  · exact processCreateJob_careful
  · exact processSetLane_careful
  · exact processSetBudget_careful
  · exact processApproval_careful
  · exact processFunding_careful
  · exact processSubmission_careful
  · exact fails_ _

theorem startBlock_careful : Careful runId (startBlock run) := by
  unfold startBlock
  split
  · exact pure_ _
  · exact rail_ fun _ same => by cases same

/-- The step that is due is one of the run whose start block may have been written. -/
theorem prepareEscrow_careful : Careful run.id (prepareEscrow d run) := by
  apply bind_ requireChain_careful
  intro _
  unfold beginPreparation
  split
  · apply assoc_
    apply bind_ startBlock_careful
    intro block
    apply update_bind
    · intro _
      rfl
    · intro _
      rfl
    · intro row same
      exact prepareStep_careful same
  · exact prepareStep_careful rfl

theorem reconcileEscalation_careful : Careful runId (reconcileEscalation d run) := by
  apply bind_ requireChain_careful
  intro _
  apply bind_ requireJobId_careful
  intro jobId
  apply bind_ (rail_ fun _ same => by cases same)
  intro resolution
  split
  · apply read_bind
    intro _ _
    exact doIf_ (fails_ _)
  · split
    · exact fails_ _
    · apply bind_ (rail_ fun _ same => by cases same)
      intro transaction
      apply bind_ (syncTransaction_careful (by decide) _)
      intro _
      exact transition_ _ _ _

end Escrow

section Review

theorem reconcileSettled_careful (order : OrderRow) : Careful runId (reconcileSettled d run order) := by
  unfold reconcileSettled
  split
  · exact fails_ _
  · apply bind_ (confirmedReceipt_careful _ _)
    intro _
    apply doIf_
    apply bind_ requireChain_careful
    intro _
    apply bind_ requireJobId_careful
    intro jobId
    apply bind_ (getJob_careful _ _)
    intro job
    apply bind_ (rail_ fun _ same => by cases same)
    intro provenance
    apply bind_ (doIf_ (fails_ _))
    intro _
    refine bind_ (doIf_ (update_ (fun _ => rfl) fun _ => rfl)) fun _ => ?_
    exact transition_ _ _ _

theorem check_careful (result : Except DemoError Unit) : Careful runId (check result) := by
  unfold check
  split
  · exact pure_ ()
  · exact throw_ _

theorem reconcileReview_careful : Careful runId (reconcileReview d run) := by
  apply read_bind
  intro _ db
  cases db.attachedOrder run with
  | none => exact fails_ _
  | some order =>
    apply bind_ (check_careful _)
    intro _
    refine bind_ (doIf_ (update_ (fun _ => rfl) fun _ => rfl)) fun _ => ?_
    apply bind_ (syncTransaction_careful (by decide) _)
    intro _
    apply bind_ (syncTransaction_careful (by decide) _)
    intro _
    apply bind_ (syncTransaction_careful (by decide) _)
    intro _
    apply bind_ (syncTransaction_careful (by decide) _)
    intro _
    split
    · exact transition_ _ _ _
    · split
      · exact reconcileSettled_careful order
      · exact pure_ ()

theorem attachReviewOrder_careful (order : OrderRow) : Careful runId (attachReviewOrder d run order) := by
  apply bind_ (check_careful _)
  intro _
  refine update_bind (fun _ => rfl) (fun _ => rfl) fun _ _ => ?_
  apply read_bind
  intro _ db
  cases db.repository.get run.id with
  | some row => exact reconcileReview_careful
  | none => exact throw_ _

theorem purchaseReview_careful : Careful runId (purchaseReview d run) := by
  apply read_bind
  intro _ db
  cases db.attachedOrder run with
  | some existing =>
    apply bind_ (check_careful _)
    intro _
    exact attachReviewOrder_careful existing
  | none =>
    apply bind_ requireChain_careful
    intro _
    apply bind_ (rail_ fun _ same => by cases same)
    intro payment
    apply read_bind
    intro _ db
    cases (db.getOrder payment.orderId).or (db.getOrderByRequestId run.requestId) with
    | none => exact fails_ _
    | some order =>
      apply bind_ (check_careful _)
      intro _
      apply bind_ (doIf_ (recordTransaction_ (by decide) _ _))
      intro _
      apply read_bind
      intro _ db
      cases db.repository.get run.id with
      | some row => exact attachReviewOrder_careful order
      | none => exact throw_ _

end Review

section Archive

theorem reconcileUnknownJob_careful : Careful runId (reconcileUnknownJob d run) := by
  apply bind_ (rail_ fun _ same => by cases same)
  intro recovered
  cases recovered with
  | some created =>
    apply bind_ (doIf_ (recordTransaction_ (by decide) _ _))
    intro _
    exact update_ (fun _ => rfl) fun _ => rfl
  | none =>
    simp only
    split
    · apply bind_ (confirmedReceipt_careful _ _)
      intro _
      exact doIf_ (fails_ _)
    · exact transition_ _ _ _

theorem claimRefund_careful (jobId : Nat) (job : DemoJob) :
    Careful runId (claimRefund d run jobId job) := by
  apply read_bind
  intro _ _
  apply doIf_
  split
  · apply bind_ (confirmedReceipt_careful _ _)
    intro _
    apply doIf_
    apply bind_ (getJob_careful _ _)
    intro refundedJob
    split
    · exact fails_ _
    · exact doIf_ (transition_ _ _ _)
  · exact sendTransaction_ (fun _ same => by cases same) (by decide)

theorem reconcileUnfunded_careful (jobId : Nat) :
    Careful runId (reconcileUnfunded d run jobId) := by
  unfold reconcileUnfunded
  split
  · exact transition_ _ _ _
  · apply bind_ (confirmedReceipt_careful _ _)
    intro _
    apply doIf_
    apply bind_ (getJob_careful _ _)
    intro job
    split
    · exact fails_ _
    · split
      · exact transition_ _ _ _
      · split
        · exact fails_ _
        · exact claimRefund_careful jobId job

theorem reconcileArchive_careful : Careful runId (reconcileArchive d run) := by
  apply bind_ requireChain_careful
  intro _
  split
  · exact reconcileUnknownJob_careful
  next jobId _ =>
    apply bind_ (getJob_careful _ _)
    intro job
    split
    · exact fails_ _
    · split
      · exact transition_ _ _ _
      · split
        · exact reconcileUnfunded_careful jobId
        · exact claimRefund_careful jobId job

end Archive

theorem processState_careful : Careful run.id (processState d run) := by
  unfold processState
  split
  · exact prepareEscrow_careful
  · exact prepareEscrow_careful
  · exact reconcileEscalation_careful
  · exact purchaseReview_careful
  · exact reconcileReview_careful
  · exact reconcileArchive_careful
  · exact pure_ ()

theorem handleError_careful (error : DemoError) : Careful runId (handleError runId error) := by
  unfold handleError
  split
  · exact update_ (fun _ => rfl) fun _ => rfl
  · exact update_ (fun _ => rfl) fun _ => rfl

theorem processRun_careful (d : DemoDependencies) (runId : RunId) : Careful runId (processRun d runId) := by
  apply tryCatch_ _ handleError_careful
  apply read_bind
  intro _ db
  cases found : db.repository.get runId with
  | none => exact pure_ ()
  | some run =>
    have same := DemoRepository.get_id found
    subst same
    exact processState_careful

theorem processRun_records (d : DemoDependencies) (runId : RunId) :
    Records runId (processRun d runId).start :=
  processRun_careful d runId _ _ (fun _ => .done) fun _ => .done

end Routines

end VapiArc.Demo
