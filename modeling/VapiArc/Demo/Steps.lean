import VapiArc.Demo.Processing

/-!
# What one step of the demo service does

A step leaves the table of the runs as it is, changes one row or adds one. The presenter's
actions change rows that are not processed, so that the activities can count on theirs.
-/
namespace VapiArc.Demo

open Checked Function Async Transition Review DemoProcessor

namespace DemoRepository

/-- How one step changes the table; a row changes as the relation tells. -/
inductive Changed (R : DemoRun → DemoRun → Prop) (repository repository' : DemoRepository) : Prop
  | same (ids : repository'.runs.map (·.id) = repository.runs.map (·.id))
      (rows : ∀ runId, repository'.get runId = repository.get runId)
  | row {runId : RunId} {run run' : DemoRun}
      (ids : repository'.runs.map (·.id) = repository.runs.map (·.id))
      (found : repository.get runId = some run) (written : repository'.get runId = some run')
      (others : ∀ other, other ≠ runId → repository'.get other = repository.get other)
      (related : R run run')
  | created {input : CreateDemoRunInput} {createdAt : Timestamp}
      (new : repository.get input.runId = none)
      (unused : ∀ run ∈ repository.runs, run.requestId ≠ input.requestId)
      (inactive : ∀ run ∈ repository.runs, run.state.active = false)
      (value : repository' = { runs := repository.runs ++ [{ input, createdAt }] })

variable {repository repository' : DemoRepository} {runId : RunId} {run updated : DemoRun}
  {R : DemoRun → DemoRun → Prop}

theorem Changed.refl : repository.Changed R repository := .same rfl fun _ => rfl

theorem Changed.imp {R' : DemoRun → DemoRun → Prop} (changed : repository.Changed R repository')
    (weaker : ∀ run run', R run run' → R' run run') : repository.Changed R' repository' := by
  cases changed with
  | same ids rows => exact .same ids rows
  | row ids found written others related => exact .row ids found written others (weaker _ _ related)
  | created new unused inactive value => exact .created new unused inactive value

theorem Changed.patch {change : DemoRun → DemoRun}
    (done : repository.patch runId change = .ok (updated, repository'))
    (keeps : ∀ run, (change run).id = run.id)
    (related : ∀ run, repository.get runId = some run → R run (change run)) :
    repository.Changed R repository' := by
  obtain ⟨run, found, -, written, others⟩ := patch_ok done keeps
  exact .row (patch_ids done keeps) found written others (related run found)

theorem get_append {run new : DemoRun} (found : repository.get runId = some run) :
    ({ runs := repository.runs ++ [new] } : DemoRepository).get runId = some run := by
  simp only [get] at found ⊢
  rw [List.find?_append, found]
  rfl

theorem get_append_some {new : DemoRun}
    (found : ({ runs := repository.runs ++ [new] } : DemoRepository).get runId = some run) :
    repository.get runId = some run ∨ new.id = runId ∧ new = run := by
  simp only [get, List.find?_append, Option.or_eq_some_iff] at found
  rcases found with old | ⟨-, added⟩
  · exact .inl old
  · rw [List.find?_singleton] at added
    split at added
    next same =>
      cases added
      exact .inr ⟨by simpa using same, rfl⟩
    next => cases added

/-- What every change of a row keeps is kept. -/
theorem Changed.keeps {P : DemoRun → Prop} (changed : repository.Changed R repository')
    (kept : ∀ run run', R run run' → P run → P run')
    (before : ∃ run, repository.get runId = some run ∧ P run) :
    ∃ run, repository'.get runId = some run ∧ P run := by
  obtain ⟨run, found, holds⟩ := before
  cases changed with
  | same _ rows => exact ⟨run, (rows runId).trans found, holds⟩
  | @row other _ run' _ there written others related =>
    by_cases same : runId = other
    · subst same
      cases there.symm.trans found
      exact ⟨run', written, kept _ _ related holds⟩
    · exact ⟨run, (others runId same).trans found, holds⟩
  | created _ _ _ value => exact ⟨run, value ▸ get_append found, holds⟩

end DemoRepository

/-- How an action changes a row. -/
inductive DemoRun.Acts (d : DemoDependencies) (db : DemoDatabase) (run run' : DemoRun) :
    DemoOutside → Prop
  | purchased (waits : run.state = .awaitingPurchase) (state : run'.state = .purchasingReview) :
      Acts d db run run' (.purchase run.id)
  | cleared (failed : run.state = .failed) (state : run'.state = .failed) :
      Acts d db run run' (.interruptedRetry run.id)
  | retried {nextKey : IdempotencyKey} (failed : run.state = .failed)
      (state : run'.state = recovery (db.attachedOrder run).isSome run)
      (own : ∀ order, db.attachedOrder run = some order →
        reviewOrderMatchesRun d run order = true ∧ retryableCircleOperation order = none) :
      Acts d db run run' (.retry run.id nextKey)
  | archived (open_ : run.state = .failed ∨ run.state = .awaitingPurchase)
      (unpaid : db.attachedOrder run = none)
      (state : run'.state = .archivedRefundPending ∨
        run'.state = .archivedRefunded ∧ run.jobId = none) : Acts d db run run' (.archive run.id)

/-- An action changes a row that is not processed, and keeps most of it. -/
structure DemoRun.Acted (d : DemoDependencies) (db : DemoDatabase) (event : DemoOutside)
    (run run' : DemoRun) : Prop where
  input : run'.input = run.input
  jobId : run'.jobId = run.jobId
  recoveryState : run'.recoveryState = run.recoveryState
  acts : run.Acts d db run' event

theorem DemoRun.Acted.still {d : DemoDependencies} {db : DemoDatabase} {event : DemoOutside}
    {run run' : DemoRun} (acted : run.Acted d db event run') : run.state.processable = false := by
  cases acted.acts with
  | purchased waits => rw [waits]; rfl
  | cleared failed => rw [failed]; rfl
  | retried failed => rw [failed]; rfl
  | archived open_ =>
    rcases open_ with state | state
    · rw [state]; rfl
    · rw [state]; rfl

section Actions

variable {d : DemoDependencies} {db db' : DemoDatabase} {runId : RunId} {run updated : DemoRun}
  {repository' : DemoRepository}

theorem requireRun_eq (done : requireRun db runId = .ok run) :
    db.repository.get runId = some run := by
  simpa [requireRun, demand_ok] using done

theorem writes_ok {result : Except DemoError (DemoRun × DemoRepository)}
    (done : writes db result = .ok (updated, db')) :
    ∃ repository', result = .ok (updated, repository') ∧
      db' = { db with repository := repository' } := by
  cases result with
  | error e => cases done
  | ok pair =>
    cases done
    exact ⟨pair.2, rfl, rfl⟩

theorem purchase_changed (done : purchase db runId = .ok (updated, db')) :
    db'.reviews = db.reviews ∧
      db.repository.Changed (DemoRun.Acted d db (.purchase runId)) db'.repository := by
  simp only [purchase, bind_ok] at done
  obtain ⟨run, found, done⟩ := done
  replace found := requireRun_eq found
  have here := DemoRepository.get_id found
  subst here
  split at done
  · cases done
    exact ⟨rfl, .refl⟩
  · simp only [bind_ok, revertIf_ok, not_not, exists_const] at done
    obtain ⟨waits, done⟩ := done
    obtain ⟨repository', written, rfl⟩ := writes_ok done
    refine ⟨rfl, .patch written (fun _ => rfl) fun row there => ?_⟩
    cases found.symm.trans there
    exact ⟨rfl, rfl, rfl, .purchased waits rfl⟩

/-- What a `retry` clears is a transaction of the row. -/
theorem cleared_changed (found : db.repository.get run.id = some run)
    (done : cleared db run = .ok (updated, repository')) :
    repository'.runs.map (·.id) = db.repository.runs.map (·.id) ∧
      repository'.get run.id = some updated ∧
      (∀ other, other ≠ run.id → repository'.get other = db.repository.get other) ∧
      ∃ transactions, updated = { run with transactions } := by
  unfold cleared at done
  split at done
  · obtain ⟨row, there, rfl, written, others⟩ := DemoRepository.patch_ok done fun _ => rfl
    cases found.symm.trans there
    exact ⟨DemoRepository.patch_ids done (fun _ => rfl), written, others, _, rfl⟩
  · cases done
    exact ⟨rfl, found, fun _ _ => rfl, _, rfl⟩

theorem recoverRun_changed {nextKey : IdempotencyKey} (found : db.repository.get run.id = some run)
    (own : ∀ order, db.attachedOrder run = some order →
      reviewOrderMatchesRun d run order = true ∧ retryableCircleOperation order = none)
    (done : recoverRun db run (db.attachedOrder run).isSome = .ok (updated, db')) :
    db'.reviews = db.reviews ∧
      db.repository.Changed (DemoRun.Acted d db (.retry run.id nextKey)) db'.repository := by
  simp only [recoverRun, bind_ok, revertIf_ok, not_not, exists_const] at done
  obtain ⟨failed, ⟨run', repository'⟩, clears, done⟩ := done
  obtain ⟨ids, there, others, transactions, rfl⟩ := cleared_changed found clears
  obtain ⟨repository'', written, rfl⟩ := writes_ok done
  obtain ⟨row, there', -, written', others'⟩ := DemoRepository.patch_ok written fun _ => rfl
  cases there.symm.trans there'
  refine ⟨rfl, .row ((DemoRepository.patch_ids written fun _ => rfl).trans ids) found written'
    (fun other different => (others' other different).trans (others other different)) ?_⟩
  exact ⟨rfl, rfl, rfl, .retried failed rfl own⟩

/-- A `retry` of an order writes to the order only. -/
theorem resumeOrder_ok {order : OrderRow} {operation : CircleOperation} {nextKey : IdempotencyKey}
    (done : resumeOrder d db run order operation nextKey = .ok (updated, db')) :
    db'.repository = db.repository ∧
      ∃ rows, db'.reviews = db.reviews.proceed order.purchase.id rows := by
  simp only [resumeOrder, bind_ok, revertIf_ok, pure_ok, Prod.mk.injEq] at done
  obtain ⟨-, -, pair, -, -, rfl⟩ := done
  exact ⟨rfl, _, rfl⟩

theorem retry_changed {nextKey : IdempotencyKey}
    (done : retry d db runId nextKey = .ok (updated, db')) :
    (db'.reviews = db.reviews ∨ ∃ id rows, db'.reviews = db.reviews.proceed id rows) ∧
      db.repository.Changed (DemoRun.Acted d db (.retry runId nextKey)) db'.repository := by
  simp only [retry, bind_ok] at done
  obtain ⟨run, found, done⟩ := done
  replace found := requireRun_eq found
  have here := DemoRepository.get_id found
  subst here
  have recovers {attached : Bool} (value : (db.attachedOrder run).isSome = attached)
      (own : ∀ order, db.attachedOrder run = some order →
        reviewOrderMatchesRun d run order = true ∧ retryableCircleOperation order = none)
      (done : recoverRun db run attached = .ok (updated, db')) :
      (db'.reviews = db.reviews ∨ ∃ id rows, db'.reviews = db.reviews.proceed id rows) ∧
        db.repository.Changed (DemoRun.Acted d db (.retry run.id nextKey)) db'.repository := by
    subst value
    exact (recoverRun_changed found own done).imp_left .inl
  split at done
  next none_ => exact recovers (by rw [none_]; rfl) (by simp [none_]) done
  next order attached =>
    simp only [bind_ok, assertReviewOrderMatchesRun, revertIf_ok] at done
    obtain ⟨-, own, done⟩ := done
    split at done
    next operation _ =>
      obtain ⟨same, rows, reviews⟩ := resumeOrder_ok done
      exact ⟨.inr ⟨_, rows, reviews⟩, same ▸ .refl⟩
    next settled =>
      refine recovers (by rw [attached]; rfl) (fun other there => ?_) done
      cases attached.symm.trans there
      exact ⟨by simpa using own, settled⟩

/-- An `archive` is a replay, or it changes a run that is open and has no order. -/
theorem archive_ok (found : db.repository.get run.id = some run)
    (done : archive d db run.id = .ok (updated, db')) :
    db' = db ∧ run.state ≠ .failed ∧ run.state ≠ .awaitingPurchase ∨
      ∃ repository' run', db' = { db with repository := repository' } ∧
        repository'.runs.map (·.id) = db.repository.runs.map (·.id) ∧
        repository'.get run.id = some run' ∧
        (∀ other, other ≠ run.id → repository'.get other = db.repository.get other) ∧
        run.Acted d db (.archive run.id) run' := by
  simp only [archive, bind_ok] at done
  obtain ⟨row, there, done⟩ := done
  cases found.symm.trans (requireRun_eq there)
  split at done
  next replay =>
    cases done
    left
    rcases replay with state | state | state <;> simp [state]
  · simp only [bind_ok, revertIf_ok, exists_const] at done
    obtain ⟨open_, done⟩ := done
    replace open_ : run.state = .failed ∨ run.state = .awaitingPurchase := by tauto
    right
    split at done
    · simp only [bind_ok] at done
      obtain ⟨-, -, refused⟩ := done
      cases refused
    next unpaid =>
      split at done
      next unsent =>
        obtain ⟨repository', written, rfl⟩ := writes_ok done
        obtain ⟨row, there, -, here, others⟩ := DemoRepository.patch_ok written fun _ => rfl
        cases found.symm.trans there
        exact ⟨repository', _, rfl, DemoRepository.patch_ids written fun _ => rfl, here, others,
          rfl, rfl, rfl, .archived open_ unpaid (.inr ⟨rfl, unsent.1⟩)⟩
      next =>
        obtain ⟨repository', written, rfl⟩ := writes_ok done
        obtain ⟨row, there, -, here, others⟩ := DemoRepository.patch_ok written fun _ => rfl
        cases found.symm.trans there
        exact ⟨repository', _, rfl, DemoRepository.patch_ids written fun _ => rfl, here, others,
          rfl, rfl, rfl, .archived open_ unpaid (.inl rfl)⟩

theorem archive_changed (done : archive d db runId = .ok (updated, db')) :
    db'.reviews = db.reviews ∧
      db.repository.Changed (DemoRun.Acted d db (.archive runId)) db'.repository := by
  have required : ∃ run, requireRun db runId = .ok run := by
    simp only [archive, bind_ok] at done
    exact done.imp fun _ found => found.1
  obtain ⟨run, found⟩ := required
  replace found := requireRun_eq found
  have here := DemoRepository.get_id found
  subst here
  rcases archive_ok found done with ⟨rfl, -⟩ | ⟨repository', run', rfl, ids, written, others, acted⟩
  · exact ⟨rfl, .refl⟩
  · exact ⟨rfl, .row ids found written others acted⟩

/-- A crash leaves a failed run of which a transaction may have been cleared. -/
theorem interruptedRetry_changed (found : db.repository.get run.id = some run)
    (failed : run.state = .failed) (done : writes db (cleared db run) = .ok (updated, db')) :
    db'.reviews = db.reviews ∧
      db.repository.Changed (DemoRun.Acted d db (.interruptedRetry run.id)) db'.repository := by
  obtain ⟨repository', clears, rfl⟩ := writes_ok done
  obtain ⟨ids, written, others, transactions, rfl⟩ := cleared_changed found clears
  exact ⟨rfl, .row ids found written others ⟨rfl, rfl, rfl, .cleared failed failed⟩⟩

theorem createRun_changed {repository : DemoRepository} {input : CreateDemoRunInput}
    {maxRunsPerHour : Nat} {now timestamp : Timestamp} {result : DemoRun × Bool}
    {R : DemoRun → DemoRun → Prop}
    (done : repository.createRun input maxRunsPerHour now timestamp = .ok (result, repository')) :
    repository.Changed R repository' := by
  unfold DemoRepository.createRun at done
  split at done
  · cases done
    exact .refl
  next unused =>
    split at done
    · cases done
    next inactive =>
      simp only [bind_ok, revertIf_ok, exists_const, pure_ok, Prod.mk.injEq] at done
      obtain ⟨-, new, -, rfl⟩ := done
      have new' : repository.get input.runId = none := by simpa using new
      refine .created new' ?_ ?_ rfl
      · simpa [DemoRepository.getByRequestId] using unused
      · simpa using inactive

end Actions

section Service

variable {d : DemoDependencies} {config : TreasuryConfig} {balance : Nat} {s : DemoStore}
  {event : DemoOutside}

/-- What happens outside changes the table in the same few ways. -/
theorem outside_changed (permitted : (demoHost d config balance).permits s event) :
    s.repository.Changed (DemoRun.Acted d s.database event)
      (outside d config balance s event).repository := by
  cases event with
  | createRun input now timestamp =>
    simp only [outside]
    split
    next done => exact createRun_changed done
    next => exact .refl
  | purchase runId =>
    simp only [outside, DemoStore.acted]
    split
    next done => exact (purchase_changed done).2
    next => exact .refl
  | retry runId nextKey =>
    simp only [outside, DemoStore.acted]
    split
    next done => exact (retry_changed done).2
    next => exact .refl
  | interruptedRetry runId =>
    obtain ⟨run, found, failed⟩ := permitted
    have here := DemoRepository.get_id found
    subst here
    simp only [outside, DemoStore.acted]
    split
    next updated db' done =>
      simp only [bind_ok] at done
      obtain ⟨row, there, done⟩ := done
      cases found.symm.trans (requireRun_eq there)
      exact (interruptedRetry_changed found failed done).2
    next => exact .refl
  | archive runId =>
    simp only [outside, DemoStore.acted]
    split
    next done => exact (archive_changed done).2
    next => exact .refl
  | review => exact .refl
  | finish => exact .refl
  | fund => exact .refl
  | status => exact .refl

/-- A row that is processed stays as it is. -/
theorem DemoRepository.Changed.processed {repository repository' : DemoRepository}
    (changed : repository.Changed (DemoRun.Acted d s.database event) repository') {runId : RunId}
    {run : DemoRun} (found : repository.get runId = some run)
    (live : run.state.processable = true) : repository'.get runId = some run := by
  cases changed with
  | same _ rows => rw [rows, found]
  | @row other row row' _ there written others acted =>
    by_cases same : runId = other
    · subst same
      cases found.symm.trans there
      rw [acted.still] at live
      cases live
    · rw [others runId same, found]
  | created _ _ _ value =>
    rw [value]
    exact DemoRepository.get_append found

theorem settle_rejected {chain : DemoChain} {index : Nat} {fate : Fate} {hash : Hex}
    (permitted : ∃ tx, chain.funds[index]? = some tx ∧ chain.Permits tx fate) {jobId : Nat}
    (rejected : chain.status jobId = 4) : (chain.settle index fate hash).status jobId = 4 := by
  obtain ⟨tx, found, permits⟩ := permitted
  simp only [DemoChain.settle, found]
  split
  next success =>
    subst success
    have other : jobId ≠ tx.jobId := by
      rintro rfl
      exact absurd (rejected.symm.trans permits.2) (by decide)
    simp [other, rejected]
  · exact rejected

/-- The end of a job is final. -/
theorem outside_rejected (permitted : (demoHost d config balance).permits s event) {jobId : Nat}
    (rejected : s.chain.status jobId = 4) :
    (outside d config balance s event).chain.status jobId = 4 := by
  have acted (result : Except DemoError (DemoRun × DemoDatabase)) :
      (s.acted result).chain = s.chain := by
    unfold DemoStore.acted
    split <;> rfl
  cases event with
  | createRun input now timestamp =>
    simp only [outside]
    split <;> exact rejected
  | purchase runId => rw [outside, acted, rejected]
  | retry runId nextKey => rw [outside, acted, rejected]
  | interruptedRetry runId => rw [outside, acted, rejected]
  | archive runId =>
    simp only [outside]
    rw [acted, rejected]
  | review => exact rejected
  | finish => exact rejected
  | fund index fate hash => exact settle_rejected permitted rejected
  | status other status =>
    have different : jobId ≠ other := by
      rintro rfl
      exact permitted (.inr rejected)
    simp [outside, different, rejected]

/-- The activities may count on each other, and on what happens outside. -/
theorem demo_shared : Shared (demoHost d config balance) demoContracts where
  others key other s s' different moves :=
    ⟨fun run found _ => (moves.others other different).trans found, fun jobId rejected =>
      (congrFun moves.status jobId).trans rejected⟩
  invariant _ _ _ _ := trivial
  awaiting key s event _ permitted :=
    ⟨fun run found live => (outside_changed permitted).processed found live,
      fun jobId rejected => outside_rejected permitted rejected⟩
  anytime s event _ permitted remote := by
    refine ⟨?_, fun jobId rejected => outside_rejected permitted rejected⟩
    cases event with
    | fund => rfl
    | status => rfl
    | _ => exact remote.elim
  spawned key s _ := processRun_meets key _ _ (fun _ _ _ => .done) (fun _ _ _ => .done) s trivial

/-- A step writes nothing, moves a run on, or happens outside of the processing. -/
theorem service_step {history : List (DemoState × DemoEvent)} {v : DemoState} {t : DemoEvent}
    (run : DemoServiceRun d config balance history v)
    (admitted : (demo d config balance).admits v t) :
    ((demo d config balance).next v t).store = v.store ∨
      (∃ runId now, t = .advance runId now ∧
        Moves runId v.store ((demo d config balance).next v t).store) ∨
      ∃ event, t = .outside event ∧ (demoHost d config balance).permits v.store event := by
  obtain ⟨kept, good⟩ := pool_good demo_shared run trivial
  obtain ⟨-, -, same | moves | ⟨event, rfl⟩⟩ := pool_step demo_shared kept good admitted
  · exact .inl same
  · exact .inr (.inl moves)
  · exact .inr (.inr ⟨event, rfl, admitted.1⟩)

theorem Moves.changed {runId : RunId} {s s' : DemoStore} (moves : Moves runId s s') :
    s.repository.Changed (fun run run' => run.Proceeds s.chain run') s'.repository := by
  rcases moves.row with same | ⟨run, run', found, written, proceeds⟩
  · refine .same moves.ids fun other => ?_
    by_cases here : other = runId
    · rw [here, same]
    · exact moves.others other here
  · exact .row moves.ids found written moves.others proceeds

end Service

end VapiArc.Demo
