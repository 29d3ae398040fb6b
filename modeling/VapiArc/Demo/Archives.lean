import VapiArc.Demo.Refunds

/-!
# The payments of an archived run

`archive` is refused while the run has a review order. It does not look at the reservations, of
which one whose settlement has been attempted becomes an order when the gateway recovers it.
-/
namespace VapiArc.Demo

open Checked Function Async Transition Review DemoProcessor

/-- The run is being archived or has been, or has failed while it was. -/
def DemoRun.Archived (run : DemoRun) : Prop :=
  run.state = .archivedRefundPending ∨ run.state = .archivedRefunded ∨
    run.state = .failed ∧ run.recoveryState = some .archivedRefundPending

/-- Under the identifier no payment request is open, and no settlement has been attempted that
has not led to an order. -/
structure DemoStore.Unpaid (s : DemoStore) (requestId : String) : Prop where
  paying : requestId ∉ s.paying
  reservations : ∀ r ∈ s.purchases.db.reservations, r.requestId = requestId → r.mayBePaid = false

def Unordered (db : ReviewDatabase) (requestId : String) : Prop :=
  ∀ o ∈ db.orders, o.requestId ≠ requestId

/-- `archive` would change the run. -/
def DemoStore.Archivable (s : DemoStore) (run : DemoRun) : Prop :=
  (run.state = .failed ∨ run.state = .awaitingPurchase) ∧ s.database.attachedOrder run = none

section Reviews

variable {s : DemoStore} {requestId : String} {config : TreasuryConfig} {balance : Nat}

/-- The order has the identifier of the request that it was made for. -/
theorem createOrder_unordered {db db' : ReviewDatabase} {input : CreateReviewOrderInput}
    {generated : OrderKeys} {result : OrderRow × Bool} (unordered : Unordered db requestId)
    (other : input.requestId ≠ requestId) (done : db.createOrder input generated = .ok (result, db')) :
    Unordered db' requestId ∧ db'.reservations.Sublist db.reservations := by
  unfold ReviewDatabase.createOrder at done
  split at done
  · cases done
    exact ⟨unordered, .refl _⟩
  · simp only [bind_ok, revertIf_ok, exists_const, pure_ok, Prod.mk.injEq] at done
    obtain ⟨r, -, -, -, -, rfl⟩ := done
    refine ⟨fun o member => ?_, List.filter_sublist⟩
    rcases List.mem_append.mp member with old | new
    · exact unordered o old
    · obtain rfl := List.mem_singleton.mp new
      exact other

/-- What the gateway does for others, and the recovery of what has been attempted, leaves a
request alone that nobody has paid for. -/
theorem review_closed {e : PurchaseEvent} (admitted : (purchases config balance).admits s.purchases e)
    (serves : s.Serves e) (owned : s.Owned requestId) (unpaid : s.Unpaid requestId)
    (unordered : Unordered s.purchases.db requestId) :
    (∀ r ∈ (purchaseStep config balance s.purchases e).db.reservations, r.requestId = requestId →
      r.mayBePaid = false) ∧
    Unordered (purchaseStep config balance s.purchases e).db requestId := by
  -- only `create` makes an order without a reservation
  by_cases creates : ∃ input generated, e = .create input generated
  · obtain ⟨input, generated, rfl⟩ := creates
    have other : input.requestId ≠ requestId := fun same =>
      unpaid.paying (same ▸ serves (same ▸ owned))
    simp only [purchaseStep, PurchaseState.committed, PurchaseState.issue, PurchaseState.at_]
    split
    next done =>
      obtain ⟨kept, fewer⟩ := createOrder_unordered unordered other done
      exact ⟨fun r member => unpaid.reservations r (fewer.subset member), kept⟩
    next => exact ⟨unpaid.reservations, unordered⟩
  · obtain ⟨swept, begins, change⟩ := step_change admitted
    have before (r : Reservation) (member : r ∈ swept.reservations) (own : r.requestId = requestId) :
        r.mayBePaid = false := unpaid.reservations r (begins.sublist.subset member) own
    have orders : Unordered swept requestId := by
      intro o member
      exact unordered o (begins.orders ▸ member)
    -- the purchase in hand is for another request, since this one is not paid for any more
    have foreign (p : Purchasing) (acquires : e = .acquire p) : p.requestId ≠ requestId := by
      subst acquires
      exact fun same => unpaid.paying (same ▸ serves (same ▸ owned))
    simp only [purchases] at change
    generalize (purchaseStep config balance s.purchases e).db = db' at change ⊢
    cases change with
    | same => exact ⟨before, orders⟩
    | deletes => exact ⟨fun r member => before r (List.mem_of_mem_filter member), orders⟩
    | touches concerns keyed touched begun =>
      refine ⟨fun r' member own => ?_, orders⟩
      obtain ⟨r, old, ⟨meets, rfl⟩ | ⟨-, rfl⟩⟩ := ReviewDatabase.mem_updateWhere.mp member
      · have own' : r.requestId = requestId := (touched r meets).requestId.symm.trans own
        have owned' : s.Owned r.requestId := own'.symm ▸ owned
        have inside := begins.sublist.subset old
        -- what marks a row as paid is done for a request that is being paid for
        rcases begun r meets with paid | ⟨-, payload, requirements, now, rfl⟩ | ⟨error, delay, now, rfl⟩
        · exact absurd paid (by simp [before r old own'])
        · exact absurd (serves r inside (keyed r meets) owned') (own' ▸ unpaid.paying)
        · rcases serves r inside (keyed r meets) owned' with paying | paid
          · exact absurd paying (own' ▸ unpaid.paying)
          · exact absurd paid (by simp [before r old own'])
      · exact before r old own
    | @settles r payment settlement recorded found =>
      refine ⟨fun r' member own => ?_, orders⟩
      obtain ⟨other, old, ⟨meets, rfl⟩ | ⟨-, rfl⟩⟩ := ReviewDatabase.mem_updateWhere.mp member
      · subst recorded
        simp only [Bool.and_eq_true, decide_eq_true_eq] at meets
        replace own : other.requestId = requestId := own
        rcases serves other (begins.sublist.subset old) meets.1 (own.symm ▸ owned) with paying | paid
        · exact absurd paying (own ▸ unpaid.paying)
        · exact absurd paid (by simp [before other old own])
      · exact before other old own
    | @renews p existing acquires _ _ _ _ _ _ accepted =>
      refine ⟨fun r' member own => ?_, orders⟩
      obtain ⟨other, old, ⟨-, rfl⟩ | ⟨-, rfl⟩⟩ := ReviewDatabase.mem_updateWhere.mp member
      · -- a renewal is for the request of the row that it takes over
        simp only [Purchasing.refusedBy, Bool.or_eq_false_iff, Bool.not_eq_false',
          Bool.and_eq_true, decide_eq_true_eq] at accepted
        exact absurd (accepted.1.1.1.1.1.symm.trans own) (foreign p acquires)
      · exact before other old own
    | @inserts p acquires =>
      refine ⟨fun r member own => ?_, orders⟩
      rcases List.mem_append.mp member with old | new
      · exact before r old own
      · obtain rfl := List.mem_singleton.mp new
        exact absurd own (foreign p acquires)
    | @sells r o member _ carries =>
      refine ⟨fun r' kept => before r' (List.mem_of_mem_filter kept), fun o' listed => ?_⟩
      rcases List.mem_append.mp listed with old | new
      · exact orders o' old
      · obtain rfl := List.mem_singleton.mp new
        -- the row that is sold was paid for, and no row of this request is
        intro own
        obtain ⟨settlement, settled, -⟩ := carries.settled
        have unpaid := before r member (carries.requestId.symm.trans own)
        simp [Reservation.mayBePaid, Reservation.pending, settled] at unpaid
    | @creates input generated o created => exact absurd ⟨input, generated, created⟩ creates
    | @proceeds o rows =>
      refine ⟨before, fun o' member => ?_⟩
      obtain ⟨old, there, rfl⟩ := List.mem_map.mp member
      split
      · exact orders old there
      · exact orders old there

variable {d : DemoDependencies} {event : DemoOutside}

/-- An action changes an order in its own rows at most. -/
theorem acted_closed {result : Except DemoError (DemoRun × DemoDatabase)}
    (keeps : ∀ updated db', result = .ok (updated, db') → db'.reviews = s.purchases.db ∨
      ∃ id rows, db'.reviews = s.purchases.db.proceed id rows)
    (unpaid : s.Unpaid requestId) (unordered : Unordered s.purchases.db requestId) :
    (s.acted result).Unpaid requestId ∧ Unordered (s.acted result).purchases.db requestId := by
  unfold DemoStore.acted
  split
  next updated db' =>
    simp only [DemoStore.withDatabase]
    rcases keeps updated db' rfl with same | ⟨id, rows, same⟩
    · refine ⟨⟨unpaid.paying, ?_⟩, ?_⟩
      · simpa only [same] using unpaid.reservations
      · simpa only [same] using unordered
    · refine ⟨⟨unpaid.paying, ?_⟩, ?_⟩
      · simpa only [same, ReviewDatabase.proceed] using unpaid.reservations
      · intro o member
        simp only [same] at member
        obtain ⟨old, there, rfl⟩ := List.mem_map.mp member
        split
        · exact unordered old there
        · exact unordered old there
  next => exact ⟨unpaid, unordered⟩

theorem outside_closed (permitted : (demoHost d config balance).permits s event)
    (owned : s.Owned requestId) (unpaid : s.Unpaid requestId)
    (unordered : Unordered s.purchases.db requestId) :
    (outside d config balance s event).Unpaid requestId ∧
      Unordered (outside d config balance s event).purchases.db requestId := by
  cases event with
  | createRun input now timestamp =>
    simp only [outside]
    split
    · exact ⟨⟨unpaid.paying, unpaid.reservations⟩, unordered⟩
    · exact ⟨unpaid, unordered⟩
  | purchase runId => 
    exact acted_closed (fun _ _ done => .inl (purchase_changed (d := d) done).1) unpaid unordered
  | retry runId nextKey =>
    exact acted_closed (fun _ _ done => (retry_changed done).1) unpaid unordered
  | interruptedRetry runId =>
    obtain ⟨run, found, failed⟩ := permitted
    have here := DemoRepository.get_id found
    subst here
    refine acted_closed (fun updated db' done => .inl ?_) unpaid unordered
    simp only [bind_ok] at done
    obtain ⟨row, there, done⟩ := done
    cases found.symm.trans (requireRun_eq there)
    exact (interruptedRetry_changed (d := d) found failed done).1
  | archive runId =>
    obtain ⟨closed, kept⟩ := acted_closed (fun updated db'
      (done : DemoProcessor.archive d s.database runId = .ok (updated, db')) =>
        .inl (archive_changed done).1) unpaid unordered
    exact ⟨⟨closed.paying, closed.reservations⟩, kept⟩
  | review e =>
    obtain ⟨reservations, kept⟩ := review_closed permitted.1 permitted.2 owned unpaid unordered
    exact ⟨⟨unpaid.paying, reservations⟩, kept⟩
  | finish other =>
    exact ⟨⟨fun paying => unpaid.paying (List.mem_of_mem_erase paying), unpaid.reservations⟩, unordered⟩
  | fund => exact ⟨⟨unpaid.paying, unpaid.reservations⟩, unordered⟩
  | status => exact ⟨⟨unpaid.paying, unpaid.reservations⟩, unordered⟩

end Reviews

section Rows

variable {repository repository' : DemoRepository} {R : DemoRun → DemoRun → Prop}

/-- Different runs have different requests. -/
def DemoRepository.Unique (repository : DemoRepository) : Prop :=
  ∀ first second run run', repository.get first = some run → repository.get second = some run' →
    run.requestId = run'.requestId → first = second

theorem DemoRepository.Changed.unique (changed : repository.Changed R repository')
    (kept : ∀ run run', R run run' → run'.input = run.input) (unique : repository.Unique) :
    repository'.Unique := by
  intro first second run run' found found' same
  cases changed with
  | same _ rows =>
    rw [rows] at found found'
    exact unique first second run run' found found' same
  | @row runId old new _ there written others related =>
    have before (id : RunId) (row : DemoRun) (found : repository'.get id = some row) :
        ∃ row', repository.get id = some row' ∧ row'.requestId = row.requestId := by
      by_cases here : id = runId
      · subst here
        cases written.symm.trans found
        exact ⟨old, there, congrArg (·.requestId) (kept old new related).symm⟩
      · exact ⟨row, (others id here).symm.trans found, rfl⟩
    obtain ⟨row, there, own⟩ := before first run found
    obtain ⟨row', there', own'⟩ := before second run' found'
    exact unique first second row row' there there' (own.trans (same.trans own'.symm))
  | created _ unused _ value =>
    subst value
    rcases get_append_some found with old | ⟨here, rfl⟩
    · rcases get_append_some found' with old' | ⟨-, rfl⟩
      · exact unique first second run run' old old' same
      · exact absurd same (unused run (get_mem old))
    · rcases get_append_some found' with old' | ⟨here', -⟩
      · exact absurd same.symm (unused run' (get_mem old'))
      · exact here.symm.trans here'

variable {run run' : DemoRun} {chain : DemoChain} {d : DemoDependencies} {db : DemoDatabase}
  {event : DemoOutside}

theorem DemoRunState.Next.toRefunded {state : DemoRunState}
    (next : DemoRunState.Next .archivedRefundPending state) : state = .archivedRefunded := by
  cases next
  rfl

/-- Processing takes an archived run nowhere else. -/
theorem DemoRun.Archived.proceeds (archived : run.Archived) (proceeds : run.Proceeds chain run') :
    run'.Archived := by
  have pending : run.state = .archivedRefundPending := by
    have live := proceeds.live
    rcases archived with state | state | ⟨state, -⟩
    · exact state
    · simp [state, DemoRunState.processable] at live
    · simp [state, DemoRunState.processable] at live
  rcases proceeds.state with ⟨same | next, -⟩ | ⟨failed, recovers⟩
  · exact .inl (same.trans pending)
  · rw [pending] at next
    exact .inr (.inl next.toRefunded)
  · exact .inr (.inr ⟨failed, recovers.trans (congrArg some pending)⟩)

/-- The presenter's actions take an archived run nowhere else. -/
theorem DemoRun.Archived.acted (archived : run.Archived) (acted : run.Acted d db event run') :
    run'.Archived := by
  have failed_ (state : run.state = .failed) : run.recoveryState = some .archivedRefundPending := by
    rcases archived with other | other | ⟨-, recovers⟩
    · simp [state] at other
    · simp [state] at other
    · exact recovers
  cases acted.acts with
  | purchased waits => rcases archived with other | other | ⟨other, -⟩ <;> simp [waits] at other
  | cleared failed state =>
    exact .inr (.inr ⟨state, acted.recoveryState.trans (failed_ failed)⟩)
  | retried failed state =>
    refine .inl (state.trans ?_)
    simp [recovery, failed_ failed]
  | archived _ _ state => exact state.imp_right fun state => .inl state.1

end Rows

section Steps

variable {s s' : DemoStore} {runId : RunId} {d : DemoDependencies} {config : TreasuryConfig}
  {balance : Nat} {event : DemoOutside}

/-- What holds of the runs that `archive` has changed. -/
structure DemoStore.Archives (s : DemoStore) : Prop where
  unique : s.repository.Unique
  closed : ∀ runId ∈ s.archived, ∃ run, s.repository.get runId = some run ∧ run.Archived ∧
    s.Unpaid run.requestId ∧ Unordered s.purchases.db run.requestId

/-- Only a run whose review is being purchased has a payment request. -/
theorem Moves.archives (moves : Moves runId s s') (archives : s.Archives) : s'.Archives where
  unique := moves.changed.unique (fun _ _ proceeds => proceeds.input) archives.unique
  closed other member := by
    rw [moves.archived] at member
    obtain ⟨run, found, archived, unpaid, unordered⟩ := archives.closed other member
    obtain ⟨run', found', archived', same⟩ := moves.changed.keeps
      (P := fun row => row.Archived ∧ row.requestId = run.requestId)
      (fun _ _ proceeds holds => ⟨holds.1.proceeds proceeds,
        (congrArg (·.requestId) proceeds.input).trans holds.2⟩) ⟨run, found, archived, rfl⟩
    refine ⟨run', found', archived', ?_, ?_⟩
    · rw [same]
      refine ⟨?_, by rw [moves.purchases]; exact unpaid.reservations⟩
      rcases moves.paying with still | ⟨row, there, purchasing, more⟩
      · rw [still]
        exact unpaid.paying
      · rw [more]
        intro member
        rcases List.mem_cons.mp member with own | old
        · obtain rfl := archives.unique other runId run row found there own
          cases found.symm.trans there
          rcases archived with state | state | ⟨state, -⟩ <;> simp [purchasing] at state
        · exact unpaid.paying old
    · rw [same, moves.purchases]
      exact unordered

/-- `archive` has changed the run, and no order was found for it. -/
theorem archives_ok (changed : archives d s runId = true) :
    ∃ run run', s.repository.get runId = some run ∧ s.Archivable run ∧
      (outside d config balance s (.archive runId)).repository.get runId = some run' ∧
      run'.Archived ∧ run'.requestId = run.requestId := by
  unfold archives at changed
  split at changed
  next _ pair done =>
    obtain ⟨updated, db'⟩ := pair
    simp only [Option.any_eq_true, Bool.or_eq_true, decide_eq_true_eq] at changed
    obtain ⟨run, found, open_⟩ := changed
    have here := DemoRepository.get_id found
    subst here
    rcases archive_ok found done with ⟨-, other⟩ | ⟨repository', run', rfl, -, written, -, acted⟩
    · exact absurd open_ (not_or.mpr other)
    · obtain ⟨input, -, -, acts⟩ := acted
      cases acts with
      | archived open_ unpaid state =>
        refine ⟨run, run', found, ⟨open_, unpaid⟩, ?_, state.imp_right fun state => .inl state.1,
          congrArg (·.requestId) input⟩
        simp only [outside, done, DemoStore.acted]
        exact written
  next => cases changed

/-- A run without an order has none for its request. -/
theorem attachedOrder_none {db : DemoDatabase} {run : DemoRun}
    (unpaid : db.attachedOrder run = none) : Unordered db.reviews run.requestId := by
  unfold DemoDatabase.attachedOrder at unpaid
  split at unpaid
  · cases unpaid
  · intro o member same
    exact absurd (List.find?_eq_none.mp unpaid o member) (by simp [same])

theorem outside_archived (member : runId ∈ (outside d config balance s event).archived) :
    runId ∈ s.archived ∨ event = .archive runId ∧ archives d s runId = true := by
  have acted (result : Except DemoError (DemoRun × DemoDatabase)) :
      (s.acted result).archived = s.archived := by
    unfold DemoStore.acted
    split <;> rfl
  cases event with
  | createRun input now timestamp =>
    simp only [outside] at member
    split at member <;> exact .inl member
  | purchase other => exact .inl (acted _ ▸ member)
  | retry other nextKey => exact .inl (acted _ ▸ member)
  | interruptedRetry other => exact .inl (acted _ ▸ member)
  | archive other =>
    simp only [outside] at member
    split at member
    next changed =>
      rcases List.mem_cons.mp member with rfl | old
      · exact .inr ⟨rfl, changed⟩
      · exact .inl old
    next => exact .inl member
  | review => exact .inl member
  | finish => exact .inl member
  | fund => exact .inl member
  | status => exact .inl member

theorem outside_archives (permitted : (demoHost d config balance).permits s event)
    (archives_ : s.Archives)
    (closed : ∀ runId, event = .archive runId → ∀ run, s.repository.get runId = some run →
      s.Archivable run → s.Unpaid run.requestId) : (outside d config balance s event).Archives where
  unique := (outside_changed permitted).unique (fun _ _ acted => acted.input) archives_.unique
  closed runId member := by
    have stays (run : DemoRun) (found : s.repository.get runId = some run)
        (unpaid : s.Unpaid run.requestId) (unordered : Unordered s.purchases.db run.requestId) :=
      outside_closed permitted ⟨run, DemoRepository.get_mem found, rfl⟩ unpaid unordered
    have earlier (old : runId ∈ s.archived) : ∃ run,
        (outside d config balance s event).repository.get runId = some run ∧ run.Archived ∧
        (outside d config balance s event).Unpaid run.requestId ∧
        Unordered (outside d config balance s event).purchases.db run.requestId := by
      obtain ⟨run, found, archived, unpaid, unordered⟩ := archives_.closed runId old
      obtain ⟨run', found', archived', same⟩ := (outside_changed permitted).keeps
        (P := fun row => row.Archived ∧ row.requestId = run.requestId)
        (fun _ _ acted holds => ⟨holds.1.acted acted,
          (congrArg (·.requestId) acted.input).trans holds.2⟩) ⟨run, found, archived, rfl⟩
      obtain ⟨unpaid', unordered'⟩ := stays run found unpaid unordered
      exact ⟨run', found', archived', same ▸ unpaid', same ▸ unordered'⟩
    rcases outside_archived member with old | ⟨rfl, changed⟩
    · exact earlier old
    · obtain ⟨run, run', found, archivable, found', archived', same⟩ := archives_ok changed
      obtain ⟨unpaid', unordered'⟩ := stays run found (closed runId rfl run found archivable)
        (attachedOrder_none archivable.2)
      exact ⟨run', found', archived', same ▸ unpaid', same ▸ unordered'⟩

end Steps

section Runs

variable {d : DemoDependencies} {config : TreasuryConfig} {balance : Nat}
  {history : List (DemoState × DemoEvent)} {v : DemoState}

/-- Every run that `archive` would change was archived while no payment for it was open. -/
def ArchivesUnpaid (history : List (DemoState × DemoEvent)) : Prop :=
  ∀ v runId, (v, .outside (.archive runId)) ∈ history → ∀ run,
    v.store.repository.get runId = some run → v.store.Archivable run → v.store.Unpaid run.requestId

theorem archives_step (run : DemoServiceRun d config balance history v) {t : DemoEvent}
    (admitted : (demo d config balance).admits v t) (archives_ : v.store.Archives)
    (unpaid : ∀ runId, t = .outside (.archive runId) → ∀ run,
      v.store.repository.get runId = some run → v.store.Archivable run →
        v.store.Unpaid run.requestId) :
    ((demo d config balance).next v t).store.Archives := by
  rcases service_step run admitted with same | ⟨runId, -, -, moves⟩ | ⟨event, rfl, permitted⟩
  · rwa [same]
  · exact moves.archives archives_
  · exact outside_archives permitted archives_ fun runId same => unpaid runId (same ▸ rfl)

/-- No order is ever made for the request of a run that `archive` has changed, if no payment for
the run was open then. -/
theorem archived_unpaid (run : DemoServiceRun d config balance history v)
    (unpaid : ArchivesUnpaid history) {runId : RunId} (archived : runId ∈ v.store.archived)
    {row : DemoRun} (found : v.store.repository.get runId = some row) :
    ∀ o ∈ v.store.purchases.db.orders, o.requestId ≠ row.requestId := by
  have all : ArchivesUnpaid history → v.store.Archives := by
    refine run.historyInvariant (fun history v => ArchivesUnpaid history → v.store.Archives)
      (fun _ => ⟨fun _ _ _ _ none_ => ?_, fun _ none_ => ?_⟩) ?_
    · cases none_
    · cases none_
    · intro history v t run ih admitted unpaid
      refine archives_step run admitted
        (ih fun u runId member => unpaid u runId (List.mem_cons_of_mem _ member)) ?_
      exact fun runId same => unpaid v runId (same ▸ List.mem_cons_self)
  obtain ⟨row', found', -, -, unordered⟩ := (all unpaid).closed runId archived
  cases found.symm.trans found'
  exact unordered

end Runs

namespace DemoWalkthrough

/-- The escrow is funded and the deliverable submitted, which is escalated to a human. -/
def escalating (runId : RunId) (jobId : Nat) : List DemoEvent :=
  preparing runId jobId ++
    looking runId openJob ++ [advance runId, answer runId .done, advance runId,
      .outside (.fund 0 .pending 200), answer runId (.sent 200), advance runId, advance runId,
      .outside (.fund 0 .success 0)] ++
    completing runId (.job ⟨1000000, 90000, 1⟩) ++
    looking runId (.job ⟨1000000, 90000, 1⟩) ++ [advance runId, answer runId (.number 1),
      advance runId, answer runId .done, advance runId, answer runId (.sent 35), advance runId,
      advance runId, .outside (.status jobId 2)] ++
    completing runId (.job ⟨1000000, 90000, 2⟩) ++
    looking runId (.number 3) ++ [advance runId, answer runId (.found none), advance runId,
      advance runId]

def job : ValidatedReviewJob :=
  { jobId := 7, client := 3, provider := 4, expiredAt := 90000, deliverableHash := 2
    escalationReasonHash := 5, escalationReasonCode := some "human_only"
    escalationCause := some "the lane is for humans only" }

def gatewayPayment : GatewayPayment :=
  { signatureHash := 51, authorizationKey := 52, paymentPayload := .null
    paymentRequirements := .null, payer := 3, nonce := "0x51" }

def purchasing : Purchasing :=
  { requestId := requestId 0, jobId := 7
    intent := some { requestId := some (requestId 0), jobId := some 7, content := some "content"
                     validatedJob := some job }
    gatewayPayment := some gatewayPayment, quote := ⟨100000, 50000, "eip155:5042002"⟩
    sweptAt := 6000, timestamp := 6000, checkedAt := 6000, leasedAt := 6000, randomUUID := 9 }

def orderKeys : OrderKeys :=
  { id := 10
    keys := fun
      | .payout => 11
      | .resolution => 12
      | .refund => 13
    timestamp := 8000 }

def review (event : PurchaseEvent) : DemoEvent := .outside (.review event)

/-- The review is purchased; the attempt to settle the payment is journaled, and the reply is
lost. -/
def payingLost (runId : RunId) : List DemoEvent :=
  [.outside (.purchase runId), .start runId, advance runId, advance runId, advance runId,
    review (.acquire purchasing), review (.mark 9 .null .null 6000),
    .reply runId (.error lost), advance runId, advance runId,
    .outside (.finish (requestId runId))]

/-- The gateway finds the payment settled, and makes the order for it. -/
def recovering : List DemoEvent :=
  [review (.record 9 { payer := 3, amount := 100000, network := "eip155:5042002"
                       transaction := some "transfer" }),
    review (.promote 9 orderKeys)]

/-- No payment is open when a run is archived. -/
def unpaid (v : DemoState) : DemoEvent → Bool
  | .outside (.archive _) => v.store.paying.isEmpty &&
      v.store.purchases.db.reservations.all (!·.mayBePaid)
  | _ => true

end DemoWalkthrough

open DemoWalkthrough in
/-- A run is archived after a payment whose reply was lost, and the order for it is made. -/
theorem archived_and_paid :
    let events := escalating 0 7 ++ payingLost 0 ++ .outside (.archive 0) :: recovering
    let v := (demo dependencies config balance).replay start events
    DemoServiceRun dependencies config balance
        ((demo dependencies config balance).record start [] events) v ∧
      v.store.archived = [0] ∧
      v.store.repository.runs.map (fun run => (run.id, run.requestId, run.state)) =
        [(0, requestId 0, .archivedRefundPending)] ∧
      v.store.purchases.db.orders.map (fun o => (o.requestId, o.purchase.gatewayTransaction)) =
        [(requestId 0, some "transfer")] :=
  ⟨script_run (by decide +kernel), by decide +kernel, by decide +kernel, by decide +kernel⟩

open DemoWalkthrough in
/-- A run is archived before its review is purchased. -/
theorem archived_unpaid_walkthrough :
    let v := (demo dependencies config balance).replay start
      (escalating 0 7 ++ [.outside (.archive 0)])
    ∀ row, v.store.repository.get 0 = some row →
      ∀ o ∈ v.store.purchases.db.orders, o.requestId ≠ row.requestId := by
  have sound {history : List (DemoState × DemoEvent)} {v : DemoState}
      (run : DemoServiceRun dependencies config balance history v) (unpaid : ArchivesUnpaid history)
      (archived : v.store.archived = [0]) : ∀ row, v.store.repository.get 0 = some row →
        ∀ o ∈ v.store.purchases.db.orders, o.requestId ≠ row.requestId :=
    fun _ found => archived_unpaid run unpaid (archived ▸ List.mem_cons_self) found
  refine sound (script_run (by decide +kernel)) ?_ (by decide +kernel)
  intro u runId member run _ _
  have checked : unpaid u (.outside (.archive runId)) = true :=
    recorded_of_checks (by decide +kernel) (fun _ none_ => by cases none_) _ member
  simp only [unpaid, Bool.and_eq_true, List.isEmpty_iff, List.all_eq_true] at checked
  refine ⟨by simp [checked.1], fun r listed _ => ?_⟩
  simpa using checked.2 r listed

end VapiArc.Demo
