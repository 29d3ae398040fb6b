import VapiArc.Demo.Tracking

/-!
# The escrow of an archived run

A run is archived as refunded when its job is rejected, or when no fund transaction is on record
and the job is seen unfunded. The record misses a transaction whose hash was lost between the
broadcast and the write, and such a transaction may still be on its way.
-/
namespace VapiArc.Demo

open Checked Function Async Transition Review DemoProcessor

def DemoStore.Rejected (s : DemoStore) (run : DemoRun) : Prop :=
  ∃ jobId, run.jobId = some jobId ∧ s.chain.status jobId = 4

/-- What holds of the fund transactions, and of the runs that are archived as refunded. -/
structure DemoStore.Refunds (s : DemoStore) : Prop where
  known : ∀ tx ∈ s.chain.funds, ∃ run, s.repository.get tx.runId = some run ∧ run.jobId ≠ none
  recovers : ∀ runId run, s.repository.get runId = some run →
    run.recoveryState ≠ some .archivedRefunded
  refunded : ∀ runId run, s.repository.get runId = some run → run.state = .archivedRefunded →
    s.Rejected run ∨ s.Unfunded runId

/-- The step archives the run as refunded because no fund transaction is on record for it. -/
def ArchivesUnrecorded (s s' : DemoStore) (runId : RunId) : Prop :=
  ∃ run run', s.repository.get runId = some run ∧ s'.repository.get runId = some run' ∧
    run.state = .archivedRefundPending ∧ run'.state = .archivedRefunded ∧
    run.transactions .fund = none ∧ ¬ s.Rejected run

section Rows

variable {repository repository' : DemoRepository} {R : DemoRun → DemoRun → Prop}

/-- A row is as before, or one that has changed, or a new one. -/
theorem DemoRepository.Changed.origin (changed : repository.Changed R repository')
    {runId : RunId} {run' : DemoRun} (found : repository'.get runId = some run') :
    repository.get runId = some run' ∨
      (∃ run, repository.get runId = some run ∧ R run run') ∨
      run'.state = .queued ∧ run'.recoveryState = none := by
  cases changed with
  | same _ rows => exact .inl ((rows runId).symm.trans found)
  | @row other run row' _ there written others related =>
    by_cases same : runId = other
    · subst same
      cases written.symm.trans found
      exact .inr (.inl ⟨run, there, related⟩)
    · exact .inl ((others runId same).symm.trans found)
  | created _ _ _ value =>
    subst value
    rcases DemoRepository.get_append_some found with old | ⟨-, rfl⟩
    · exact .inl old
    · exact .inr (.inr ⟨rfl, rfl⟩)

end Rows

section Steps

variable {s s' : DemoStore} {runId : RunId} {d : DemoDependencies} {config : TreasuryConfig}
  {balance : Nat} {event : DemoOutside}

theorem Moves.rejected (moves : Moves runId s s') {run : DemoRun} (rejected : s.Rejected run) :
    s'.Rejected run := by
  obtain ⟨jobId, given, status⟩ := rejected
  exact ⟨jobId, given, (congrFun moves.status jobId).trans status⟩

/-- Processing sends a fund transaction only for a run whose escrow is prepared. -/
theorem Moves.oldFunds (moves : Moves runId s s') (other : RunId)
    (idle : ∀ run, s.repository.get other = some run → run.state ≠ .preparingEscrow) :
    OldFunds s s' other := by
  rcases moves.funds with same | ⟨run, jobId, found, preparing, -, more⟩
  · exact .of_eq same
  · apply OldFunds.of_append more
    rintro rfl
    exact idle run found preparing

/-- A run without a job has sent none. -/
theorem DemoStore.Refunds.unknown (refunds : s.Refunds) {run : DemoRun}
    (found : s.repository.get runId = some run) (unknown : run.jobId = none) : s.Unfunded runId := by
  intro tx member own
  obtain ⟨row, there, given⟩ := refunds.known tx member
  rw [own, found] at there
  cases there
  exact absurd unknown given

theorem DemoRunState.Next.fromPending {state : DemoRunState} (next : state.Next .archivedRefunded) :
    state = .archivedRefundPending := by
  cases next
  rfl

theorem DemoRun.Proceeds.pending {chain : DemoChain} {run run' : DemoRun}
    (proceeds : run.Proceeds chain run') (refunded : run'.state = .archivedRefunded) :
    run.state = .archivedRefundPending := by
  rcases proceeds.state with ⟨same | next, -⟩ | ⟨failed, -⟩
  · have live := proceeds.live
    rw [← same, refunded] at live
    cases live
  · rw [refunded] at next
    exact next.fromPending
  · rw [refunded] at failed
    cases failed

theorem DemoRun.Proceeds.recovers {chain : DemoChain} {run run' : DemoRun}
    (proceeds : run.Proceeds chain run') (recovers : run.recoveryState ≠ some .archivedRefunded) :
    run'.recoveryState ≠ some .archivedRefunded := by
  rcases proceeds.state with ⟨-, same⟩ | ⟨-, failed⟩
  · rwa [same]
  · rw [failed]
    intro same
    have live := proceeds.live
    rw [Option.some.inj same] at live
    cases live

theorem Moves.refunds (moves : Moves runId s s') (refunds : s.Refunds)
    (recorded : ∀ other, ArchivesUnrecorded s s' other → s.Unfunded other) : s'.Refunds where
  known tx member := by
    have known : ∃ run, s.repository.get tx.runId = some run ∧ run.jobId ≠ none := by
      rcases moves.funds with same | ⟨run, jobId, found, -, given, more⟩
      · exact refunds.known tx (same ▸ member)
      · rw [more] at member
        rcases List.mem_append.mp member with old | new
        · exact refunds.known tx old
        · obtain rfl := List.mem_singleton.mp new
          exact ⟨run, found, by simp [given]⟩
    refine moves.changed.keeps (fun run run' proceeds given => ?_) known
    obtain ⟨jobId, value⟩ := Option.ne_none_iff_exists'.mp given
    exact proceeds.jobId jobId value
  recovers other run' found := by
    rcases moves.changed.origin found with old | ⟨run, there, proceeds⟩ | ⟨-, fresh⟩
    · exact refunds.recovers other run' old
    · exact proceeds.recovers (refunds.recovers other run there)
    · simp [fresh]
  refunded other run' found archived := by
    rcases moves.changed.origin found with old | ⟨run, there, proceeds⟩ | ⟨fresh, -⟩
    · refine (refunds.refunded other run' old archived).imp moves.rejected
        (moves.oldFunds other fun row same => ?_).unfunded
      cases old.symm.trans same
      simp [archived]
    · have pending := proceeds.pending archived
      have older : OldFunds s s' other := moves.oldFunds other fun row same => by
        cases there.symm.trans same
        simp [pending]
      rcases proceeds.refunded archived with unknown | ⟨jobId, given, given', why⟩
      · exact .inr (older.unfunded (refunds.unknown there unknown))
      · by_cases rejected : s.chain.status jobId = 4
        · exact .inl ⟨jobId, given', (congrFun moves.status jobId).trans rejected⟩
        · refine .inr (older.unfunded (recorded other ⟨run, run', there, found, pending, archived,
            why.resolve_left rejected, fun other => rejected ?_⟩))
          obtain ⟨jobId', same, status⟩ := other
          cases given.symm.trans same
          exact status
    · rw [fresh] at archived
      cases archived

theorem recovery_open {run : DemoRun} {attached : Bool}
    (open_ : run.recoveryState ≠ some .archivedRefunded) :
    recovery attached run ≠ .archivedRefunded := by
  cases value : run.recoveryState with
  | none => cases attached <;> simp [recovery, value]
  | some state =>
    have other : state ≠ .archivedRefunded := by
      rintro rfl
      exact open_ value
    simp only [recovery, value, Option.getD_some]
    split
    · decide
    · exact other

theorem outside_refunds (permitted : (demoHost d config balance).permits s event)
    (refunds : s.Refunds) : (outside d config balance s event).Refunds where
  known tx' member := by
    obtain ⟨tx, old, own, -⟩ := outside_funds permitted tx' member
    rw [own]
    exact (outside_changed permitted).keeps (fun run run' acted given => acted.jobId ▸ given)
      (refunds.known tx old)
  recovers runId run' found := by
    rcases (outside_changed permitted).origin found with old | ⟨run, there, acted⟩ | ⟨-, fresh⟩
    · exact refunds.recovers runId run' old
    · rw [acted.recoveryState]
      exact refunds.recovers runId run there
    · simp [fresh]
  refunded runId run' found archived := by
    have older := outside_oldFunds permitted runId
    rcases (outside_changed permitted).origin found with old | ⟨run, there, acted⟩ | ⟨fresh, -⟩
    · refine (refunds.refunded runId run' old archived).imp ?_ older.unfunded
      rintro ⟨jobId, given, rejected⟩
      exact ⟨jobId, given, outside_rejected permitted rejected⟩
    · cases acted.acts with
      | purchased _ state => simp [state] at archived
      | cleared _ state => simp [state] at archived
      | retried failed state =>
        -- nothing is recovered to the end of an archive
        exact absurd (state.symm.trans archived) (recovery_open (refunds.recovers runId run there))
      | archived _ _ state =>
        rcases state with state | ⟨-, unknown⟩
        · simp [state] at archived
        · exact .inr (older.unfunded (refunds.unknown there unknown))
    · rw [fresh] at archived
      cases archived

/-- The write of a hash leaves the state of the row. -/
theorem recorded_state {hash : Hex} {run run' : DemoRun}
    (found : s.repository.get runId = some run)
    (found' : (recorded runId hash s).repository.get runId = some run') : run'.state = run.state := by
  unfold recorded at found'
  split at found'
  next done =>
    obtain ⟨row, there, -, here, -⟩ := DemoRepository.patch_ok done fun _ => rfl
    cases found.symm.trans there
    cases here.symm.trans found'
    rfl
  next =>
    cases found.symm.trans found'
    rfl

/-- A run that is archived for want of a transaction on record has none that may take effect. -/
theorem Tracking.unrecorded {history : List (DemoState × DemoEvent)} {v : DemoState} {key : RunId}
    {now : Timestamp} (tracking : Tracking history v)
    (moves : Moves key v.store ((demo d config balance).next v (.advance key now)).store)
    (unrecorded : ArchivesUnrecorded v.store
      ((demo d config balance).next v (.advance key now)).store runId) :
    v.store.Unfunded runId := by
  obtain ⟨run, run', found, found', pending, refunded, none_, -⟩ := unrecorded
  have changes : run'.state ≠ run.state := by simp [pending, refunded]
  -- it is the run that is processed
  have here : runId = key := by
    by_contra other
    cases (moves.others runId other).symm.trans found' |>.symm.trans found
    exact changes rfl
  subst here
  rcases tracking.follows runId with ⟨-, tracked⟩ | ⟨-, -, sends⟩
  · intro tx member own
    rcases tracked tx member own with ineffective | ⟨hash, -, known⟩
    · exact ineffective
    · simp [DemoRepository.fund, found, none_] at known
  · cases activity : v.activity runId with
    | idle =>
      rw [activity] at sends
      cases sends
    | waiting message rest =>
      change (v.put runId ((demoHost d config balance).next (v.only runId) (.advance now))).store.repository.get
        runId = some run' at found'
      simp only [Host.next, PoolState.only, activity] at found'
      cases found.symm.trans found'
      exact absurd rfl changes
    | running program =>
      rw [activity] at sends
      cases sends with
      | running bears records =>
        change (v.put runId ((demoHost d config balance).next (v.only runId) (.advance now))).store.repository.get
          runId = some run' at found'
        simp only [Host.next, PoolState.only, activity] at found'
        exact absurd (recorded_state found found') changes

theorem refunds_step {history : List (DemoState × DemoEvent)} {v : DemoState} {t : DemoEvent}
    (run : DemoServiceRun d config balance history v)
    (admitted : (demo d config balance).admits v t) (tracking : Tracking history v)
    (refunds : v.store.Refunds) : ((demo d config balance).next v t).store.Refunds := by
  rcases service_step run admitted with same | ⟨key, now, rfl, moves⟩ | ⟨event, rfl, permitted⟩
  · rwa [same]
  · exact moves.refunds refunds fun runId unrecorded => tracking.unrecorded moves unrecorded
  · exact outside_refunds permitted refunds

end Steps

section Runs

variable {d : DemoDependencies} {config : TreasuryConfig} {balance : Nat}
  {history : List (DemoState × DemoEvent)} {v : DemoState}

/-- A run that is archived as refunded has a rejected job, or none of its transactions has funded
the escrow, as long as no hash of a transaction is lost. -/
theorem archived_refunded_sound (run : DemoServiceRun d config balance history v)
    (noneLost : NoneLost history) {runId : RunId} {row : DemoRun}
    (found : v.store.repository.get runId = some row) (refunded : row.state = .archivedRefunded) :
    (∃ jobId, row.jobId = some jobId ∧ v.store.chain.status jobId = 4) ∨
      ∀ tx ∈ v.store.chain.funds, tx.runId = runId → tx.fate ≠ .success := by
  have refunds : NoneLost history → v.store.Refunds := by
    refine run.historyInvariant (fun history v => NoneLost history → v.store.Refunds) ?_ ?_
    · intro _
      constructor
      · exact fun _ member => absurd member List.not_mem_nil
      · exact fun _ _ none_ => by cases none_
      · exact fun _ _ none_ => by cases none_
    · intro history v t run ih admitted ⟨_, before⟩
      exact refunds_step run admitted (transactions_tracked run before) (ih before)
  apply ((refunds noneLost).refunded runId row found refunded).imp_right
  intro unfunded tx member own
  have ineffective := unfunded tx member own
  simp only [FundTransaction.ineffective, Bool.or_eq_true, decide_eq_true_eq] at ineffective
  rcases ineffective with ended | ended <;> simp [ended]

end Runs

namespace DemoWalkthrough

section Script

variable (runId : RunId)

def answer (reply : DemoReply) : DemoEvent := .reply runId (.ok reply)

/-- A run is read, and something is looked at. -/
def looking (reply : DemoReply) : List DemoEvent :=
  [.start runId, advance runId, advance runId, answer runId reply]

/-- What is looked at is not there yet, and a transaction for it is sent and recorded. -/
def sending (reply : DemoReply) (hash : Hex) : List DemoEvent :=
  looking runId reply ++ [advance runId, answer runId .done, advance runId,
    answer runId (.sent hash), advance runId, advance runId]

/-- What is looked at is there, and the step is completed. -/
def completing (reply : DemoReply) : List DemoEvent :=
  looking runId reply ++ [advance runId, advance runId]

/-- The run begins, and its job is created. -/
def creating (jobId : Nat) : List DemoEvent :=
  create runId :: looking runId (.block 5) ++ [advance runId, advance runId, answer runId (.created none),
      advance runId, answer runId .done, advance runId, answer runId (.sent 31), advance runId,
      advance runId] ++
    completing runId (.created (some (jobId, 31)))

/-- The escrow is prepared, up to its funding. -/
def preparing (jobId : Nat) : List DemoEvent :=
  creating runId jobId ++ sending runId (.number 0) 32 ++ completing runId (.number 1) ++
    sending runId (.job ⟨0, 90000, 0⟩) 33 ++ completing runId (.job ⟨1000000, 90000, 0⟩) ++
    sending runId (.number 0) 34 ++ completing runId (.number 1000000)

end Script

/-- A reply of the node that has been cut off. -/
def lost : DemoError := { name := "SyntaxError", message := "Unexpected end of JSON input" }

/-- The job as it is seen before it is funded. -/
def openJob : DemoReply := .job ⟨1000000, 90000, 0⟩

/-- A fund transaction is sent, something becomes of it, and the reply to the request is an
error. -/
def fundingLost (runId : RunId) (fate : Fate) : List DemoEvent :=
  looking runId openJob ++ [advance runId, answer runId .done, advance runId,
    .outside (.fund 0 fate 200), .reply runId (.error lost), advance runId, advance runId]

/-- The run is archived, and its job is still seen unfunded. -/
def archiving (runId : RunId) : List DemoEvent :=
  .outside (.archive runId) :: completing runId openJob

/-- A step other than a crash or a `retry`; every transaction that may take effect has the hash that
the reply brings. -/
def unlost (v : DemoState) : DemoEvent → Bool
  | .reply _ answer => v.store.chain.funds.all fun tx => tx.ineffective ||
      match answer with
      | .ok (.sent hash) => tx.hash = some hash
      | _ => false
  | .crash | .outside (.retry _ _) | .outside (.interruptedRetry _) => false
  | _ => true

theorem nothingLost_of_unlost {history : List (DemoState × DemoEvent)} {v : DemoState}
    {event : DemoEvent} (given : unlost v event = true) : NothingLost history v event := by
  cases event with
  | start => trivial
  | advance => trivial
  | reply key answer =>
    intro jobId rest _ tx member _
    simp only [unlost, List.all_eq_true, Bool.or_eq_true] at given
    apply (given tx member).imp_right
    intro brought
    split at brought
    next hash => exact ⟨hash, rfl, of_decide_eq_true brought⟩
    next => cases brought
  | crash => cases given
  | outside event =>
    cases event with
    | retry => cases given
    | interruptedRetry => cases given
    | _ => exact fun _ => False.elim

theorem noneLost_of_unlost {history : List (DemoState × DemoEvent)}
    (given : ∀ entry ∈ history, unlost entry.1 entry.2 = true) : NoneLost history := by
  induction history with
  | nil => trivial
  | cons entry earlier ih =>
    exact ⟨nothingLost_of_unlost (given entry List.mem_cons_self),
      ih fun old member => given old (List.mem_cons_of_mem entry member)⟩

end DemoWalkthrough

open DemoWalkthrough in
/-- The reply to a broadcast is lost, the run is archived, and the transaction is mined. -/
theorem archived_and_funded :
    let events := preparing 0 7 ++ fundingLost 0 .pending ++ archiving 0 ++
      [.outside (.fund 0 .success 0)]
    let v := (demo dependencies config balance).replay start events
    DemoServiceRun dependencies config balance
        ((demo dependencies config balance).record start [] events) v ∧
      v.store.repository.runs.map (fun run => (run.id, run.jobId, run.state)) =
        [(0, some 7, .archivedRefunded)] ∧
      v.store.chain.status 7 = 1 ∧ v.store.chain.funds = [⟨0, 7, some 200, .success⟩] :=
  ⟨script_run (by decide +kernel), by decide +kernel, by decide +kernel, by decide +kernel⟩

open DemoWalkthrough in
/-- The transaction did not reach a node before the run is archived. -/
theorem archived_refunded_sound_walkthrough :
    let v := (demo dependencies config balance).replay start
      (preparing 0 7 ++ fundingLost 0 .lost ++ archiving 0)
    ∃ row, v.store.repository.get 0 = some row ∧ row.state = .archivedRefunded ∧
      ((∃ jobId, row.jobId = some jobId ∧ v.store.chain.status jobId = 4) ∨
        ∀ tx ∈ v.store.chain.funds, tx.runId = 0 → tx.fate ≠ .success) := by
  have sound {history : List (DemoState × DemoEvent)} {v : DemoState}
      (run : DemoServiceRun dependencies config balance history v)
      (noneLost : NoneLost history)
      (state : (v.store.repository.get 0).map (·.state) = some .archivedRefunded) :
      ∃ row, v.store.repository.get 0 = some row ∧ row.state = .archivedRefunded ∧
        ((∃ jobId, row.jobId = some jobId ∧ v.store.chain.status jobId = 4) ∨
          ∀ tx ∈ v.store.chain.funds, tx.runId = 0 → tx.fate ≠ .success) := by
    obtain ⟨row, found, refunded⟩ := Option.map_eq_some_iff.mp state
    exact ⟨row, found, refunded, archived_refunded_sound run noneLost found refunded⟩
  refine sound (script_run (by decide +kernel)) ?_ ?_
  · apply noneLost_of_unlost
    exact recorded_of_checks (by decide +kernel) fun _ none_ => by cases none_
  · decide +kernel

end VapiArc.Demo
