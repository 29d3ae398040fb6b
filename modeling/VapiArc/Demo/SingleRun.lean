import VapiArc.Demo.Steps

/-!
# One active run

`createRun` starts a run only while no run is active, and processing never makes a run active.
`retry` does: it moves a failed run back without looking at the others.
-/
namespace VapiArc.Demo

open Checked Function Async Transition Review DemoProcessor

namespace DemoRepository

variable {repository repository' : DemoRepository} {R : DemoRun → DemoRun → Prop}

def Inactive (repository : DemoRepository) : Prop :=
  ∀ run ∈ repository.runs, run.state.active = false

/-- The identifiers are different, and so are the active runs at most one. -/
structure Exclusive (repository : DemoRepository) : Prop where
  distinct : (repository.runs.map (·.id)).Nodup
  single : ∀ first second run run', repository.get first = some run →
    repository.get second = some run' → run.state.active = true → run'.state.active = true →
      first = second

theorem get_of_mem (distinct : (repository.runs.map (·.id)).Nodup) {run : DemoRun}
    (member : run ∈ repository.runs) : repository.get run.id = some run := by
  cases found : repository.get run.id with
  | none => exact absurd (List.find?_eq_none.mp found run member) (by simp)
  | some other => rw [List.inj_on_of_nodup_map distinct (get_mem found) member (get_id found)]

theorem Changed.distinct (changed : repository.Changed R repository')
    (distinct : (repository.runs.map (·.id)).Nodup) : (repository'.runs.map (·.id)).Nodup := by
  cases changed with
  | same ids => rwa [ids]
  | row ids => rwa [ids]
  | @created input createdAt new _ _ value =>
    subst value
    rw [List.map_append, List.nodup_append]
    refine ⟨distinct, by simp, fun id old id' added same => ?_⟩
    obtain ⟨run, member, rfl⟩ := List.mem_map.mp old
    obtain rfl : id' = input.runId := List.mem_singleton.mp added
    have found := get_of_mem distinct member
    rw [same, new] at found
    cases found

/-- A change that makes a run active finds no other one that is. -/
theorem Changed.exclusive (changed : repository.Changed R repository')
    (exclusive : repository.Exclusive)
    (kept : ∀ run run', repository.get run.id = some run → R run run' → run'.state.active = true →
      run.state.active = true ∨ repository.Inactive) : repository'.Exclusive := by
  refine ⟨changed.distinct exclusive.distinct, ?_⟩
  cases changed with
  | same _ rows =>
    intro first second run run' found found' active active'
    rw [rows] at found found'
    exact exclusive.single first second run run' found found' active active'
  | @row runId run run' _ there written others related =>
    -- a row that is active afterwards was active before, or is the only one
    have before (id : RunId) (row : DemoRun) (found : repository'.get id = some row)
        (active : row.state.active = true) : id = runId ∨
          repository.get id = some row ∧ id ≠ runId := by
      by_cases same : id = runId
      · exact .inl same
      · exact .inr ⟨(others id same).symm.trans found, same⟩
    have apart (id : RunId) (row : DemoRun) (found : repository.get id = some row)
        (active : row.state.active = true) (different : id ≠ runId)
        (active' : run'.state.active = true) : False := by
      rcases kept run run' (get_id there ▸ there) related active' with was | inactive
      · exact different (exclusive.single id runId row run found there active was)
      · exact absurd active (by simp [inactive row (get_mem found)])
    intro first second row row' found found' active active'
    rcases before first row found active with rfl | ⟨old, different⟩
    · rcases before second row' found' active' with rfl | ⟨old', different'⟩
      · rfl
      · cases written.symm.trans found
        exact (apart second row' old' active' different' active).elim
    · rcases before second row' found' active' with rfl | ⟨old', -⟩
      · cases written.symm.trans found'
        exact (apart first row old active different active').elim
      · exact exclusive.single first second row row' old old' active active'
  | @created input createdAt _ _ inactive value =>
    subst value
    have added (id : RunId) (row : DemoRun)
        (found : ({ runs := repository.runs ++ [{ input, createdAt }] } : DemoRepository).get id =
          some row) (active : row.state.active = true) : input.runId = id := by
      rcases get_append_some found with old | ⟨same, -⟩
      · exact absurd active (by simp [inactive row (get_mem old)])
      · exact same
    intro first second run run' found found' active active'
    rw [← added first run found active, added second run' found' active']

theorem Exclusive.countP_le (exclusive : repository.Exclusive) :
    repository.runs.countP (·.state.active) ≤ 1 := by
  rw [List.countP_eq_length_filter]
  have distinct : ((repository.runs.filter (·.state.active)).map (·.id)).Nodup :=
    exclusive.distinct.sublist (List.filter_sublist.map _)
  cases active : repository.runs.filter (·.state.active) with
  | nil => simp
  | cons run rest =>
    cases rest with
    | nil => simp
    | cons run' rest =>
      have member (row : DemoRun) (listed : row ∈ run :: run' :: rest) :=
        List.mem_filter.mp (active ▸ listed)
      have same : run.id = run'.id := by
        refine exclusive.single _ _ run run' ?_ ?_ (member run (by simp)).2 (member run' (by simp)).2
        · exact get_of_mem exclusive.distinct (member run (by simp)).1
        · exact get_of_mem exclusive.distinct (member run' (by simp)).1
      rw [active] at distinct
      simp [same] at distinct

end DemoRepository

theorem DemoRunState.Next.active {state state' : DemoRunState} (next : state.Next state')
    (active : state'.active = true) : state.active = true := by
  cases next with
  | archives => cases active
  | _ => rfl

/-- Processing makes no run active. -/
theorem DemoRun.Proceeds.active {chain : DemoChain} {run run' : DemoRun}
    (proceeds : run.Proceeds chain run') (active : run'.state.active = true) :
    run.state.active = true := by
  rcases proceeds.state with ⟨same | next, -⟩ | ⟨failed, -⟩
  · rwa [← same]
  · exact next.active active
  · rw [failed] at active
    cases active

/-- `retry` would move the failed run back into an active state. -/
def Reactivates (d : DemoDependencies) (db : DemoDatabase) (runId : RunId) : Prop :=
  ∃ run, db.repository.get runId = some run ∧ run.state = .failed ∧
    (recovery (db.attachedOrder run).isSome run).active = true ∧
    ∀ order, db.attachedOrder run = some order →
      reviewOrderMatchesRun d run order = true ∧ retryableCircleOperation order = none

/-- Every failed run that was moved back into an active state was so while no run was active. -/
def RetriesAlone (d : DemoDependencies) (history : List (DemoState × DemoEvent)) : Prop :=
  ∀ v runId nextKey, (v, .outside (.retry runId nextKey)) ∈ history →
    Reactivates d v.store.database runId → v.store.repository.Inactive

section Runs

variable {d : DemoDependencies} {config : TreasuryConfig} {balance : Nat}
  {history : List (DemoState × DemoEvent)} {v : DemoState}

/-- An action makes a run active only if it is a `retry`. -/
theorem DemoRun.Acted.active {db : DemoDatabase} {event : DemoOutside} {run run' : DemoRun}
    (acted : run.Acted d db event run') (found : db.repository.get run.id = some run)
    (active : run'.state.active = true) : run.state.active = true ∨
      ∃ runId nextKey, event = .retry runId nextKey ∧ Reactivates d db runId := by
  cases acted.acts with
  | purchased waits => exact .inl (by rw [waits]; rfl)
  | cleared _ state =>
    rw [state] at active
    cases active
  | retried failed state own =>
    exact .inr ⟨run.id, _, rfl, run, found, failed, state ▸ active, own⟩
  | archived _ _ state =>
    rcases state with state | ⟨state, -⟩
    · rw [state] at active
      cases active
    · rw [state] at active
      cases active

theorem exclusive_step (run : DemoServiceRun d config balance history v) {t : DemoEvent}
    (admitted : (demo d config balance).admits v t)
    (alone : ∀ runId nextKey, t = .outside (.retry runId nextKey) →
      Reactivates d v.store.database runId → v.store.repository.Inactive)
    (exclusive : v.store.repository.Exclusive) :
    ((demo d config balance).next v t).store.repository.Exclusive := by
  rcases service_step run admitted with same | ⟨runId, -, -, moves⟩ | ⟨event, rfl, permitted⟩
  · rwa [same]
  · exact moves.changed.exclusive exclusive fun _ _ _ proceeds active => .inl (proceeds.active active)
  · refine (outside_changed permitted).exclusive exclusive fun row row' found acted active => ?_
    rcases acted.active found active with was | ⟨runId, nextKey, rfl, reactivates⟩
    · exact .inl was
    · exact .inr (alone runId nextKey rfl reactivates)

/-- One run is active at most if every failed run is moved back while no run is active. -/
theorem single_active_run (run : DemoServiceRun d config balance history v)
    (alone : RetriesAlone d history) : v.store.repository.runs.countP (·.state.active) ≤ 1 := by
  have exclusive : RetriesAlone d history → v.store.repository.Exclusive := by
    refine run.historyInvariant (fun history v => RetriesAlone d history →
      v.store.repository.Exclusive) (fun _ => ⟨.nil, ?_⟩) ?_
    · intro first second run run' found
      cases found
    · intro history v t run ih admitted alone
      refine exclusive_step run admitted (fun runId nextKey same reactivates => ?_)
        (ih fun u runId nextKey member => alone u runId nextKey (List.mem_cons_of_mem _ member))
      exact alone v runId nextKey (same ▸ List.mem_cons_self) reactivates
  exact (exclusive alone).countP_le

end Runs

namespace DemoWalkthrough

section Script

variable (runId : RunId)

def create : DemoEvent := .outside (.createRun (input runId) 1000 1000)

def advance : DemoEvent := .advance runId 5000

end Script

/-- An error that ends the attempt, such as a node's refusal. -/
def refusal : DemoError := { message := "block is not available" }

/-- The run fails before its preparation has begun. -/
def failing (runId : RunId) : List DemoEvent :=
  [create runId, .start runId, advance runId, advance runId, .reply runId (.error refusal),
    advance runId, advance runId]

def retry (runId : RunId) : DemoEvent := .outside (.retry runId 77)

/-- No run is active when one is retried. -/
def alone (v : DemoState) : DemoEvent → Bool
  | .outside (.retry _ _) => v.store.repository.runs.all (!·.state.active)
  | _ => true

end DemoWalkthrough

open DemoWalkthrough in
/-- A run fails, another one is started, and the failed one is retried. -/
theorem two_active_runs :
    let events := failing 0 ++ [create 1, retry 0]
    let v := (demo dependencies config balance).replay start events
    DemoServiceRun dependencies config balance
        ((demo dependencies config balance).record start [] events) v ∧
      ¬ v.store.repository.runs.countP (·.state.active) ≤ 1 :=
  ⟨script_run (by decide +kernel), by decide +kernel⟩

open DemoWalkthrough in
/-- The failed run is retried before another one is started, which is refused. -/
theorem single_active_run_walkthrough :
    let v := (demo dependencies config balance).replay start (failing 0 ++ [retry 0, create 1])
    v.store.repository.runs.countP (·.state.active) ≤ 1 := by
  refine single_active_run (script_run (by decide +kernel)) fun v runId nextKey member _ row there => ?_
  have checked : alone v (.outside (.retry runId nextKey)) = true :=
    recorded_of_checks (by decide +kernel) (fun _ none_ => by cases none_) _ member
  simp only [alone, List.all_eq_true] at checked
  simpa using checked row there

end VapiArc.Demo
