import VapiArc.App.LogStore
import VapiArc.Lib.Number

/-!
# The app's view of disputes

`readDisputes` folds the stored logs into one row for each dispute. The panel's storage
is never read, and still the rows show its cases.
-/
namespace VapiArc.App

open Escrow

structure DisputeSnapshot where
  escrow : Address
  raisedBy : Address
  commitDeadline : ℚ
  revealDeadline : ℚ
  committed : Nat
  revealed : Nat
  releaseVotes : Nat
  refundVotes : Nat
  splitVotes : Nat
  executed : Bool
  outcome : Option Nat := none
  blockNumber : String

/-- `Number(value)` is the nearest double. -/
def numberOf (value : Uint64) : ℚ := Json.roundNonneg (value.val : ℚ)

/-- The dispute that is shown in place of a chain. -/
def mockDispute (now : Nat) : DisputeSnapshot where
  escrow := 0x1000000000000000000000000000000000000003
  raisedBy := 0x2000000000000000000000000000000000000003
  commitDeadline := now + 10800
  revealDeadline := now + 32400
  committed := 2
  revealed := 0
  releaseVotes := 0
  refundVotes := 0
  splitVotes := 0
  executed := false
  blockNumber := "1240048"

/-- The row of one opening. -/
def disputeSnapshot (store : LogStore) (log : Log DisputeOpened) : DisputeSnapshot :=
  let escrow := log.args.escrow
  let caseCommits := store.committed.filter fun item => item.args.escrow = escrow
  let caseReveals := store.revealed.filter fun item => item.args.escrow = escrow
  let execution := store.executed.reverse.find? fun item => item.args.escrow = escrow
  { escrow
    raisedBy := log.args.raisedBy
    commitDeadline := numberOf log.args.commitDeadline
    revealDeadline := numberOf log.args.revealDeadline
    committed := (caseCommits.map fun item => item.args.arbiter).dedup.length
    revealed := caseReveals.length
    releaseVotes := (caseReveals.filter fun item => item.args.vote = 1).length
    refundVotes := (caseReveals.filter fun item => item.args.vote = 2).length
    splitVotes := (caseReveals.filter fun item => item.args.vote = 3).length
    executed := execution.isSome
    outcome := execution.map fun item => item.args.outcome.val
    blockNumber := toString (log.blockNumber.getD 0) }

/-- `synced` is what the client and `syncLogStore` come back with: the store and perhaps a
text that is an error, or an exception and its message. -/
def readDisputes (config : ChainRuntimeConfig) (now : Nat)
    (synced : Except (Option String) (LogStore × Option String)) :
    List DisputeSnapshot × Option String :=
  if config.mock then ([mockDispute now], none)
  else if config.contracts.disputePanel = none then ([], none)
  else
    match synced with
    | .ok (store, error) =>
      if error.any (· ≠ "") && store.opened.isEmpty then ([], error)
      else ((store.opened.map (disputeSnapshot store)).reverse, error)
    | .error thrown => ([], some (thrown.getD "Arc RPC read failed"))

/-- The row shows the votes and the end of a case of the panel. -/
structure DisputeSnapshot.Shows (row : DisputeSnapshot) (dispute : CaseData) : Prop where
  releaseVotes : row.releaseVotes = dispute.releaseVotes.val
  refundVotes : row.refundVotes = dispute.refundVotes.val
  splitVotes : row.splitVotes = dispute.splitVotes.val
  revealed : row.revealed = dispute.revealCount.val
  executed : row.executed = dispute.executed
  outcome : row.outcome =
    if dispute.executed then some (DisputePanel.outcome dispute).val else none

section View

variable {config : ChainRuntimeConfig} {store : LogStore} {now : Nat} {error : Option String}

/-- An error is shown beside the rows, and hides none. -/
theorem readDisputes_rows (live : config.mock = false)
    (configured : config.contracts.disputePanel ≠ none) :
    (readDisputes config now (.ok (store, error))).1 =
      (store.opened.map (disputeSnapshot store)).reverse := by
  simp only [readDisputes, live, configured, Bool.false_eq_true, if_false]
  split
  next failed =>
    have empty := List.isEmpty_iff.mp (Bool.and_eq_true_iff.mp failed).2
    rw [empty]
    rfl
  next => rfl

/-- A number of logs is a number of events. -/
theorem length_filter_args {α : Type} {logs : List (Log α)} {events : List α}
    (held : (logs.map Log.args).Perm events) (p : α → Bool) :
    (logs.filter fun item => p item.args).length = (events.filter p).length := by
  have same := (held.filter p).length_eq
  rw [List.filter_map, List.length_map] at same
  exact same

/-- The row counts the votes on its case. -/
theorem disputeSnapshot_votes {d : Deployment} {history : History}
    (held : (store.revealed.map Log.args).Perm (history.events d Event.revealed?))
    (log : Log DisputeOpened) (vote : Uint8) :
    ((store.revealed.filter fun item => item.args.escrow = log.args.escrow).filter fun item =>
      item.args.vote = vote).length =
      ((votes d log.args.escrow history).map Vote.choice).count vote := by
  rw [List.filter_filter]
  have same := length_filter_args held fun args =>
    decide (args.vote = vote) && decide (args.escrow = log.args.escrow)
  rw [← revealed_votes, List.count_eq_length_filter, List.filter_map, List.length_map,
    List.filter_filter]
  exact same

variable {d : Deployment} {start u : World} {history : History}

/-- One row, from what the store holds of the events. -/
theorem disputeSnapshot_shows (run : Run d start history u)
    (revealed : (store.revealed.map Log.args).Perm (history.events d Event.revealed?))
    (executed : (store.executed.map Log.args).Perm (history.events d Event.executed?))
    (log : Log DisputeOpened) :
    (disputeSnapshot store log).Shows (u.panel.cases log.args.escrow) := by
  have tallied := run.tallied log.args.escrow
  obtain ⟨roll, outcomes⟩ := run.executions
  have counts := disputeSnapshot_votes revealed log
  -- the executions in the store are those of the run
  have listed (item : Log DisputeExecuted) (member : item ∈ store.executed) :
      item.args ∈ History.events d Event.executed? history :=
    executed.mem_iff.mp (List.mem_map_of_mem member)
  have flag : (store.executed.reverse.find? fun item =>
      item.args.escrow = log.args.escrow).isSome = (u.panel.cases log.args.escrow).executed := by
    rw [Bool.eq_iff_iff, List.find?_isSome, ← roll.mem]
    constructor
    · rintro ⟨item, member, own⟩
      rw [← of_decide_eq_true own]
      exact List.mem_map_of_mem (listed item (List.mem_reverse.mp member))
    · intro member
      obtain ⟨args, inside, own⟩ := List.mem_map.mp member
      obtain ⟨item, there, rfl⟩ := List.mem_map.mp (executed.mem_iff.mpr inside)
      exact ⟨item, List.mem_reverse.mpr there, decide_eq_true own⟩
  refine ⟨?_, ?_, ?_, ?_, flag, ?_⟩
  · exact (counts 1).trans tallied.releaseVotes.symm
  · exact (counts 2).trans tallied.refundVotes.symm
  · exact (counts 3).trans tallied.splitVotes.symm
  · have same := length_filter_args revealed fun args => decide (args.escrow = log.args.escrow)
    have length := congrArg List.length (revealed_votes (d := d) history log.args.escrow)
    rw [List.length_map, List.length_map] at length
    rw [tallied.revealCount, ← length]
    exact same
  · simp only [disputeSnapshot]
    cases found : store.executed.reverse.find? fun item =>
        item.args.escrow = log.args.escrow with
    | none =>
      rw [found] at flag
      simp [← flag]
    | some item =>
      rw [found] at flag
      have matches_ := List.find?_some found
      have own : item.args.escrow = log.args.escrow := of_decide_eq_true matches_
      have member := listed item (List.mem_reverse.mp (List.mem_of_find?_eq_some found))
      rw [← flag, Option.map_some, outcomes item.args member, own]
      rfl

variable (config) (now) (store) (error) in
/-- When the store holds all logs up to the end of a block, there is one row for each case
that is open at that block, and it shows the votes and the end of that case. The chain may
have gone on since. -/
theorem readDisputes_refines {later : History} {number : Nat → Nat} {b : Nat}
    {chain : List (Log Event)} (run : Run d start history u)
    (block : EndOfBlock number b history later)
    (recorded : chain.filter (Indexed d) = logs d number (later ++ history))
    (live : config.mock = false) (configured : config.contracts.disputePanel = some d.panel)
    (holds : store.Holds config (chain.filter (UpTo b))) :
    let disputes := (readDisputes config now (.ok (store, error))).1
    (disputes.map DisputeSnapshot.escrow).Nodup ∧
    (∀ e, e ∈ disputes.map DisputeSnapshot.escrow ↔ (u.panel.cases e).commitDeadline ≠ 0) ∧
    ∀ row ∈ disputes, row.Shows (u.panel.cases row.escrow) := by
  have opened := (holds.opened.map Log.args).trans
    (held_events (fun _ selected => .inl selected) recorded block configured)
  have revealed := (holds.revealed.map Log.args).trans
    (held_events (fun _ selected => .inr (.inl selected)) recorded block configured)
  have executed := (holds.executed.map Log.args).trans
    (held_events (fun _ selected => .inr (.inr selected)) recorded block configured)
  have roll := run.openings
  have rows : (readDisputes config now (.ok (store, error))).1 =
      (store.opened.map (disputeSnapshot store)).reverse :=
    readDisputes_rows live (by rw [configured]; simp)
  have escrows : (((store.opened.map (disputeSnapshot store)).reverse).map
      DisputeSnapshot.escrow).Perm
      ((History.events d Event.opened? history).map DisputeOpened.escrow) := by
    rw [List.map_reverse, List.map_map]
    refine (List.reverse_perm _).trans ?_
    have same := opened.map DisputeOpened.escrow
    rw [List.map_map] at same
    exact same
  simp only [rows]
  refine ⟨escrows.nodup_iff.mpr roll.nodup, fun e => ?_, fun row member => ?_⟩
  · rw [escrows.mem_iff, roll.mem]
    simp
  · obtain ⟨log, -, rfl⟩ := List.mem_map.mp (List.mem_reverse.mp member)
    exact disputeSnapshot_shows run revealed executed log

section Walkthrough

open Walkthrough

theorem timeout_ne_zero : (600 : Uint64) ≠ 0 := by decide

abbrev installation : Deployment := deployment 600 timeout_ne_zero

def walkthroughConfig : ChainRuntimeConfig where
  contracts := ⟨some 5, some 4, some 7⟩
  mock := false

/-- The logs of the dispute of the walkthrough, with a block for each transaction. -/
def walkthroughLogs : List (Log Event) :=
  logs installation id (Walkthrough.history 600 timeout_ne_zero disputePath)

theorem walkthroughLogs_indexed : walkthroughLogs.filter (Indexed installation) = walkthroughLogs := by
  decide +kernel

/-- The row of the dispute that the panel has decided. -/
theorem readDisputes_refines_walkthrough :
    ∃ row ∈ (readDisputes walkthroughConfig 0 (.ok (ingest walkthroughConfig {}
      (walkthroughLogs.filter (UpTo 100)), none))).1,
      row.escrow = escrow 0 ∧ row.releaseVotes = 3 ∧ row.executed = true ∧
        row.outcome = some 0 := by
  have block : EndOfBlock id 100 (Walkthrough.history 600 timeout_ne_zero disputePath) [] := by
    have few : (Walkthrough.history 600 timeout_ne_zero disputePath).length ≤ 100 := by decide +kernel
    intro n below
    rw [List.nil_append] at below
    simp only [id_eq]
    omega
  obtain ⟨-, listed, shows⟩ := readDisputes_refines walkthroughConfig
    (ingest walkthroughConfig {} (walkthroughLogs.filter (UpTo 100))) 0 none
    (Walkthrough.run 600 timeout_ne_zero disputePath (by decide)) block walkthroughLogs_indexed rfl rfl
    ⟨.refl _, .refl _, .refl _, .refl _, .refl _, .refl _⟩
  have known : ((Walkthrough.state 600 timeout_ne_zero disputePath).panel.cases
      (escrow 0)).commitDeadline ≠ 0 := by decide +kernel
  obtain ⟨row, member, own⟩ := List.mem_map.mp ((listed (escrow 0)).mpr known)
  have shown := shows row member
  rw [own] at shown
  have executed : ((Walkthrough.state 600 timeout_ne_zero disputePath).panel.cases
      (escrow 0)).executed = true := by decide +kernel
  refine ⟨row, member, own, ?_, shown.executed.trans executed, ?_⟩
  · rw [shown.releaseVotes]
    decide +kernel
  · rw [shown.outcome, executed]
    decide +kernel

end Walkthrough

end View

end VapiArc.App
