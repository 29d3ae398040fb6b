import VapiArc.App.DisputeView
import VapiArc.App.LogSync
import VapiArc.Escrow.OrderEvents

/-!
# The store that follows the chain

A store that sweeps have filled holds what the contracts announced up to the block of its
cursor. Sweeps only ever add to its lists, whoever reads them meanwhile.
-/
namespace VapiArc.App

open Escrow Transition

section Sources

variable {d : Deployment}

theorem Source.created : Source d Event.created? d.factory := by
  constructor
  · exact .inl rfl
  · rfl
  · rintro ⟨w, msg, call⟩ pair given selected
    unfold emitted at given
    split at given
    next =>
      cases call with
      | createEscrow => cases given; rfl
      | attest e =>
        obtain ⟨c, -, rfl⟩ := Option.map_eq_some_iff.mp given
        exact absurd rfl selected
      | _ => cases given <;> exact absurd rfl selected
    next => cases given

theorem Source.attested : Source d Event.attested? d.reputation := by
  constructor
  · exact .inr (.inr rfl)
  · rfl
  · rintro ⟨w, msg, call⟩ pair given selected
    unfold emitted at given
    split at given
    next =>
      cases call with
      | attest e =>
        obtain ⟨c, -, rfl⟩ := Option.map_eq_some_iff.mp given
        rfl
      | _ => cases given <;> exact absurd rfl selected
    next => cases given

theorem decodeCreated_eq : decodeCreated = parseEventLogs Event.created? := rfl

theorem decodeAttested_eq : decodeAttested = parseEventLogs Event.attested? := rfl

end Sources

/-! ### Lists that grow -/

section Growth

variable {config : ChainRuntimeConfig} {deployBlock : Nat} {s s' : SyncState}

/-- The lists of a store after some more logs. -/
def LogStore.Grows (config : ChainRuntimeConfig) (store store' : LogStore) : Prop :=
  ∃ logs, store' = ingest config store logs

theorem LogStore.Grows.refl (store : LogStore) : store.Grows config store := by
  refine ⟨[], ?_⟩
  simp [ingest, decodeCreated, decodeOpened, decodeCommitted, decodeRevealed, decodeExecuted,
    decodeAttested, parseEventLogs]

theorem LogStore.Grows.trans {a b c : LogStore} (first : a.Grows config b)
    (second : b.Grows config c) : a.Grows config c := by
  obtain ⟨logs, rfl⟩ := first
  obtain ⟨logs', rfl⟩ := second
  exact ⟨logs ++ logs', ingest_append config a logs logs'⟩

theorem LogStore.Grows.created {store store' : LogStore} (grows : store.Grows config store') :
    store.created <+: store'.created := by
  obtain ⟨logs, rfl⟩ := grows
  exact List.prefix_append ..

theorem SweptStore.chunk_lists (store : SweptStore) (latest from_ now : Int) :
    (store.chunk latest from_ now).toLogStore = store.toLogStore := by
  unfold SweptStore.chunk
  split <;> rfl

/-- No step of a sweep takes anything out of the lists. -/
theorem syncStep_grows (s : SyncState) (event : SyncEvent) :
    s.store.toLogStore.Grows config (syncStep config s event).store.toLogStore := by
  cases event with
  | call now =>
    simp only [syncStep, syncLogStore]
    split
    · exact .refl _
    · split
      · exact .refl _
      · split <;> exact .refl _
  | latest n now =>
    simp only [syncStep, SyncState.resume, SweptStore.chunk_lists]
    exact .refl _
  | logs now =>
    simp only [syncStep]
    split
    next latest from_ to_ waiting =>
      refine ⟨getLogs config.addresses from_ to_ s.chain, ?_⟩
      simp only [SyncState.resume, SweptStore.ingested]
      split
      · rfl
      · rw [SweptStore.chunk_lists]
    next => exact .refl _
  | wake now =>
    simp only [syncStep]
    split
    next =>
      simp only [SyncState.resume, SweptStore.chunk_lists]
      exact .refl _
    next => exact .refl _
  | _ => exact .refl _

theorem syncs_grow {later : List (SyncState × SyncEvent)} (run : Run (syncs config) s later s') :
    s.store.toLogStore.Grows config s'.store.toLogStore := by
  refine run.invariant (fun v => s.store.toLogStore.Grows config v.store.toLogStore) (.refl _) ?_
  intro v event grown _
  exact grown.trans (syncStep_grows v event)

end Growth

/-! ### A store at a block of the chain -/

/-- The sweeps have come to the end of a block, and `u` is the state of the contracts there.
The chain may have gone on since. -/
structure Followed (config : ChainRuntimeConfig) (d : Deployment) (start : World)
    (s : SyncState) (history : History) (u : World) : Prop where
  configured : config.contracts = ⟨some d.factory, some d.panel, some d.reputation⟩
  run : Escrow.Run d start history u
  /-- The contracts were deployed in the block that the sweeps begin with, or later. -/
  swept : ∃ (deployBlock : Nat) (past : List (SyncState × SyncEvent)) (number : Nat → Nat)
    (later : History),
    Run (syncs config) { store := storeFor deployBlock } past s ∧
    (∀ n, deployBlock ≤ number n) ∧
    s.chain.filter (Indexed d) = logs d number (later ++ history) ∧
    ∀ n < (later ++ history).length, (number n : Int) ≤ s.store.cursor ↔ n < history.length

section Mirror

variable {config : ChainRuntimeConfig} {d : Deployment} {start u : World} {s : SyncState}
  {history : History}

/-- The events of one kind that a followed store holds. -/
theorem Followed.events {α : Type} {select : Event → Option α} {address : Address}
    (followed : Followed config d start s history u) (source : Source d select address)
    {contract : Option Address} (configured : contract = some address)
    (list : LogStore → List (Log α))
    (listed : ∀ logs, list (ingest config {} logs) =
      parseEventLogs select (logs.filter fun log => sameAddress log.address contract)) :
    ((list s.store.toLogStore).map Log.args).Perm (history.events d select) := by
  obtain ⟨deployBlock, past, number, later, sweeps, deployed, recorded, block⟩ := followed.swept
  rw [(synced sweeps).lists, listed]
  by_cases begun : 0 ≤ s.store.cursor
  · obtain ⟨b, cursor⟩ := Int.eq_ofNat_of_zero_le begun
    have upTo : EndOfBlock number b history later := by
      intro n below
      rw [← block n below, cursor]
      exact Int.ofNat_le.symm
    -- the contracts have no logs below the block that the sweeps begin with
    have above : (s.chain.filter fun log => log.blockNumber.any (deployBlock ≤ ·)).filter
        (Indexed d) = logs d number (later ++ history) := by
      rw [List.filter_comm, recorded]
      apply List.filter_eq_self.mpr
      intro log member
      obtain ⟨n, -, numbered⟩ := mem_logs member
      simp [numbered, deployed n]
    have within : s.chain.filter (Within deployBlock s.store.cursor) =
        (s.chain.filter fun log => log.blockNumber.any (deployBlock ≤ ·)).filter (UpTo b) := by
      rw [List.filter_filter]
      refine List.filter_congr fun log _ => ?_
      cases numbered : log.blockNumber with
      | none => simp [Within, UpTo, numbered]
      | some n =>
        simp only [Within, UpTo, numbered, cursor, Option.any_some]
        rw [Bool.eq_iff_iff]
        simp only [decide_eq_true_eq, Bool.and_eq_true]
        omega
    rw [within]
    exact held_source source above upTo configured
  · -- nothing was swept yet, and the contracts have announced nothing up to there
    have empty : s.chain.filter (Within deployBlock s.store.cursor) = [] := by
      apply List.filter_eq_nil_iff.mpr
      intro log _
      simp only [Within, Option.any_eq_true, decide_eq_true_eq, not_exists, not_and]
      omega
    have early : history = [] := by
      by_contra some_
      have positive := List.length_pos_of_ne_nil some_
      have first := (block 0 (by simp; omega)).mpr positive
      omega
    rw [empty, early]
    exact .nil

theorem Followed.created (followed : Followed config d start s history u) :
    (s.store.created.map Log.args).Perm (history.events d Event.created?) :=
  followed.events Source.created
    (by rw [followed.configured] : config.contracts.factory = some d.factory) LogStore.created
    fun logs => by simp [ingest, decodeCreated_eq]

theorem Followed.opened (followed : Followed config d start s history u) :
    (s.store.opened.map Log.args).Perm (history.events d Event.opened?) :=
  followed.events (.panel fun _ selected => .inl selected)
    (by rw [followed.configured] : config.contracts.disputePanel = some d.panel) LogStore.opened
    fun logs => by simp [ingest, decodeOpened]

theorem Followed.attested (followed : Followed config d start s history u) :
    (s.store.attested.map Log.args).Perm (history.events d Event.attested?) :=
  followed.events Source.attested
    (by rw [followed.configured] : config.contracts.reputationRegistry = some d.reputation)
    LogStore.attested fun logs => by simp [ingest, decodeAttested_eq]

end Mirror

namespace MirrorWalkthrough

open Walkthrough

/-- The order is finalized, and then attested. -/
def attestedPath : List Tx := happyPath ++ [⟨⟨deployer, 62⟩, .attest (escrow 0)⟩]

def history : History := Walkthrough.history 600 timeout_ne_zero attestedPath

def world : World := Walkthrough.state 600 timeout_ne_zero attestedPath

/-- All transactions are in one block, which one sweep reads. -/
def path : List SyncEvent :=
  [.mine (logs installation (fun _ => 0) history), .call 5000, .latest 0 5000, .logs 5000, .finish]

def reached : SyncState := (syncs walkthroughConfig).replay { store := storeFor 0 } path

theorem run : Run (syncs walkthroughConfig) { store := storeFor 0 }
    ((syncs walkthroughConfig).record { store := storeFor 0 } [] path) reached := by
  refine (syncs walkthroughConfig).replay_run .refl path
    ⟨?_, trivial, ⟨rfl, by decide⟩, ⟨_, _, _, rfl⟩, ⟨_, rfl⟩, trivial⟩
  intro log member
  obtain ⟨n, -, numbered⟩ := mem_logs member
  exact numbered

theorem followed :
    Followed walkthroughConfig installation Walkthrough.genesis reached history world where
  configured := rfl
  run := Walkthrough.run 600 timeout_ne_zero attestedPath (by decide)
  swept := by
    refine ⟨0, _, fun _ => 0, [], run, fun _ => Nat.zero_le _, by decide +kernel, ?_⟩
    intro n below
    have cursor : reached.store.cursor = 0 := by decide +kernel
    simpa [cursor] using below

end MirrorWalkthrough

end VapiArc.App
