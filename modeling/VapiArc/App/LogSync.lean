import VapiArc.App.LogStore
import VapiArc.Lib.Transition

/-!
# The sweep that fills the store of logs

`syncLogStore` lets its callers share one sweep, which reads the chain in chunks and may fail
at each of them. The chain grows meanwhile; what it holds up to a block does not change.
-/
namespace VapiArc.App

open Escrow Transition

def CHUNK_BLOCKS : Int := 9500

def FRESH_WINDOW_MS : Int := 2000

/-- Where a sweep is: at one of its requests, at the pause between two chunks, or at its end
with an error or none, before the call that began it has continued. -/
inductive Sweep where
  | blockNumber
  | logs (latest from_ to_ : Int)
  | pause (latest from_ : Int)
  | settled (error : Option String)
  deriving DecidableEq, Repr

/-- The store with the fields that the sweep itself uses. -/
structure SweptStore extends LogStore where
  cursor : Int
  lastSyncMs : Int := 0
  inFlight : Option Sweep := none

/-- A new entry of `stores`. -/
def storeFor (deployBlock : Nat) : SweptStore := { cursor := deployBlock - 1 }

namespace SweptStore

variable (config : ChainRuntimeConfig) (store : SweptStore)

/-- The head of the `while` loop of `sweep`: the next chunk, or the end. -/
def chunk (latest from_ now : Int) : SweptStore :=
  if from_ ≤ latest then
    let to_ := if from_ + CHUNK_BLOCKS - 1 > latest then latest else from_ + CHUNK_BLOCKS - 1
    { store with inFlight := some (.logs latest from_ to_) }
  else { store with lastSyncMs := now, inFlight := some (.settled none) }

/-- The body of the loop once the logs are there. -/
def ingested (latest to_ now : Int) (logs : List (Log Event)) : SweptStore :=
  let store := { store with toLogStore := ingest config store.toLogStore logs, cursor := to_ }
  if to_ + 1 ≤ latest then { store with inFlight := some (.pause latest (to_ + 1)) }
  else store.chunk latest (to_ + 1) now

end SweptStore

def ChainRuntimeConfig.addresses (config : ChainRuntimeConfig) : List Address :=
  [config.contracts.factory, config.contracts.disputePanel,
    config.contracts.reputationRegistry].reduceOption

/-- `syncLogStore` up to its first `await`. -/
def syncLogStore (config : ChainRuntimeConfig) (store : SweptStore) (now : Int) : SweptStore :=
  match store.inFlight with
  | some _ => store
  | none =>
    if now - store.lastSyncMs < FRESH_WINDOW_MS then store
    else if config.addresses.length = 0 then { store with inFlight := some (.settled none) }
    else { store with inFlight := some .blockNumber }

/-- The log is in one of the blocks from one to another. -/
def Within (from_ to_ : Int) (log : Log Event) : Bool :=
  log.blockNumber.any fun n : Nat => from_ ≤ n ∧ n ≤ to_

/-- `eth_getLogs` -/
def getLogs (addresses : List Address) (from_ to_ : Int) (chain : List (Log Event)) :
    List (Log Event) :=
  chain.filter fun log => Within from_ to_ log && addresses.contains log.address

/-- The store, the chain's logs in their order, how many blocks there are, and the ranges for
which logs were requested. -/
structure SyncState where
  store : SweptStore
  chain : List (Log Event) := []
  blocks : Nat := 0
  queried : List (Int × Int) := []

inductive SyncEvent where
  | call (now : Int)
  /-- The node tells a number of a latest block. -/
  | latest (n : Nat) (now : Int)
  | logs (now : Int)
  | wake (now : Int)
  /-- A request fails, with the message if it is an `Error`. -/
  | fail (message : Option String)
  /-- The call that began the sweep continues, in its `finally` block. -/
  | finish
  /-- The next block, with its logs. -/
  | mine (logs : List (Log Event))

namespace SyncState

variable (s : SyncState)

/-- The sweep goes on; a request for logs goes to the node. -/
def resume (store : SweptStore) : SyncState :=
  { s with
    store
    queried := match store.inFlight with
      | some (.logs _ from_ to_) => s.queried ++ [(from_, to_)]
      | _ => s.queried }

end SyncState

def syncStep (config : ChainRuntimeConfig) (s : SyncState) : SyncEvent → SyncState
  | .call now => { s with store := syncLogStore config s.store now }
  | .latest n now => s.resume (s.store.chunk n (s.store.cursor + 1) now)
  | .logs now =>
    match s.store.inFlight with
    | some (.logs latest from_ to_) =>
      s.resume (s.store.ingested config latest to_ now (getLogs config.addresses from_ to_ s.chain))
    | _ => s
  | .wake now =>
    match s.store.inFlight with
    | some (.pause latest from_) => s.resume (s.store.chunk latest from_ now)
    | _ => s
  | .fail message =>
    let error := message.getD "Arc RPC read failed"
    { s with store := { s.store with inFlight := some (.settled (some error)) } }
  | .finish => { s with store := { s.store with inFlight := none } }
  | .mine logs => { s with chain := s.chain ++ logs, blocks := s.blocks + 1 }

/-- A node may be behind, but tells only of blocks that are there. -/
def syncs (config : ChainRuntimeConfig) : System SyncState SyncEvent where
  admits s
    | .call _ => True
    | .latest n _ => s.store.inFlight = some .blockNumber ∧ n < s.blocks
    | .logs _ => ∃ latest from_ to_, s.store.inFlight = some (.logs latest from_ to_)
    | .wake _ => ∃ latest from_, s.store.inFlight = some (.pause latest from_)
    | .fail _ => s.store.inFlight = some .blockNumber ∨
        ∃ latest from_ to_, s.store.inFlight = some (.logs latest from_ to_)
    | .finish => ∃ error, s.store.inFlight = some (.settled error)
    | .mine logs => ∀ log ∈ logs, log.blockNumber = some s.blocks
  next := syncStep config

section Logs

variable {config : ChainRuntimeConfig} {chain : List (Log Event)}

/-- Logs of other contracts make no difference to the store. -/
theorem ingest_addresses (store : LogStore) (logs : List (Log Event)) :
    ingest config store (logs.filter fun log => config.addresses.contains log.address) =
      ingest config store logs := by
  have same (address : Option Address) (there : ∀ a, address = some a → a ∈ config.addresses) :
      (logs.filter fun log => config.addresses.contains log.address).filter
        (fun log => sameAddress log.address address) =
      logs.filter fun log => sameAddress log.address address := by
    rw [List.filter_filter]
    refine List.filter_congr fun log _ => ?_
    by_cases here : address = some log.address
    · simp [sameAddress, here, there _ here]
    · simp [sameAddress, here]
  have member (address : Option Address) (listed : address ∈ [config.contracts.factory,
      config.contracts.disputePanel, config.contracts.reputationRegistry]) (a : Address)
      (found : address = some a) : a ∈ config.addresses :=
    List.reduceOption_mem_iff.mpr (found ▸ listed)
  simp only [ingest, same _ (member _ _), List.mem_cons, true_or, or_true]

/-- The places of a list at which `f` finds something, next to what it finds there. -/
theorem filterMap_places {α β : Type} (f : α → Option β) (items : List α) :
    List.Forall₂ (fun place found => items[place]?.bind f = some found)
      ((List.range items.length).filter fun place => (items[place]?.bind f).isSome)
      (items.filterMap f) := by
  induction items using List.reverseRecOn with
  | nil => exact .nil
  | append_singleton items item ih =>
    have inside (place : Nat) (below : place < items.length) :
        (items ++ [item])[place]? = items[place]? := List.getElem?_append_left below
    have last : (items ++ [item])[items.length]? = some item := List.getElem?_concat_length
    rw [List.length_append, List.length_singleton, List.range_succ, List.filter_append,
      List.filterMap_append]
    apply List.rel_append
    · -- the places before the last one are those of the shorter list
      have same : (List.range items.length).filter
            (fun place => ((items ++ [item])[place]?.bind f).isSome) =
          (List.range items.length).filter fun place => (items[place]?.bind f).isSome := by
        apply List.filter_congr
        intro place member
        rw [inside place (List.mem_range.mp member)]
      rw [same]
      apply ih.imp
      intro place found here
      obtain ⟨item, at_, -⟩ := Option.bind_eq_some_iff.mp here
      rw [inside place (List.getElem?_eq_some_iff.mp at_).1]
      exact here
    · cases found : f item <;> simp [found]

/-- Two selections of a list, one of them from its first part and one from the rest. -/
theorem filter_append_filter {α : Type} {first second : α → Bool} {items : List α}
    (disjoint : ∀ item ∈ items, second item → first item = false)
    (apart : items.Pairwise fun earlier later => second earlier → first later = false) :
    items.filter first ++ items.filter second =
      items.filter fun item => first item || second item := by
  induction items with
  | nil => rfl
  | cons item rest ih =>
    obtain ⟨here, apart⟩ := List.pairwise_cons.mp apart
    have rest_ := ih (fun other member => disjoint other (List.mem_cons_of_mem _ member)) apart
    by_cases late : second item
    · -- nothing of the first selection comes after an item of the second
      have early := disjoint item List.mem_cons_self late
      have none_ : rest.filter first = [] :=
        List.filter_eq_nil_iff.mpr fun other member => by simp [here other member late]
      rw [none_, List.nil_append] at rest_
      simp [early, late, none_, rest_]
    · cases early : first item
      · simp [early, late, rest_]
      · simp [early, late, ← rest_]

/-- The chain's logs are in the order of their blocks. -/
def InOrder (chain : List (Log Event)) : Prop :=
  chain.Pairwise fun earlier later => ∀ n ∈ later.blockNumber, ∃ m ∈ earlier.blockNumber, m ≤ n

/-- The logs of a chunk follow those of the blocks before it. -/
theorem within_append (ordered : InOrder chain) {from_ cursor to_ : Int} (started : from_ ≤ cursor + 1)
    (later : cursor ≤ to_) :
    chain.filter (Within from_ cursor) ++ chain.filter (Within (cursor + 1) to_) =
      chain.filter (Within from_ to_) := by
  have before (n : Nat) (log : Log Event) (at_ : log.blockNumber = some n) (past : cursor + 1 ≤ n) :
      Within from_ cursor log = false := by
    simp [Within, at_]
    omega
  rw [filter_append_filter]
  · refine List.filter_congr fun log _ => ?_
    rw [Bool.eq_iff_iff]
    cases numbered : log.blockNumber with
    | none => simp [Within, numbered]
    | some n =>
      simp only [Within, numbered, Option.any_some, Bool.or_eq_true, decide_eq_true_eq]
      omega
  · intro log _ late
    obtain ⟨n, at_, bounds⟩ := Option.any_eq_true _ _ |>.mp late
    exact before n log at_ (of_decide_eq_true bounds).1
  · refine ordered.imp ?_
    intro earlier log order late
    cases numbered : log.blockNumber with
    | none => simp [Within, numbered]
    | some n =>
      obtain ⟨m, at_, bounds⟩ := Option.any_eq_true _ _ |>.mp late
      obtain ⟨k, same, le⟩ := order n numbered
      have equal : k = m := by simpa [at_] using same.symm
      have := (of_decide_eq_true bounds).1
      exact before n log numbered (by omega)

end Logs

section Sweeps

variable {config : ChainRuntimeConfig} {deployBlock : Nat} {s : SyncState}

/-- A sweep that is under way asks for what follows the cursor, in blocks that are there. -/
def Sweep.Fits (cursor : Int) (blocks : Nat) : Sweep → Prop
  | .logs latest from_ to_ => from_ = cursor + 1 ∧ from_ ≤ to_ ∧ to_ ≤ latest ∧ latest < blocks
  | .pause latest from_ => from_ = cursor + 1 ∧ from_ ≤ latest ∧ latest < blocks
  | _ => True

/-- The ranges of requests for logs are no longer than a chunk. -/
def Short (range : Int × Int) : Prop := range.2 - range.1 + 1 ≤ CHUNK_BLOCKS

structure Synced (config : ChainRuntimeConfig) (deployBlock : Nat) (s : SyncState) : Prop where
  lists : s.store.toLogStore =
    ingest config {} (s.chain.filter (Within deployBlock s.store.cursor))
  started : deployBlock ≤ s.store.cursor + 1
  mined : s.store.cursor < s.blocks ∨ s.store.cursor + 1 = deployBlock
  ordered : InOrder s.chain
  numbered : ∀ log ∈ s.chain, ∃ n < s.blocks, log.blockNumber = some n
  fits : ∀ sweep ∈ s.store.inFlight, sweep.Fits s.store.cursor s.blocks
  short : ∀ range ∈ s.queried, Short range

/-- The sweep moves on to a place that fits, and keeps the lists and the cursor. -/
theorem Synced.resume (kept : Synced config deployBlock s) {sweep : Sweep}
    (fits : sweep.Fits s.store.cursor s.blocks)
    (short : ∀ latest from_ to_, sweep = .logs latest from_ to_ → Short (from_, to_))
    (lastSyncMs : Int) :
    Synced config deployBlock (s.resume { s.store with lastSyncMs, inFlight := some sweep }) := by
  refine ⟨kept.lists, kept.started, kept.mined, kept.ordered, kept.numbered, ?_, ?_⟩
  · intro other same
    cases same
    exact fits
  · intro range member
    cases sweep with
    | logs latest from_ to_ =>
      rcases List.mem_append.mp member with old | new
      · exact kept.short range old
      · rw [List.mem_singleton.mp new]
        exact short latest from_ to_ rfl
    | _ => exact kept.short range member

theorem Synced.chunk (kept : Synced config deployBlock s) {latest : Int}
    (there : latest < s.blocks) (now : Int) :
    Synced config deployBlock (s.resume (s.store.chunk latest (s.store.cursor + 1) now)) := by
  unfold SweptStore.chunk
  split
  next ahead =>
    have whole : (0 : Int) < CHUNK_BLOCKS := by decide
    apply kept.resume
    · exact ⟨rfl, by split <;> omega, by split <;> omega, there⟩
    · rintro _ _ _ ⟨⟩
      simp only [Short]
      split <;> omega
  next =>
    have fits : (Sweep.settled none).Fits s.store.cursor s.blocks := trivial
    exact kept.resume fits (fun _ _ _ same => by cases same) now

/-- A chunk's logs come to the lists and the cursor to its end. -/
theorem Synced.ingested (kept : Synced config deployBlock s) {to_ : Int}
    (ahead : s.store.cursor + 1 ≤ to_) (there : to_ < s.blocks) :
    Synced config deployBlock { s with store := { s.store with
      toLogStore := ingest config s.store.toLogStore
        (getLogs config.addresses (s.store.cursor + 1) to_ s.chain)
      cursor := to_, inFlight := none } } := by
  refine ⟨?_, ?_, .inl there, kept.ordered, kept.numbered, (by simp), kept.short⟩
  · have logs : getLogs config.addresses (s.store.cursor + 1) to_ s.chain =
        (s.chain.filter (Within (s.store.cursor + 1) to_)).filter fun log =>
          config.addresses.contains log.address := by
      simp only [getLogs, List.filter_filter, Bool.and_comm]
    simp only [logs, ingest_addresses, kept.lists, ingest_append]
    rw [within_append kept.ordered kept.started (by omega)]
  · have := kept.started
    simp only
    omega

/-- A new block holds none of the logs up to the cursor. -/
theorem Synced.mine (kept : Synced config deployBlock s) {logs : List (Log Event)}
    (new : ∀ log ∈ logs, log.blockNumber = some s.blocks) :
    Synced config deployBlock { s with chain := s.chain ++ logs, blocks := s.blocks + 1 } := by
  -- the new block lies above the cursor, so nothing of it belongs to the lists yet
  have unswept : logs.filter (Within deployBlock s.store.cursor) = [] := by
    apply List.filter_eq_nil_iff.mpr
    intro log member
    have := kept.mined
    simp [Within, new log member]
    omega
  have ordered : InOrder (s.chain ++ logs) := by
    refine List.pairwise_append.mpr ⟨kept.ordered, ?_, ?_⟩
    · refine List.pairwise_of_forall_mem_list ?_
      intro earlier before later after n same
      exact ⟨n, (new earlier before).trans ((new later after).symm.trans same), le_rfl⟩
    · intro earlier old later after n same
      obtain ⟨m, below, numbered⟩ := kept.numbered earlier old
      have : s.blocks = n := by simpa [new later after] using same
      exact ⟨m, numbered, by omega⟩
  refine ⟨?_, kept.started, ?_, ordered, ?_, ?_, kept.short⟩
  · simp only [List.filter_append, unswept, List.append_nil, kept.lists]
  · have := kept.mined
    push_cast
    omega
  · intro log member
    rcases List.mem_append.mp member with old | added
    · obtain ⟨n, below, numbered⟩ := kept.numbered log old
      exact ⟨n, Nat.lt_succ_of_lt below, numbered⟩
    · exact ⟨s.blocks, Nat.lt_succ_self _, new log added⟩
  · intro sweep there
    have fits := kept.fits sweep there
    cases sweep with
    | logs latest from_ to_ =>
      simp only [Sweep.Fits] at fits ⊢
      push_cast
      omega
    | pause latest from_ =>
      simp only [Sweep.Fits] at fits ⊢
      push_cast
      omega
    | _ => trivial

/-- A sweep begins, fails or is over. -/
theorem Synced.phase (kept : Synced config deployBlock s) {inFlight : Option Sweep}
    (fits : ∀ sweep ∈ inFlight, sweep.Fits s.store.cursor s.blocks) :
    Synced config deployBlock { s with store := { s.store with inFlight } } :=
  ⟨kept.lists, kept.started, kept.mined, kept.ordered, kept.numbered, fits, kept.short⟩

theorem Synced.step {event : SyncEvent} (kept : Synced config deployBlock s)
    (admitted : (syncs config).admits s event) :
    Synced config deployBlock ((syncs config).next s event) := by
  cases event with
  | call now =>
    simp only [syncs, syncStep, syncLogStore]
    split
    · exact kept
    · split
      · exact kept
      · split
        · exact kept.phase fun _ same => by cases same; trivial
        · exact kept.phase fun _ same => by cases same; trivial
  | latest n now =>
    exact kept.chunk (by exact_mod_cast admitted.2) now
  | logs now =>
    obtain ⟨latest, from_, to_, waiting⟩ := admitted
    obtain ⟨rfl, ahead, inside, there⟩ := kept.fits _ waiting
    have next := kept.ingested ahead (by omega)
    simp only [syncs, syncStep, waiting, SweptStore.ingested]
    split
    next more =>
      have fits : (Sweep.pause latest (to_ + 1)).Fits to_ s.blocks := ⟨rfl, more, there⟩
      exact next.resume fits (fun _ _ _ same => by cases same) _
    next => exact next.chunk there now
  | wake now =>
    obtain ⟨latest, from_, waiting⟩ := admitted
    obtain ⟨rfl, -, there⟩ := kept.fits _ waiting
    simp only [syncs, syncStep, waiting]
    exact kept.chunk there now
  | fail message => exact kept.phase fun _ same => by cases same; trivial
  | finish => exact kept.phase fun _ same => by cases same
  | mine logs => exact kept.mine admitted

end Sweeps

section Completeness

variable {config : ChainRuntimeConfig} {deployBlock : Nat} {s : SyncState} {α : Type}

/-- The list has every log of the event that the contract emitted in the blocks from one to
another: `places` are the places of the chain that hold one, in ascending order, and each of them
has its own entry. -/
def Complete (chain : List (Log Event)) (deployBlock : Nat) (cursor : Int)
    (contract : Option Address) (event : α → Event) (list : List (Log α)) : Prop :=
  ∃ places : List Nat, places.Pairwise (· < ·) ∧
    (∀ place, place ∈ places ↔ ∃ address n args, contract = some address ∧
      chain[place]? = some ⟨address, some n, event args⟩ ∧ deployBlock ≤ n ∧ (n : Int) ≤ cursor) ∧
    List.Forall₂ (fun place entry =>
      chain[place]? = some ⟨entry.address, entry.blockNumber, event entry.args⟩) places list

/-- A selector that reads the arguments of just one event. -/
def Reads (select : Event → Option α) (event : α → Event) : Prop :=
  ∀ given args, select given = some args ↔ given = event args

theorem complete_parseEventLogs {select : Event → Option α} {event : α → Event}
    (reads : Reads select event) (chain : List (Log Event)) (deployBlock : Nat) (cursor : Int)
    (contract : Option Address) :
    Complete chain deployBlock cursor contract event (parseEventLogs select
      ((chain.filter (Within deployBlock cursor)).filter fun log =>
        sameAddress log.address contract)) := by
  -- the selections and the decoding as one pass
  have pass : parseEventLogs select ((chain.filter (Within deployBlock cursor)).filter fun log =>
      sameAddress log.address contract) =
      chain.filterMap fun log =>
        if Within deployBlock cursor log && sameAddress log.address contract then
          (select log.args).map fun args => ⟨log.address, log.blockNumber, args⟩
        else none := by
    rw [parseEventLogs, List.filter_filter, List.filterMap_filter]
    simp only [Bool.and_comm]
  have taken {place : Nat} {entry : Log α} (found : chain[place]?.bind (fun log =>
      if Within deployBlock cursor log && sameAddress log.address contract then
        (select log.args).map fun args => (⟨log.address, log.blockNumber, args⟩ : Log α)
      else none) = some entry) :
      chain[place]? = some ⟨entry.address, entry.blockNumber, event entry.args⟩ ∧
        contract = some entry.address ∧
        ∃ n : Nat, entry.blockNumber = some n ∧ deployBlock ≤ n ∧ (n : Int) ≤ cursor := by
    obtain ⟨log, there, kept⟩ := Option.bind_eq_some_iff.mp found
    obtain ⟨selected, kept⟩ := Option.ite_none_right_eq_some.mp kept
    obtain ⟨args, read, rfl⟩ := Option.map_eq_some_iff.mp kept
    obtain ⟨within, emitter⟩ := Bool.and_eq_true_iff.mp selected
    obtain ⟨n, numbered, bounds⟩ := Option.any_eq_true _ _ |>.mp within
    obtain ⟨low, high⟩ := of_decide_eq_true bounds
    refine ⟨?_, of_decide_eq_true emitter, n, numbered, by exact_mod_cast low, high⟩
    rw [there, ← (reads _ _).mp read]
  rw [pass]
  refine ⟨_, (List.pairwise_lt_range).filter _, ?_, (filterMap_places _ chain).imp ?_⟩
  · intro place
    rw [List.mem_filter, List.mem_range]
    constructor
    · rintro ⟨-, found⟩
      obtain ⟨entry, found⟩ := Option.isSome_iff_exists.mp found
      obtain ⟨there, configured, n, numbered, bounds⟩ := taken found
      exact ⟨entry.address, n, entry.args, configured, numbered ▸ there, bounds⟩
    · rintro ⟨address, n, args, configured, there, low, high⟩
      refine ⟨(List.getElem?_eq_some_iff.mp there).1, ?_⟩
      simp [there, Within, sameAddress, configured, low, high, (reads _ _).mpr rfl]
  · intro place entry found
    exact (taken found).1

/-- Each list has the logs of its event, of the contract that emits it. -/
structure Lists (config : ChainRuntimeConfig) (deployBlock : Nat) (chain : List (Log Event))
    (store : SweptStore) : Prop where
  created : Complete chain deployBlock store.cursor config.contracts.factory .escrowCreated
    store.created
  opened : Complete chain deployBlock store.cursor config.contracts.disputePanel .disputeOpened
    store.opened
  committed : Complete chain deployBlock store.cursor config.contracts.disputePanel .voteCommitted
    store.committed
  revealed : Complete chain deployBlock store.cursor config.contracts.disputePanel .voteRevealed
    store.revealed
  executed : Complete chain deployBlock store.cursor config.contracts.disputePanel .disputeExecuted
    store.executed
  attested : Complete chain deployBlock store.cursor config.contracts.reputationRegistry
    .settlementAttested store.attested

theorem Synced.complete (kept : Synced config deployBlock s) :
    Lists config deployBlock s.chain s.store := by
  constructor
  · simp only [congrArg LogStore.created kept.lists, ingest, decodeCreated, List.nil_append]
    apply complete_parseEventLogs
    intro given args
    cases given <;> simp
  · rw [congrArg LogStore.opened kept.lists]
    apply complete_parseEventLogs
    intro given args
    cases given <;> simp [Event.opened?]
  · simp only [congrArg LogStore.committed kept.lists, ingest, decodeCommitted, List.nil_append]
    apply complete_parseEventLogs
    intro given args
    cases given <;> simp
  · rw [congrArg LogStore.revealed kept.lists]
    apply complete_parseEventLogs
    intro given args
    cases given <;> simp [Event.revealed?]
  · rw [congrArg LogStore.executed kept.lists]
    apply complete_parseEventLogs
    intro given args
    cases given <;> simp [Event.executed?]
  · simp only [congrArg LogStore.attested kept.lists, ingest, decodeAttested, List.nil_append]
    apply complete_parseEventLogs
    intro given args
    cases given <;> simp

end Completeness

section Runs

variable {config : ChainRuntimeConfig} {deployBlock : Nat} {v w : SyncState}
  {history later : List (SyncState × SyncEvent)}

theorem synced (run : Run (syncs config) { store := storeFor deployBlock } history v) :
    Synced config deployBlock v := by
  refine run.invariant (Synced config deployBlock) ?_ fun s event kept admitted => kept.step admitted
  refine ⟨rfl, ?_, .inr ?_, .nil, ?_, ?_, ?_⟩
  · simp [storeFor]
  · simp [storeFor]
  · intro log member
    cases member
  · intro sweep same
    cases same
  · intro range member
    cases member

/-- The cursor is left where it is, or goes to the end of a chunk that follows it. -/
theorem cursor_step {s : SyncState} {event : SyncEvent} (kept : Synced config deployBlock s)
    (admitted : (syncs config).admits s event) :
    s.store.cursor ≤ ((syncs config).next s event).store.cursor := by
  have kept_chunk (store : SweptStore) (latest from_ now : Int) :
      (store.chunk latest from_ now).cursor = store.cursor := by
    unfold SweptStore.chunk
    split <;> rfl
  cases event with
  | call now =>
    simp only [syncs, syncStep, syncLogStore]
    split
    · exact le_rfl
    · split
      · exact le_rfl
      · split <;> exact le_rfl
  | latest n now => exact (kept_chunk ..).ge
  | logs now =>
    obtain ⟨latest, from_, to_, waiting⟩ := admitted
    obtain ⟨rfl, ahead, -⟩ := kept.fits _ waiting
    have : (s.store.ingested config latest to_ now
        (getLogs config.addresses (s.store.cursor + 1) to_ s.chain)).cursor = to_ := by
      unfold SweptStore.ingested
      split
      · rfl
      · exact kept_chunk ..
    simp only [syncs, syncStep, waiting, SyncState.resume, this]
    omega
  | wake now =>
    obtain ⟨latest, from_, waiting⟩ := admitted
    simp only [syncs, syncStep, waiting]
    exact (kept_chunk ..).ge
  | fail message => exact le_rfl
  | finish => exact le_rfl
  | mine logs => exact le_rfl

/-- At all times each of the lists has every log of its event from the blocks up to the cursor,
once and in the order of the chain, and none beyond the cursor. The cursor does not go back, and no
request is for more than a chunk. -/
theorem log_store_complete (config : ChainRuntimeConfig) (deployBlock : Nat)
    (run : Run (syncs config) { store := storeFor deployBlock } history v) :
    Lists config deployBlock v.chain v.store ∧ InOrder v.chain ∧
    (∀ range ∈ v.queried, range.2 - range.1 + 1 ≤ CHUNK_BLOCKS) ∧
    ∀ later w, Run (syncs config) v later w → v.store.cursor ≤ w.store.cursor := by
  have kept := synced run
  refine ⟨kept.complete, kept.ordered, kept.short, fun later w more => ?_⟩
  have both := more.invariant
    (fun s => Synced config deployBlock s ∧ v.store.cursor ≤ s.store.cursor) ⟨kept, le_rfl⟩
    fun s event invariant admitted => ⟨invariant.1.step admitted,
      invariant.2.trans (cursor_step invariant.1 admitted)⟩
  exact both.2

end Runs

namespace SyncWalkthrough

def config : ChainRuntimeConfig :=
  { contracts := { factory := none, disputePanel := some 7, reputationRegistry := none }
    mock := false }

def vote (block : Nat) : Log Event := ⟨7, some block, .voteRevealed ⟨1, 2, 3⟩⟩

/-- The first request for logs fails; the next sweep starts over, and a block comes up
while a second caller has joined it. -/
def path : List SyncEvent :=
  [.mine [vote 0, ⟨8, some 0, .other⟩], .call 5000, .latest 0 5000, .fail none, .finish,
    .call 5001, .mine [vote 1], .latest 1 5002, .call 5003, .mine [vote 2], .logs 5004, .finish]

def reached : SyncState := (syncs config).replay { store := storeFor 0 } path

theorem mined (s : SyncState) (logs : List (Log Event))
    (numbered : ∀ log ∈ logs, log.blockNumber = some s.blocks) :
    (syncs config).admits s (.mine logs) := numbered

theorem admitted : (syncs config).AdmitsAll { store := storeFor 0 } path := by
  refine ⟨mined _ _ (by decide), trivial, ⟨rfl, by decide⟩, .inr ⟨_, _, _, rfl⟩, ⟨_, rfl⟩, trivial,
    mined _ _ (by decide), ⟨rfl, by decide⟩, trivial, mined _ _ (by decide), ⟨_, _, _, rfl⟩,
    ⟨_, rfl⟩, trivial⟩

theorem run : Run (syncs config) { store := storeFor 0 }
    ((syncs config).record { store := storeFor 0 } [] path) reached :=
  (syncs config).replay_run .refl path admitted

end SyncWalkthrough

open SyncWalkthrough in
theorem log_store_complete_walkthrough :
    reached.store.cursor = 1 ∧ reached.store.revealed = [⟨7, some 0, ⟨1, 2, 3⟩⟩, ⟨7, some 1, ⟨1, 2, 3⟩⟩] ∧
      Lists config 0 reached.chain reached.store :=
  ⟨by decide, by decide, (log_store_complete config 0 run).1⟩

end VapiArc.App
