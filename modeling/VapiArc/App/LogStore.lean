import VapiArc.Escrow.Events

/-!
# The app's store of logs

The lists that a sweep over the chain fills, one for each indexed event, and what they
hold of a run of the contracts up to the end of a block.
-/
namespace VapiArc.App

open Escrow

structure ContractAddresses where
  factory : Option Address
  disputePanel : Option Address
  reputationRegistry : Option Address

structure ChainRuntimeConfig where
  contracts : ContractAddresses
  mock : Bool

structure LogStore where
  created : List (Log EscrowCreated) := []
  opened : List (Log DisputeOpened) := []
  committed : List (Log VoteCommitted) := []
  revealed : List (Log VoteRevealed) := []
  executed : List (Log DisputeExecuted) := []
  attested : List (Log SettlementAttested) := []

/-- The logs of one event, with its arguments. -/
def parseEventLogs {α : Type} (eventName : Event → Option α) (logs : List (Log Event)) :
    List (Log α) :=
  logs.filterMap fun log =>
    (eventName log.args).map fun args => ⟨log.address, log.blockNumber, args⟩

def decodeCreated : List (Log Event) → List (Log EscrowCreated) :=
  parseEventLogs fun event => if let .escrowCreated args := event then some args else none

def decodeOpened : List (Log Event) → List (Log DisputeOpened) := parseEventLogs Event.opened?

def decodeCommitted : List (Log Event) → List (Log VoteCommitted) :=
  parseEventLogs fun event => if let .voteCommitted args := event then some args else none

def decodeRevealed : List (Log Event) → List (Log VoteRevealed) := parseEventLogs Event.revealed?

def decodeExecuted : List (Log Event) → List (Log DisputeExecuted) := parseEventLogs Event.executed?

def decodeAttested : List (Log Event) → List (Log SettlementAttested) :=
  parseEventLogs fun event => if let .settlementAttested args := event then some args else none

def sameAddress (left : Address) (right : Option Address) : Bool := right = some left

def ingest (config : ChainRuntimeConfig) (store : LogStore) (logs : List (Log Event)) :
    LogStore :=
  let factoryLogs := logs.filter fun log => sameAddress log.address config.contracts.factory
  let panelLogs := logs.filter fun log => sameAddress log.address config.contracts.disputePanel
  let registryLogs := logs.filter fun log =>
    sameAddress log.address config.contracts.reputationRegistry
  { created := store.created ++ decodeCreated factoryLogs
    opened := store.opened ++ decodeOpened panelLogs
    committed := store.committed ++ decodeCommitted panelLogs
    revealed := store.revealed ++ decodeRevealed panelLogs
    executed := store.executed ++ decodeExecuted panelLogs
    attested := store.attested ++ decodeAttested registryLogs }

/-- The store holds the indexed events among the logs, each log once, in whatever order. -/
structure LogStore.Holds (config : ChainRuntimeConfig) (store : LogStore)
    (logs : List (Log Event)) : Prop where
  created : store.created.Perm (ingest config {} logs).created
  opened : store.opened.Perm (ingest config {} logs).opened
  committed : store.committed.Perm (ingest config {} logs).committed
  revealed : store.revealed.Perm (ingest config {} logs).revealed
  executed : store.executed.Perm (ingest config {} logs).executed
  attested : store.attested.Perm (ingest config {} logs).attested

theorem parseEventLogs_append {α : Type} (eventName : Event → Option α)
    (logs logs' : List (Log Event)) :
    parseEventLogs eventName (logs ++ logs') =
      parseEventLogs eventName logs ++ parseEventLogs eventName logs' :=
  List.filterMap_append

/-- Chunks that are ingested one after the other are held together. -/
theorem ingest_append (config : ChainRuntimeConfig) (store : LogStore)
    (logs logs' : List (Log Event)) :
    ingest config (ingest config store logs) logs' = ingest config store (logs ++ logs') := by
  simp only [ingest, decodeCreated, decodeOpened, decodeCommitted, decodeRevealed,
    decodeExecuted, decodeAttested, List.filter_append, parseEventLogs_append, List.append_assoc]

section Chain

variable {d : Deployment} {number : Nat → Nat} {b : Nat} {earlier later history : History}

/-- The log is one of an indexed event of the installation. -/
def Indexed (d : Deployment) (log : Log Event) : Bool :=
  (log.address = d.factory || log.address = d.panel || log.address = d.reputation) &&
    log.args ≠ .other

def UpTo (b : Nat) (log : Log Event) : Bool := log.blockNumber.any (· ≤ b)

/-- The first transactions, and no later ones, are those of the blocks up to `b`. -/
def EndOfBlock (number : Nat → Nat) (b : Nat) (earlier later : History) : Prop :=
  ∀ n < (later ++ earlier).length, number n ≤ b ↔ n < earlier.length

theorem EndOfBlock.tail {entry : World × Tx} (block : EndOfBlock number b earlier (entry :: later)) :
    EndOfBlock number b earlier later := by
  intro n below
  exact block n (by rw [List.cons_append, List.length_cons]; omega)

theorem mem_logs {log : Log Event} (member : log ∈ logs d number history) :
    ∃ n < history.length, log.blockNumber = some (number n) := by
  induction history with
  | nil => cases member
  | cons entry earlier ih =>
    rcases List.mem_append.mp member with old | new
    · obtain ⟨n, below, same⟩ := ih old
      exact ⟨n, Nat.lt_succ_of_lt below, same⟩
    · obtain ⟨pair, -, rfl⟩ := List.mem_map.mp new
      exact ⟨earlier.length, Nat.lt_succ_self _, rfl⟩

/-- The logs of the blocks up to `b` are those of the first transactions. -/
theorem logs_upTo (block : EndOfBlock number b earlier later) :
    (logs d number (later ++ earlier)).filter (UpTo b) = logs d number earlier := by
  induction later with
  | nil =>
    apply List.filter_eq_self.mpr
    intro log member
    obtain ⟨n, below, same⟩ := mem_logs member
    simpa [UpTo, same] using (block n below).mpr below
  | cons entry later ih =>
    rw [List.cons_append, logs, List.filter_append, ih block.tail]
    -- the newest transaction is in a later block
    have late : ¬ number (later ++ earlier).length ≤ b := by
      rw [block _ (by simp)]
      simp
    have none : ((emitted d entry).toList.map fun pair =>
        (⟨pair.1, some (number (later ++ earlier).length), pair.2⟩ : Log Event)).filter
          (UpTo b) = [] := by
      apply List.filter_eq_nil_iff.mpr
      intro log member
      obtain ⟨pair, -, rfl⟩ := List.mem_map.mp member
      simpa [UpTo] using late
    rw [none, List.append_nil]

/-- Only the panel emits events on its cases. -/
theorem emitted_panel {entry : World × Tx} {pair : Address × Event}
    (given : emitted d entry = some pair) (concerns : pair.2.Concerns) : pair.1 = d.panel := by
  obtain ⟨w, msg, call⟩ := entry
  unfold emitted at given
  split at given
  next w' _ =>
    cases call with
    | attest e =>
      obtain ⟨c, -, rfl⟩ := Option.map_eq_some_iff.mp given
      simp at concerns
    | createEscrow =>
      cases given
      simp at concerns
    | _ => cases given <;> rfl
  next => cases given

/-- The events of one kind all come from one of the indexed contracts. -/
structure Source {α : Type} (d : Deployment) (select : Event → Option α) (address : Address) :
    Prop where
  known : address = d.factory ∨ address = d.panel ∨ address = d.reputation
  named : select .other = none
  emitter : ∀ entry pair, emitted d entry = some pair → select pair.2 ≠ none → pair.1 = address

theorem Source.panel {α : Type} {select : Event → Option α}
    (concerns : ∀ event : Event, select event ≠ none → event.Concerns) :
    Source d select d.panel := by
  constructor
  · exact .inr (.inl rfl)
  · by_contra found
    have concern := concerns _ found
    simp at concern
  · intro entry pair given selected
    exact emitted_panel given (concerns pair.2 selected)

/-- The arguments of the contract's logs of one kind are the run's events of that kind. -/
theorem args_logs {α : Type} {select : Event → Option α} {address : Address}
    (source : Source d select address) (history : History) :
    ((logs d number history).filterMap fun log =>
      if log.address = address then select log.args else none).Perm
      (history.events d select) := by
  induction history with
  | nil => exact .nil
  | cons entry earlier ih =>
    rw [logs, List.filterMap_append, History.events_cons]
    refine List.perm_append_comm.trans (.append (.of_eq ?_) ih)
    cases given : emitted d entry with
    | none => rfl
    | some pair =>
      by_cases selected : select pair.2 = none
      · simp [selected]
      · have emitter := source.emitter entry pair given selected
        cases found : select pair.2 with
        | none => exact absurd found selected
        | some args => simp [emitter, found]

/-- What a store holds of one kind of events, when it holds the chain's logs up to the end of
a block. -/
theorem held_source {α : Type} {select : Event → Option α} {chain : List (Log Event)}
    {address : Address} (source : Source d select address)
    (recorded : chain.filter (Indexed d) = logs d number (later ++ earlier))
    (block : EndOfBlock number b earlier later) {contract : Option Address}
    (configured : contract = some address) :
    ((parseEventLogs select ((chain.filter (UpTo b)).filter fun log =>
      sameAddress log.address contract)).map Log.args).Perm (History.events d select earlier) := by
  have indexed (log : Log Event) (here : log.address = address) (found : select log.args ≠ none) :
      Indexed d log = true := by
    have named : log.args ≠ .other := by
      intro other
      rw [other] at found
      exact found source.named
    rcases source.known with known | known | known <;> simp [Indexed, here, known, named]
  have args : (parseEventLogs select ((chain.filter (UpTo b)).filter fun log =>
      sameAddress log.address contract)).map Log.args =
      ((chain.filter (Indexed d)).filter (UpTo b)).filterMap fun log =>
        if log.address = address then select log.args else none := by
    simp only [parseEventLogs, List.map_filterMap, List.filterMap_filter]
    refine List.filterMap_congr fun log _ => ?_
    by_cases here : log.address = address
    · by_cases found : select log.args = none
      · simp [found]
      · have inside := indexed log here found
        cases given : select log.args with
        | none => exact absurd given found
        | some args => simp [sameAddress, configured, here, inside]
    · have other : ¬ address = log.address := fun same => here same.symm
      simp [sameAddress, configured, here, other]
  rw [args, recorded, logs_upTo block]
  exact args_logs source earlier

theorem held_events {α : Type} {select : Event → Option α} {chain : List (Log Event)}
    (concerns : ∀ event : Event, select event ≠ none → event.Concerns)
    (recorded : chain.filter (Indexed d) = logs d number (later ++ earlier))
    (block : EndOfBlock number b earlier later) {panel : Option Address}
    (configured : panel = some d.panel) :
    ((parseEventLogs select ((chain.filter (UpTo b)).filter fun log =>
      sameAddress log.address panel)).map Log.args).Perm (History.events d select earlier) :=
  held_source (.panel concerns) recorded block configured

end Chain

end VapiArc.App
