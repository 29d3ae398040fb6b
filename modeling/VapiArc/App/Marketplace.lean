import VapiArc.App.DisputeView
import VapiArc.App.Mirror

/-!
# The marketplace and the page of an order

`readMarketplace` lists what the factory announced and asks each clone for its state;
`readOrder` reads the storage of one clone. Both look at the shared store again after they
have waited for the node, when sweeps of other requests may have filled it further.
-/
namespace VapiArc.App

open Escrow Transition

structure MarketplaceOrder where
  address : Address
  seller : Address
  buyer : Address
  token : Address
  amount : String
  offerDeadline : ℚ
  workDuration : ℚ
  reviewWindow : ℚ
  termsHash : Bytes32
  state : Nat
  blockNumber : String
  deriving DecidableEq

structure MarketplaceSnapshot where
  orders : List MarketplaceOrder
  blockNumber : Option String := none
  error : Option String := none

structure OrderSnapshot extends MarketplaceOrder where
  resolution : Nat
  deliveryHash : Bytes32
  workDeadline : ℚ
  reviewDeadline : ℚ
  disputedAt : ℚ
  counterEvidenceDeadline : ℚ
  disputeRaisedBy : Option Address

def MOCK_ORDER : Address := 0x1000000000000000000000000000000000000001
def MOCK_BUYER : Address := 0x2000000000000000000000000000000000000001
def MOCK_SELLER : Address := 0x3000000000000000000000000000000000000001

/-- A hash of 64 equal digits. -/
def repeated (digit : Nat) : Bytes32 := Nat.ofDigits 16 (List.replicate 64 digit)

def ZERO_HASH : Bytes32 := repeated 0
def TERMS_HASH : Bytes32 := repeated 1
def DELIVERY_HASH : Bytes32 := repeated 2

/-- The orders that are shown in place of a chain. -/
def mockOrders (usdc : Address) (now : Nat) : List MarketplaceOrder :=
  [{ address := MOCK_ORDER
     seller := MOCK_SELLER
     buyer := MOCK_BUYER
     token := usdc
     amount := "125000000"
     offerDeadline := now + 86400
     workDuration := 604800
     reviewWindow := 172800
     termsHash := TERMS_HASH
     state := 3
     blockNumber := "1240091" },
   { address := 0x1000000000000000000000000000000000000002
     seller := 0x3000000000000000000000000000000000000002
     buyer := MOCK_BUYER
     token := usdc
     amount := "48000000"
     offerDeadline := now + 43200
     workDuration := 259200
     reviewWindow := 86400
     termsHash := repeated 3
     state := 5
     blockNumber := "1240082" },
   { address := 0x1000000000000000000000000000000000000003
     seller := MOCK_SELLER
     buyer := 0x2000000000000000000000000000000000000003
     token := usdc
     amount := "300000000"
     offerDeadline := now - 172800
     workDuration := 432000
     reviewWindow := 86400
     termsHash := repeated 4
     state := 4
     blockNumber := "1240044" }]

/-- The row of a creation, with the state that the clone answered, if it did. -/
def marketplaceOrder (log : Log EscrowCreated) (state : Option Uint8) : MarketplaceOrder where
  address := log.args.escrow
  seller := log.args.seller
  buyer := log.args.buyer
  token := log.args.token
  amount := toString log.args.amount.val
  offerDeadline := numberOf log.args.offerDeadline
  workDuration := numberOf log.args.workDuration
  reviewWindow := numberOf log.args.reviewWindow
  termsHash := log.args.termsHash
  state := state.elim 0 (·.val)
  blockNumber := toString (log.blockNumber.getD 0)

/-- The message of what was thrown, if that is an `Error`. -/
def failureText (thrown : Option String) : String := thrown.getD "Arc RPC read failed"

/-- `synced` is how `syncLogStore` ends, with the shared store as it is `before` the states are
asked for and `after` they have come. -/
def readMarketplace (config : ChainRuntimeConfig) (usdc : Address) (now : Nat)
    (synced : Except (Option String) (Option String)) (before after : SweptStore)
    (multicall : List Address → Except (Option String) (List (Option Uint8))) :
    MarketplaceSnapshot :=
  if config.mock then { orders := mockOrders usdc now, blockNumber := some "1240100" }
  else if config.contracts.factory = none then { orders := [] }
  else
    match synced with
    | .error thrown => { orders := [], error := some (failureText thrown) }
    | .ok error =>
      if error.any (· ≠ "") && before.created.isEmpty then { orders := [], error }
      else
        match multicall (before.created.map fun log => log.args.escrow) with
        | .error thrown => { orders := [], error := some (failureText thrown) }
        | .ok stateResults =>
          -- the list is the store's own, and may be longer by now than the answers
          { orders := (after.created.mapIdx fun index log =>
              marketplaceOrder log (stateResults[index]?).join).reverse
            blockNumber := some (toString after.cursor)
            error }

/-- What `readOrder` reads of a clone. -/
structure OrderValues where
  state : Uint8
  resolution : Uint8
  buyer : Address
  seller : Address
  token : Address
  amount : Uint256
  termsHash : Bytes32
  deliveryHash : Bytes32
  offerDeadline : Uint64
  workDeadline : Uint64
  reviewDeadline : Uint64
  disputedAt : Uint64
  counterEvidenceDeadline : Uint64

/-- The getters of a clone. -/
def OrderValues.of (c : EscrowV1) : OrderValues where
  state := c.state.toUint8
  resolution := c.resolution.toUint8
  buyer := c.buyer
  seller := c.seller
  token := c.token
  amount := c.amount
  termsHash := c.termsHash
  deliveryHash := c.deliveryHash
  offerDeadline := c.offerDeadline
  workDeadline := c.workDeadline
  reviewDeadline := c.reviewDeadline
  disputedAt := c.disputedAt
  counterEvidenceDeadline := c.counterEvidenceDeadline

/-- The order that is shown in place of one on a chain. -/
def mockOrder (now : Nat) (base : MarketplaceOrder) : OrderSnapshot where
  toMarketplaceOrder := base
  resolution := 0
  deliveryHash := if base.state ≥ 3 then DELIVERY_HASH else ZERO_HASH
  workDeadline := now + 172800
  reviewDeadline := now + 39600
  disputedAt := if base.state = 4 then now - 3600 else 0
  counterEvidenceDeadline := if base.state = 4 then now + 18000 else 0
  disputeRaisedBy := if base.state = 4 then some base.buyer else none

def orderSnapshot (address : Address) (created : Log EscrowCreated) (values : OrderValues)
    (opened : Option (Log DisputeOpened)) : OrderSnapshot where
  address
  state := values.state.val
  resolution := values.resolution.val
  buyer := values.buyer
  seller := values.seller
  token := values.token
  amount := toString values.amount.val
  termsHash := values.termsHash
  deliveryHash := values.deliveryHash
  offerDeadline := numberOf values.offerDeadline
  workDeadline := numberOf values.workDeadline
  reviewDeadline := numberOf values.reviewDeadline
  disputedAt := numberOf values.disputedAt
  counterEvidenceDeadline := numberOf values.counterEvidenceDeadline
  disputeRaisedBy := opened.map fun log => log.args.raisedBy
  workDuration := numberOf created.args.workDuration
  reviewWindow := numberOf created.args.reviewWindow
  blockNumber := toString (created.blockNumber.getD 0)

/-- A failing read is thrown. -/
def readOrder (config : ChainRuntimeConfig) (usdc : Address) (now : Nat) (address : Address)
    (synced : Except String (Option String)) (before after : SweptStore)
    (multicall : Address → Except String OrderValues) : Except String (Option OrderSnapshot) :=
  if config.mock then
    return ((mockOrders usdc now).find? fun order => order.address = address).map (mockOrder now)
  else if config.contracts.factory = none then return none
  else do
    let error ← synced
    match (before.created.filter fun log => log.args.escrow = address).getLast? with
    | none =>
      match error.filter (· ≠ "") with
      | some message => throw message
      | none => return none
    | some created =>
      let values ← multicall address
      let opened := (after.opened.filter fun log => log.args.escrow = address).getLast?
      return some (orderSnapshot address created values opened)

section View

variable {config : ChainRuntimeConfig} {d : Deployment} {start u u' : World}
  {s s' : SyncState} {between : List (SyncState × SyncEvent)} {history history' : History}

/-- A registered address holds code for good, which is never in the sentinel state. -/
theorem registered_state {v : World} {later : History} {e : Address} (run : Escrow.Run d start history u)
    (future : Transition.Run (system d) u later v) (registered : u.factory.isEscrow e = true) :
    ∃ c, v.escrows e = some c ∧ c.state ≠ .none := by
  obtain ⟨fresh, stored⟩ := (run.registered.deployed e).mp registered
  obtain ⟨c, clone⟩ := Option.ne_none_iff_exists'.mp stored
  obtain ⟨c', clone', -⟩ := run_terms future clone
  have whole : Escrow.Run d start (later ++ history) v := ⟨run.genesis, run.run.trans future⟩
  exact ⟨c', clone', (whole.registered.listed e c' fresh clone').initialized⟩

theorem toUint8_ne_zero {state : State} (known : state ≠ .none) : state.toUint8.val ≠ 0 := by
  cases state with
  | none => exact absurd rfl known
  | _ => decide

/-! ### The marketplace -/

/-- The terms that the row shows are those of a clone. -/
structure MarketplaceOrder.Shows (row : MarketplaceOrder) (t : Terms) : Prop where
  seller : row.seller = t.seller
  buyer : row.buyer = t.buyer
  token : row.token = t.token
  amount : row.amount = toString t.amount.val
  offerDeadline : row.offerDeadline = numberOf t.offerDeadline
  workDuration : row.workDuration = numberOf t.workDuration
  reviewWindow : row.reviewWindow = numberOf t.reviewWindow
  termsHash : row.termsHash = t.termsHash

theorem marketplaceOrder_shows (log : Log EscrowCreated) (state : Option Uint8) :
    (marketplaceOrder log state).Shows log.args.terms := by
  constructor <;> rfl

/-- The clone's state at some time after `u`, as it answers `state()`. -/
def StateSince (d : Deployment) (u : World) (e : Address) (code : Nat) : Prop :=
  ∃ later v, Transition.Run (system d) u later v ∧ code = (v.stateOf e).toUint8.val

theorem Followed.registered (followed : Followed config d start s history u)
    {log : Log EscrowCreated} (there : log ∈ s.store.created) :
    u.factory.isEscrow log.args.escrow = true := by
  have announced := followed.created.mem_iff.mp (List.mem_map_of_mem there)
  exact (followed.run.announced.1.mem _).mp (List.mem_map_of_mem announced)

theorem Followed.listed (followed : Followed config d start s history u) {e : Address}
    (known : u.factory.isEscrow e = true) : ∃ log ∈ s.store.created, log.args.escrow = e := by
  obtain ⟨args, there, own⟩ := List.mem_map.mp ((followed.run.announced.1.mem _).mpr known)
  obtain ⟨log, inside, rfl⟩ := List.mem_map.mp (followed.created.mem_iff.mpr there)
  exact ⟨log, inside, own⟩

/-- The row shows a clone as it was at some time after `u`. -/
def MarketplaceOrder.Since (row : MarketplaceOrder) (d : Deployment) (u : World) : Prop :=
  ∃ later v c, Transition.Run (system d) u later v ∧ v.escrows row.address = some c ∧
    row.Shows c.terms ∧ row.state = c.state.toUint8.val ∧ row.state ≠ 0

/-- The answer of a clone that the store knew of when its state was asked for. -/
theorem StateSince.row {log : Log EscrowCreated} {code : Uint8}
    (since : StateSince d u log.args.escrow code.val)
    (followed : Followed config d start s history u) (there : log ∈ s.store.created) :
    (marketplaceOrder log (some code)).Since d u := by
  obtain ⟨later, v, future, answer⟩ := since
  obtain ⟨c, clone, known⟩ := registered_state followed.run future (followed.registered there)
  obtain ⟨c₀, clone₀, announced⟩ := followed.run.announced.2 _
    (followed.created.mem_iff.mp (List.mem_map_of_mem there))
  obtain ⟨c₁, clone₁, kept⟩ := run_terms future clone₀
  rw [clone] at clone₁
  cases clone₁
  rw [World.stateOf_some clone] at answer
  refine ⟨later, v, c, future, clone, ?_, answer, ?_⟩
  · rw [kept.trans announced]
    exact marketplaceOrder_shows log (some code)
  · show code.val ≠ 0
    rw [answer]
    exact toUint8_ne_zero known

/-- The states that the node tells, each as it is by then; an answer may be missing. -/
structure StatesRead (d : Deployment) (u : World) (addresses : List Address)
    (results : List (Option Uint8)) : Prop where
  length : results.length = addresses.length
  state : ∀ (i : Nat) e (code : Uint8), addresses[i]? = some e → results[i]? = some (some code) →
    StateSince d u e code.val

/-- The rows of the store's creations, whatever the clones answered. -/
theorem readMarketplace_orders {usdc : Address} {now : Nat} {error : Option String}
    {before after : SweptStore}
    {multicall : List Address → Except (Option String) (List (Option Uint8))}
    {results : List (Option Uint8)} (live : config.mock = false)
    (configured : config.contracts.factory ≠ none) (shown : error = none ∨ before.created ≠ [])
    (answered : multicall (before.created.map fun log => log.args.escrow) = .ok results) :
    (readMarketplace config usdc now (.ok error) before after multicall).orders =
      (after.created.mapIdx fun index log =>
        marketplaceOrder log (results[index]?).join).reverse := by
  have going : (error.any (· ≠ "") && before.created.isEmpty) = false := by
    rcases shown with rfl | some_
    · rfl
    · simp [some_]
  simp only [readMarketplace, live, configured, going, answered, Bool.false_eq_true, if_false]

/-- A row that is asked for shows the state that its clone answered. -/
theorem state_of_row {before after : List (Log EscrowCreated)} {results : List (Option Uint8)}
    (grown : before <+: after)
    (read : StatesRead d u (before.map fun log => log.args.escrow) results) {i : Nat}
    {log : Log EscrowCreated} (row : after[i]? = some log) {code : Uint8}
    (answer : (results[i]?).join = some code) :
    StateSince d u log.args.escrow code.val ∧ log ∈ before := by
  have found : results[i]? = some (some code) := Option.join_eq_some_iff.mp answer
  have below : i < before.length := by
    have := (List.getElem?_eq_some_iff.mp found).1
    rw [read.length, List.length_map] at this
    exact this
  -- what was there when the states were asked for is still in its place
  have same : before[i]? = some log := by
    rw [← row, List.getElem?_eq_getElem below, grown.getElem below, List.getElem?_eq_getElem]
  refine ⟨read.state i _ code ?_ found, List.mem_of_getElem? same⟩
  simp [same]

theorem Followed.factory (followed : Followed config d start s history u) :
    config.contracts.factory ≠ none := by
  rw [followed.configured]
  exact Option.some_ne_none _

theorem Followed.announced (followed : Followed config d start s history u) {log : Log EscrowCreated}
    (there : log ∈ s.store.created) : log.args ∈ History.events d Event.created? history :=
  followed.created.mem_iff.mp (List.mem_map_of_mem there)

/-- Whatever the clones answered, the rows are of the clones that were announced. -/
theorem Followed.addresses (followed : Followed config d start s history u)
    (results : List (Option Uint8)) :
    ((s.store.created.mapIdx fun index log =>
        marketplaceOrder log (results[index]?).join).map MarketplaceOrder.address).Perm
      ((History.events d Event.created? history).map EscrowCreated.escrow) := by
  have same := followed.created.map EscrowCreated.escrow
  rw [List.map_map] at same
  apply (List.Perm.of_eq _).trans same
  apply List.ext_getElem?
  intro i
  cases row : s.store.created[i]? <;> simp [row, marketplaceOrder]

/-- The terms of a creation are those of its clone, and these were agreed upon. -/
theorem Followed.agreed (followed : Followed config d start s history u) {log : Log EscrowCreated}
    (there : log ∈ s.store.created) (state : Option Uint8) :
    ∃ c, u.escrows log.args.escrow = some c ∧ (marketplaceOrder log state).Shows c.terms ∧
      Agreement d log.args.escrow c.terms := by
  have registered := followed.run.registered
  obtain ⟨c, clone, same⟩ := followed.run.announced.2 _ (followed.announced there)
  have known := ((registered.deployed _).mp (followed.registered there)).1
  exact ⟨c, clone, same ▸ marketplaceOrder_shows log state,
    (registered.listed _ c known clone).agreement⟩

/-- When every clone has answered, so has the one of a row that was asked for. -/
theorem Followed.asked (followed : Followed config d start s history u)
    (followed' : Followed config d start s' history' u') {results : List (Option Uint8)}
    (grown : s.store.created <+: s'.store.created)
    (read : StatesRead d u (s.store.created.map fun log => log.args.escrow) results)
    (complete : none ∉ results) {i : Nat} (below : i < s'.store.created.length)
    (known : u.factory.isEscrow (s'.store.created[i]).args.escrow = true) :
    ∃ code, (results[i]?).join = some code := by
  obtain ⟨log, inside, own⟩ := followed.listed known
  obtain ⟨j, early, rfl⟩ := List.mem_iff_getElem.mp inside
  -- no address has two rows, so it was asked for in the place of this very row
  have place : j = i := by
    have distinct := (followed'.addresses results).nodup_iff.mpr followed'.run.announced.1.nodup
    have late : j < s'.store.created.length := early.trans_le grown.length_le
    apply (List.getElem?_inj (by simpa using late) distinct).mp
    simpa [grown.getElem early, marketplaceOrder, late, below] using own
  subst place
  have short : j < results.length := by
    rw [read.length, List.length_map]
    exact early
  cases result : results[j] with
  | none => exact absurd (result ▸ List.getElem_mem short) complete
  | some code => exact ⟨code, by simp [List.getElem?_eq_getElem short, result]⟩

variable (config) in
/-- The marketplace has one row for each clone that is registered at the block of the store,
with the terms that the clone keeps. A row's state is one that the clone has had since the
states were asked for, or 0, which no registered clone answers; it is never 0 when the clone
was registered by then and every clone answered. -/
theorem readMarketplace_refines (usdc : Address) (now : Nat) (error : Option String)
    (multicall : List Address → Except (Option String) (List (Option Uint8)))
    {results : List (Option Uint8)} (live : config.mock = false)
    (followed : Followed config d start s history u)
    (followed' : Followed config d start s' history' u')
    (sweeping : Run (syncs config) s between s')
    (shown : error = none ∨ s.store.created ≠ [])
    (answered : multicall (s.store.created.map fun log => log.args.escrow) = .ok results)
    (read : StatesRead d u (s.store.created.map fun log => log.args.escrow) results) :
    let orders := (readMarketplace config usdc now (.ok error) s.store s'.store multicall).orders
    (orders.map MarketplaceOrder.address).Nodup ∧
    (∀ e, e ∈ orders.map MarketplaceOrder.address ↔ u'.factory.isEscrow e = true) ∧
    ∀ row ∈ orders, (∃ c, u'.escrows row.address = some c ∧ row.Shows c.terms ∧
        Agreement d row.address c.terms) ∧
      (row.state = 0 ∨ row.Since d u) ∧
      (u.factory.isEscrow row.address = true → none ∉ results → row.Since d u) := by
  obtain ⟨roll, -⟩ := followed'.run.announced
  have grown := (syncs_grow sweeping).created
  have addresses := followed'.addresses results
  simp only [readMarketplace_orders live followed.factory shown answered]
  refine ⟨?_, fun e => ?_, fun row member => ?_⟩
  · rw [List.map_reverse, List.nodup_reverse]
    exact addresses.nodup_iff.mpr roll.nodup
  · rw [List.map_reverse, List.mem_reverse, addresses.mem_iff]
    exact roll.mem e
  · obtain ⟨i, below, rfl⟩ := List.mem_mapIdx.mp (List.mem_reverse.mp member)
    have row : s'.store.created[i]? = some s'.store.created[i] := List.getElem?_eq_getElem below
    -- an answer that is there is one of a clone that was asked
    have since {code : Uint8} (answer : (results[i]?).join = some code) :
        (marketplaceOrder s'.store.created[i] (results[i]?).join).Since d u := by
      obtain ⟨since, asked⟩ := state_of_row grown read row answer
      rw [answer]
      exact since.row followed asked
    refine ⟨followed'.agreed (List.getElem_mem below) _, ?_, fun known complete => ?_⟩
    · cases answer : (results[i]?).join with
      | none => exact .inl rfl
      | some code => exact .inr (answer ▸ since answer)
    · obtain ⟨code, answer⟩ := followed.asked followed' grown read complete below known
      exact since answer

section Walkthrough

open MirrorWalkthrough

/-- Every clone answers with the state it has in the end. -/
def statesNow (addresses : List Address) : List (Option Uint8) :=
  addresses.map fun e => some (world.stateOf e).toUint8

theorem statesNow_read (addresses : List Address) :
    StatesRead installation world addresses (statesNow addresses) := by
  constructor
  · simp [statesNow]
  · intro i e code asked answer
    refine ⟨[], world, .refl, ?_⟩
    have same : (world.stateOf e).toUint8 = code := by simpa [statesNow, asked] using answer
    rw [same]

theorem statesNow_complete (addresses : List Address) : none ∉ statesNow addresses := by
  simp [statesNow]

/-- The row of the order that is settled. -/
theorem readMarketplace_refines_walkthrough :
    ∃ row ∈ (readMarketplace walkthroughConfig 1 0 (.ok none) reached.store reached.store
      fun addresses => .ok (statesNow addresses)).orders,
      row.address = Walkthrough.escrow 0 ∧ row.Since installation world := by
  obtain ⟨-, listed, rows⟩ := readMarketplace_refines walkthroughConfig 1 0 none
    (fun addresses => .ok (statesNow addresses)) rfl followed followed .refl (.inl rfl) rfl
    (statesNow_read _)
  have known : world.factory.isEscrow (Walkthrough.escrow 0) = true := by decide +kernel
  obtain ⟨row, member, own⟩ := List.mem_map.mp ((listed _).mpr known)
  exact ⟨row, member, own, (rows row member).2.2 (by rw [own]; exact known) (statesNow_complete _)⟩

end Walkthrough

/-! ### One order -/

/-- The page shows what the clone stores. -/
structure OrderSnapshot.Shows (row : OrderSnapshot) (c : EscrowV1) : Prop where
  terms : row.toMarketplaceOrder.Shows c.terms
  state : row.state = c.state.toUint8.val
  resolution : row.resolution = c.resolution.toUint8.val
  deliveryHash : row.deliveryHash = c.deliveryHash
  workDeadline : row.workDeadline = numberOf c.workDeadline
  reviewDeadline : row.reviewDeadline = numberOf c.reviewDeadline
  disputedAt : row.disputedAt = numberOf c.disputedAt
  counterEvidenceDeadline : row.counterEvidenceDeadline = numberOf c.counterEvidenceDeadline

/-- The durations come from the creation, all else from the clone, and they agree. -/
theorem orderSnapshot_shows {address : Address} {created : Log EscrowCreated} {c : EscrowV1}
    (opened : Option (Log DisputeOpened)) (agreed : created.args.terms = c.terms) :
    (orderSnapshot address created (.of c) opened).Shows c := by
  have workDuration : created.args.workDuration = c.workDuration := congrArg Terms.workDuration agreed
  have reviewWindow : created.args.reviewWindow = c.reviewWindow := congrArg Terms.reviewWindow agreed
  constructor
  · constructor
    all_goals first | rfl | simp only [orderSnapshot, workDuration, reviewWindow, EscrowV1.terms]
  all_goals rfl

theorem getLast?_filter {α : Type} {p : α → Bool} {l : List α} {a : α}
    (found : (l.filter p).getLast? = some a) : a ∈ l ∧ p a = true :=
  List.mem_filter.mp (List.mem_of_getLast? found)

theorem getLast?_filter_none {α : Type} {p : α → Bool} {l : List α}
    (missing : (l.filter p).getLast? = none) : ∀ a ∈ l, p a = false := by
  intro a member
  have empty := List.getLast?_eq_none_iff.mp missing
  simpa using List.filter_eq_nil_iff.mp empty a member

/-- An address that is not registered has no creation. -/
theorem Followed.unlisted (followed : Followed config d start s history u) {e : Address}
    (unknown : u.factory.isEscrow e = false) :
    (s.store.created.filter fun log => log.args.escrow = e).getLast? = none := by
  by_contra some_
  obtain ⟨log, last⟩ := Option.ne_none_iff_exists'.mp some_
  obtain ⟨there, own⟩ := getLast?_filter last
  have known := followed.registered there
  rw [of_decide_eq_true own, unknown] at known
  cases known

/-- The page of a registered address finds the creation. -/
theorem Followed.creation (followed : Followed config d start s history u) {e : Address}
    (known : u.factory.isEscrow e = true) : ∃ created ∈ s.store.created,
      (s.store.created.filter fun log => log.args.escrow = e).getLast? = some created ∧
        created.args.escrow = e := by
  cases last : (s.store.created.filter fun log => log.args.escrow = e).getLast? with
  | none =>
    obtain ⟨log, inside, own⟩ := followed.listed known
    exact absurd own (of_decide_eq_false (getLast?_filter_none last log inside))
  | some created =>
    obtain ⟨there, own⟩ := getLast?_filter last
    exact ⟨created, there, rfl, of_decide_eq_true own⟩

/-- The clone of a creation keeps its terms. -/
theorem Followed.kept (followed : Followed config d start s history u) {created : Log EscrowCreated}
    (there : created ∈ s.store.created) {v : World} {later : History} {c : EscrowV1}
    (future : Transition.Run (system d) u later v) (clone : v.escrows created.args.escrow = some c) :
    created.args.terms = c.terms := by
  obtain ⟨c₀, clone₀, same⟩ := followed.run.announced.2 _ (followed.announced there)
  obtain ⟨c₁, clone₁, kept⟩ := run_terms future clone₀
  rw [clone] at clone₁
  cases clone₁
  exact same.symm.trans kept.symm

/-- The party that a log names as the raiser of a dispute is the one that the clone remembers. -/
theorem Followed.raiser (followed : Followed config d start s history u) {created : Log EscrowCreated}
    (there : created ∈ s.store.created) {opened : Log DisputeOpened} (logged : opened ∈ s.store.opened)
    (own : opened.args.escrow = created.args.escrow) :
    ∃ c, u.escrows created.args.escrow = some c ∧ c.terms = created.args.terms ∧
      c.Party opened.args.raisedBy ∧ ∀ w more, Transition.Run (system d) u more w →
        ∃ c', w.escrows created.args.escrow = some c' ∧ c'.disputeRaisedBy = opened.args.raisedBy := by
  obtain ⟨c, clone, -, agreement⟩ := followed.agreed there none
  obtain ⟨c', clone', raised⟩ := followed.run.raisers opened.args
    (followed.opened.mem_iff.mp (List.mem_map_of_mem logged)) (own ▸ agreement.clone)
  rw [own, clone] at clone'
  cases clone'
  refine ⟨c, clone, (followed.kept there .refl clone).symm, raised.party, ?_⟩
  intro w more further
  obtain ⟨c', stored, kept⟩ := run_raisedBy further clone raised
  exact ⟨c', stored, kept.stored⟩

/-- A clone that is disputed has a log that says so. -/
theorem Followed.disputed (followed : Followed config d start s history u) {e : Address} {c : EscrowV1}
    (clone : u.escrows e = some c) (disputed : u.stateOf e = .disputed) :
    (s.store.opened.filter fun log => log.args.escrow = e).getLast? ≠ none := by
  have pending := followed.run.pending clone ((World.stateOf_some clone).symm.trans disputed)
  have opened := (followed.run.openings.mem e).mpr (by simpa using pending.known)
  obtain ⟨args, listed, own⟩ := List.mem_map.mp opened
  obtain ⟨log, inside, rfl⟩ := List.mem_map.mp (followed.opened.mem_iff.mpr listed)
  intro missing
  exact of_decide_eq_false (getLast?_filter_none missing log inside) own

variable (config) in
/-- The page of an address is there exactly if the factory registered it by the block of the
store, and shows what the clone stores when it is read. A party that it names as the one who
raised the dispute is one, and the one that the clone remembers from then on; and it names one
if the clone was disputed by the block of the store as it is in the end. -/
theorem readOrder_refines (usdc : Address) (now : Nat) (error : Option String) (address : Address)
    {v : World} {later : History} (multicall : Address → Except String OrderValues)
    (live : config.mock = false) (followed : Followed config d start s history u)
    (followed' : Followed config d start s' history' u')
    (sweeping : Run (syncs config) s between s')
    (future : Transition.Run (system d) u later v)
    (read : ∀ c, v.escrows address = some c → multicall address = .ok (.of c)) :
    let page := readOrder config usdc now address (.ok error) s.store s'.store multicall
    (u.factory.isEscrow address = false → ∀ row, page ≠ .ok (some row)) ∧
    (u.factory.isEscrow address = true → ∃ row c, page = .ok (some row) ∧
      v.escrows address = some c ∧ row.address = address ∧ row.Shows c ∧
      (∀ party ∈ row.disputeRaisedBy, c.Party party ∧
        ∀ w more, Transition.Run (system d) u' more w →
          ∃ c', w.escrows address = some c' ∧ c'.disputeRaisedBy = party) ∧
      (u'.stateOf address = .disputed → row.disputeRaisedBy ≠ none)) := by
  simp only [readOrder, live, followed.factory, Bool.false_eq_true, if_false]
  constructor
  · intro unknown row
    simp only [followed.unlisted unknown, bind, Except.bind]
    cases error.filter (· ≠ "") with
    | some message => exact fun same => by cases same
    | none => exact fun same => by cases same
  · intro known
    obtain ⟨created, there, last, rfl⟩ := followed.creation known
    obtain ⟨c, clone, -⟩ := registered_state followed.run future known
    have agreed := followed.kept there future clone
    have there' := (syncs_grow sweeping).created.subset there
    simp only [last, bind, Except.bind, read c clone]
    refine ⟨_, c, rfl, clone, rfl, orderSnapshot_shows _ agreed, ?_, ?_⟩
    · intro party named
      obtain ⟨log, last, rfl⟩ := Option.map_eq_some_iff.mp named
      obtain ⟨logged, own⟩ := getLast?_filter last
      obtain ⟨c', -, same, party, stored⟩ := followed'.raiser there' logged (of_decide_eq_true own)
      -- the parties are among the terms
      have seller : c'.seller = c.seller := congrArg Terms.seller (same.trans agreed)
      have buyer : c'.buyer = c.buyer := congrArg Terms.buyer (same.trans agreed)
      rw [EscrowV1.Party, seller, buyer] at party
      exact ⟨party, stored⟩
    · intro disputed
      obtain ⟨c', clone', -⟩ := followed'.agreed there' none
      obtain ⟨log, last⟩ := Option.ne_none_iff_exists'.mp (followed'.disputed clone' disputed)
      simp [orderSnapshot, last]

section Walkthrough

open MirrorWalkthrough

/-- The page of the order that is settled. -/
theorem readOrder_refines_walkthrough :
    ∃ row c, readOrder walkthroughConfig 1 0 (Walkthrough.escrow 0) (.ok none) reached.store
        reached.store (fun e => .ok (.of ((world.escrows e).getD {}))) = .ok (some row) ∧
      world.escrows (Walkthrough.escrow 0) = some c ∧ row.Shows c := by
  have known : world.factory.isEscrow (Walkthrough.escrow 0) = true := by decide +kernel
  obtain ⟨row, c, page, clone, -, shows, -⟩ := (readOrder_refines walkthroughConfig 1 0 none
    (Walkthrough.escrow 0) (fun e => .ok (.of ((world.escrows e).getD {}))) rfl followed followed
    .refl .refl fun c stored => by rw [stored]; rfl).2 known
  exact ⟨row, c, page, clone, shows⟩

end Walkthrough

end View

end VapiArc.App
