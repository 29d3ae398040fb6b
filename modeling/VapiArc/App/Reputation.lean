import VapiArc.App.Marketplace

/-!
# The page of a reputation

`readReputation` lists the attestations of a subject next to its score, which the registry
counts by itself, and the settled orders that nobody has attested yet.
-/
namespace VapiArc.App

open Escrow Transition

structure ReputationScore where
  settled : ℚ
  released : ℚ
  refunded : ℚ
  disputed : ℚ
  splits : ℚ

structure Attestation where
  escrow : Address
  seller : Address
  buyer : Address
  resolution : Nat
  blockNumber : String

structure ReputationSnapshot where
  subject : Option Address
  score : Option ReputationScore := none
  attestations : List Attestation := []
  unattested : List MarketplaceOrder := []
  error : Option String := none

/-- The reputation that is shown in place of one on a chain. -/
def mockReputation (usdc : Address) (now : Nat) (subject : Option Address) : ReputationSnapshot where
  subject
  score := subject.map fun _ =>
    { settled := 12, released := 8, refunded := 2, disputed := 3, splits := 2 }
  attestations :=
    if subject.isSome then
      [{ escrow := MOCK_ORDER
         seller := MOCK_SELLER
         buyer := MOCK_BUYER
         resolution := 1
         blockNumber := "1240098" }]
    else []
  unattested :=
    if subject.isSome then (mockOrders usdc now).filter fun order => order.state = 5 else []

def reputationScore (score : Score) : ReputationScore where
  settled := numberOf score.settled
  released := numberOf score.released
  refunded := numberOf score.refunded
  disputed := numberOf score.disputed
  splits := numberOf score.splits

def attestationRow (log : Log SettlementAttested) : Attestation where
  escrow := log.args.escrow
  seller := log.args.seller
  buyer := log.args.buyer
  resolution := log.args.resolution.val
  blockNumber := toString (log.blockNumber.getD 0)

/-- The subject's attestations, the newest first; all of them without a subject. -/
def listedAttestations (logs : List (Log SettlementAttested)) (subject : Option Address) :
    List Attestation :=
  ((logs.filter fun log =>
      subject.all fun a => log.args.seller = a || log.args.buyer = a).map attestationRow).reverse

/-- The settled orders of the subject among the rows that no attestation names. -/
def unattestedOrders (logs : List (Log SettlementAttested)) (subject : Option Address)
    (orders : List MarketplaceOrder) : List MarketplaceOrder :=
  let attested := logs.map fun log => log.args.escrow
  orders.filter fun order =>
    order.state = 5 && !attested.contains order.address &&
      (subject = some order.buyer || subject = some order.seller)

/-- `store` is the shared store as it is when the score and the marketplace have come. -/
def readReputation (config : ChainRuntimeConfig) (usdc : Address) (now : Nat)
    (subject : Option Address) (synced : Except (Option String) (Option String))
    (scoreOf : Address → Except (Option String) Score) (market : MarketplaceSnapshot)
    (store : LogStore) : ReputationSnapshot :=
  if config.mock then mockReputation usdc now subject
  else if config.contracts.reputationRegistry = none then { subject }
  else
    match synced, subject.mapM scoreOf with
    | .error thrown, _ => { subject, error := some (failureText thrown) }
    | .ok _, .error thrown => { subject, error := some (failureText thrown) }
    | .ok error, .ok score =>
      { subject
        error
        score := score.map reputationScore
        attestations := listedAttestations store.attested subject
        unattested := unattestedOrders store.attested subject
          (if subject.isSome then market.orders else []) }

section View

variable {config : ChainRuntimeConfig} {d : Deployment} {start u v : World} {s : SyncState}
  {history later : History} {a : Address}

/-- The row tells what the clone of an attested order stores for good. -/
structure Attestation.Shows (row : Attestation) (c : EscrowV1) : Prop where
  seller : row.seller = c.seller
  buyer : row.buyer = c.buyer
  resolution : row.resolution = c.resolution.toUint8.val
  final : c.state = .resolved ∧ c.resolution ≠ .none

/-- The logs of a followed store are the attestations. -/
theorem Followed.attestations (followed : Followed config d start s history u) :
    (s.store.attested.map Log.args).Perm ((attestations d history).map Attested.args) :=
  attested_events (d := d) history ▸ followed.attested

/-- The page of a subject when the node has answered. -/
theorem readReputation_answered {usdc : Address} {now : Nat} {error : Option String}
    {market : MarketplaceSnapshot} {store : LogStore}
    {scoreOf : Address → Except (Option String) Score} {score : Score}
    (live : config.mock = false) (configured : config.contracts.reputationRegistry ≠ none)
    (counted : scoreOf a = .ok score) :
    readReputation config usdc now (some a) (.ok error) scoreOf market store =
      { subject := some a
        error
        score := some (reputationScore score)
        attestations := listedAttestations store.attested (some a)
        unattested := unattestedOrders store.attested (some a) market.orders } := by
  have one : (some a).mapM scoreOf = .ok (some score) := by
    simp only [Option.mapM, counted]
    rfl
  simp only [readReputation, live, configured, one, Bool.false_eq_true, if_false]
  rfl

theorem Followed.reputation (followed : Followed config d start s history u) :
    config.contracts.reputationRegistry ≠ none := by
  rw [followed.configured]
  exact Option.some_ne_none _

section Walkthrough

open MirrorWalkthrough

end Walkthrough

/-! ### What is left to attest -/

theorem mem_unattested {logs : List (Log SettlementAttested)} {orders : List MarketplaceOrder}
    {order : MarketplaceOrder} : order ∈ unattestedOrders logs (some a) orders ↔
      order ∈ orders ∧ order.state = 5 ∧
        order.address ∉ logs.map (fun log => log.args.escrow) ∧
        (a = order.buyer ∨ a = order.seller) := by
  simp [unattestedOrders, and_assoc]

/-- The logs of a followed store name exactly the attested orders. -/
theorem Followed.isAttested (followed : Followed config d start s history u) (e : Address) :
    e ∈ s.store.attested.map (fun log => log.args.escrow) ↔ u.reputation.isAttested e = true := by
  have same := followed.attestations.map SettlementAttested.escrow
  rw [List.map_map, List.map_map] at same
  rw [← followed.run.reputed.roll.mem]
  exact same.mem_iff

/-- A row in the settled state is of a clone that is settled for good. -/
theorem MarketplaceOrder.Since.settled {order : MarketplaceOrder} (since : order.Since d u)
    (settled : order.state = 5) :
    ∃ later v c, Transition.Run (system d) u later v ∧ order.Shows c.terms ∧ c.state = .resolved ∧
      ∀ more w, Transition.Run (system d) v more w → w.escrows order.address = some c := by
  obtain ⟨later, v, c, future, clone, shows, code, -⟩ := since
  have resolved : c.state = .resolved := by
    rw [code] at settled
    cases state : c.state <;> rw [state] at settled <;> first | rfl | cases settled
  refine ⟨later, v, c, future, shows, resolved, ?_⟩
  intro more w further
  exact run_final further clone (.inl resolved)

/-- The row of a settled clone shows it. -/
theorem MarketplaceOrder.Since.resolved {order : MarketplaceOrder} (since : order.Since d u)
    {c : EscrowV1} (clone : u.escrows order.address = some c) (resolved : c.state = .resolved) :
    order.Shows c.terms ∧ order.state = 5 := by
  obtain ⟨later, v, c', future, clone', shows, code, -⟩ := since
  have kept := run_final future clone (.inl resolved)
  rw [clone'] at kept
  cases kept
  rw [code, resolved]
  exact ⟨shows, rfl⟩

theorem registered_of_resolved {e : Address} {c : EscrowV1} (run : Escrow.Run d start history u)
    (clone : u.escrows e = some c) (resolved : c.state = .resolved) :
    u.factory.isEscrow e = true := by
  have registered := run.registered
  apply (registered.deployed e).mpr
  constructor
  · -- the implementation is in no state of an order
    rintro rfl
    rw [registered.implementation] at clone
    cases clone
    cases resolved
  · rw [clone]
    exact Option.some_ne_none _

variable {s' s'' : SyncState} {u' u'' : World} {history' history'' : History}
  {between : List (SyncState × SyncEvent)}

variable (config) in
/-- What the page offers to attest is settled for good, is of the subject and had no
attestation by the block of the store; and everything is offered that was settled when the
states were asked for, if the node answered for every clone. -/
theorem readReputation_unattested (usdc : Address) (now now' : Nat)
    (error error' : Option String) (scoreOf : Address → Except (Option String) Score)
    {score : Score} (multicall : List Address → Except (Option String) (List (Option Uint8)))
    {results : List (Option Uint8)} (live : config.mock = false)
    (followed : Followed config d start s history u)
    (followed' : Followed config d start s' history' u')
    (followed'' : Followed config d start s'' history'' u'')
    (sweeping : Run (syncs config) s between s')
    (shown : error' = none ∨ s.store.created ≠ [])
    (answered : multicall (s.store.created.map fun log => log.args.escrow) = .ok results)
    (read : StatesRead d u (s.store.created.map fun log => log.args.escrow) results)
    (counted : scoreOf a = .ok score) :
    let market := readMarketplace config usdc now (.ok error') s.store s'.store multicall
    let offered := (readReputation config usdc now' (some a) (.ok error) scoreOf market
      s''.store.toLogStore).unattested
    (∀ order ∈ offered, u''.reputation.isAttested order.address = false ∧
      ∃ later v c, Transition.Run (system d) u later v ∧ order.Shows c.terms ∧ c.Party a ∧
        c.state = .resolved ∧ ∀ more w, Transition.Run (system d) v more w →
          w.escrows order.address = some c) ∧
    (none ∉ results → ∀ e c, u.escrows e = some c → c.state = .resolved → c.Party a →
      u''.reputation.isAttested e = false → e ∈ offered.map MarketplaceOrder.address) := by
  obtain ⟨-, listed, rows⟩ := readMarketplace_refines config usdc now error' multicall live
    followed followed' sweeping shown answered read
  simp only [readReputation_answered live followed.reputation counted]
  constructor
  · -- what is offered was shown as settled, and the chain has settled it for good
    intro order member
    obtain ⟨row, settled, fresh, party⟩ := mem_unattested.mp member
    rw [followed''.isAttested, Bool.not_eq_true] at fresh
    obtain ⟨-, state | since, -⟩ := rows order row
    · rw [state] at settled
      cases settled
    · obtain ⟨later, v, c, future, shows, resolved, stored⟩ := since.settled settled
      refine ⟨fresh, later, v, c, future, shows, ?_, resolved, stored⟩
      rcases party with buyer | seller
      · exact .inr (buyer.trans shows.buyer)
      · exact .inl (seller.trans shows.seller)
  · intro complete e c clone resolved party fresh
    have known := registered_of_resolved followed.run clone resolved
    -- the clone was listed before its state was asked for, and still is
    have there : u'.factory.isEscrow e = true := by
      obtain ⟨log, inside, rfl⟩ := followed.listed known
      exact followed'.registered ((syncs_grow sweeping).created.subset inside)
    obtain ⟨order, row, own⟩ := List.mem_map.mp ((listed e).mpr there)
    subst own
    obtain ⟨-, -, asked⟩ := rows order row
    obtain ⟨shows, settled⟩ := (asked known complete).resolved clone resolved
    refine List.mem_map_of_mem (mem_unattested.mpr ⟨row, settled, ?_, ?_⟩)
    · rw [followed''.isAttested, fresh]
      exact Bool.false_ne_true
    · rcases party with seller | buyer
      · exact .inr (seller.trans shows.seller.symm)
      · exact .inl (buyer.trans shows.buyer.symm)

section Walkthrough

open MirrorWalkthrough

/-- The settled order is attested, so it is not offered. -/
theorem readReputation_unattested_walkthrough :
    ((readReputation walkthroughConfig 1 0 (some Walkthrough.seller) (.ok none)
      (fun a => .ok (world.reputation.scores a))
      (readMarketplace walkthroughConfig 1 0 (.ok none) reached.store reached.store
        fun addresses => .ok (statesNow addresses)) reached.store.toLogStore).unattested.any
      fun order => order.address = Walkthrough.escrow 0) = false := by
  have offered := readReputation_unattested walkthroughConfig (a := Walkthrough.seller) 1 0 0 none
    none (fun a => .ok (world.reputation.scores a))
    (fun addresses => .ok (statesNow addresses)) rfl followed followed followed .refl (.inl rfl) rfl
    (statesNow_read _) rfl
  have attested : world.reputation.isAttested (Walkthrough.escrow 0) = true := by decide +kernel
  rw [List.any_eq_false]
  intro order member own
  have fresh := (offered.1 order member).1
  rw [of_decide_eq_true own, attested] at fresh
  cases fresh

end Walkthrough

end View

end VapiArc.App
