import VapiArc.Escrow.Registration

/-!
# Where the escrowed tokens are

No clone ever has an allowance open between two calls, so that tokens leave a clone
only in its own settlement. That is the strengthening under which a funded clone
stays covered.
-/
namespace VapiArc.Escrow

open Erc20 Erc20.Ledger Function

variable {d : Deployment} {start w w' : World} {tx : Tx} {history : History} {e : Address}

/-- What a change that settles nothing leaves of the funds. -/
structure Holds (d : Deployment) (w w' : World) : Prop where
  keeps : ∀ a, d.CloneAddress a → Keeps w.token w'.token a
  unresolved : ∀ a c', w'.escrows a = some c' → c'.state = .resolved → w.escrows a = some c'
  backed : ∀ a c', w'.escrows a = some c' → c'.state.Live →
    (∃ c, w.escrows a = some c ∧ c.state.Live ∧ c'.amount = c.amount) ∨
    c'.amount.val ≤ w'.token.balanceOf a

/-- A change that writes one clone without resolving it. -/
theorem Holds.write {c' : EscrowV1} (keeps : ∀ a, d.CloneAddress a → Keeps w.token w'.token a)
    (written : w'.escrows = update w.escrows e (some c')) (open' : c'.state ≠ .resolved)
    (backed : c'.state.Live → (∃ c, w.escrows e = some c ∧ c.state.Live ∧ c'.amount = c.amount) ∨
      c'.amount.val ≤ w'.token.balanceOf e) : Holds d w w' := by
  refine ⟨keeps, ?_, ?_⟩
  · intro a b found resolved
    by_cases own : a = e
    · rw [written, own, update_self] at found
      cases found
      exact absurd resolved open'
    · rwa [written, update_of_ne own] at found
  · intro a b found live
    by_cases own : a = e
    · subst own
      rw [written, update_self] at found
      cases found
      exact backed live
    · rw [written, update_of_ne own] at found
      exact .inl ⟨b, found, live, rfl⟩

theorem Holds.same (keeps : ∀ a, d.CloneAddress a → Keeps w.token w'.token a)
    (escrows : w'.escrows = w.escrows) : Holds d w w' := by
  refine ⟨keeps, fun a c found _ => escrows ▸ found, fun a c found live => ?_⟩
  exact .inl ⟨c, escrows ▸ found, live, rfl⟩

/-- A change settles one funded clone, or leaves the funds where they are. -/
theorem Change.funds (change : Change d w tx w') : Holds d w w' ∨
    ∃ e c result, w.escrows e = some c ∧ c.state.Live ∧ result ≠ .none ∧
      Settlement d e c.buyer c.seller (Payout.of result c.amount.val) w.token w'.token ∧
      w'.escrows = update w.escrows e (some (c.settled result)) := by
  have still (a : Address) (_ : d.CloneAddress a) : Keeps w.token w.token a := Keeps.refl _ a
  cases change with
  | idle => exact .inl (.same still rfl)
  | ledger l keeps => exact .inl (.same keeps rfl)
  | registry r => exact .inl (.same still rfl)
  | panel owner factory => exact .inl (.same still rfl)
  | created call creation =>
    exact .inl (.write still rfl nofun fun live => absurd rfl live.ne.1)
  | @funded e c l workDeadline call funding =>
    left
    -- the one change that makes a clone live: it has just received its amount
    refine .write funding.keeps rfl nofun fun _ => .inr ?_
    have received := funding.received
    show c.amount.val ≤ l.balanceOf e
    omega
  | cancelled call clone state late =>
    exact .inl (.write still rfl nofun fun live => absurd rfl live.ne.2.2.1)
  | delivered call clone state seller inTime deadline =>
    exact .inl (.write still rfl nofun fun _ => .inl ⟨_, clone, .inl state, rfl⟩)
  | disputed call clone state party raised evidence unopened windows =>
    exact .inl (.write still rfl nofun fun _ => .inl ⟨_, clone, .of_working state, rfl⟩)
  | countered call clone state party inTime first =>
    exact .inl (.write still rfl (by rw [state]; nofun) fun _ =>
      .inl ⟨_, clone, .inr (.inr state), rfl⟩)
  | @settled e c result l clone authority settlement =>
    have live : c.state.Live := by
      cases authority with
      | released _ state => exact .inr (.inl state)
      | refunded _ state => exact .of_working state
      | timedOut _ state => exact .inl state
      | finalized _ state => exact .inr (.inl state)
      | councilRuled _ state => exact .inr (.inr state)
    exact .inr ⟨e, c, result, clone, live, authority.state.2, settlement, rfl⟩
  | @executed e c result l call clone state due ruling settlement =>
    exact .inr ⟨e, c, result, clone, .inr (.inr state), Resolution.ofNat?_succ ruling,
      settlement, rfl⟩
  | executedElsewhere call foreign due => exact .inl (.same still rfl)
  | openedElsewhere unopened windows => exact .inl (.same still rfl)
  | committed call arbiter known pending window fresh nonzero => exact .inl (.same still rfl)
  | revealed call revealable counted => exact .inl (.same still rfl)
  | attested call attestation => exact .inl (.same still rfl)

/-- No clone has an allowance open, and every funded one is covered. -/
structure Solvent (d : Deployment) (w : World) : Prop where
  closed : ∀ a, d.CloneAddress a → Sealed w.token a
  covered : ∀ e c, w.escrows e = some c → c.state.Live → c.amount.val ≤ w.token.balanceOf e

theorem Solvent.change (solvent : Solvent d w) (registered : Registered d w)
    (change : Change d w tx w') : Solvent d w' := by
  have kept {l' : Ledger Address} {a : Address} {c : EscrowV1} (keeps : Keeps w.token l' a)
      (clone : w.escrows a = some c) (live : c.state.Live) : c.amount.val ≤ l'.balanceOf a := by
    have address := (registered.clone clone live.ne.2.2.2).agreement.clone
    exact Nat.le_trans (solvent.covered a c clone live) (keeps (solvent.closed a address)).2
  -- a settlement spends one clone's tokens; every other clone is sealed and keeps its own
  rcases change.funds with holds | ⟨e, c, result, clone, live, _, settlement, written⟩
  · refine ⟨fun a address => (holds.keeps a address (solvent.closed a address)).1, ?_⟩
    intro a c' found live
    rcases holds.backed a c' found live with ⟨c, clone, before, amount⟩ | backed
    · have address := (registered.clone clone before.ne.2.2.2).agreement.clone
      rw [amount]
      exact kept (holds.keeps a address) clone before
    · exact backed
  · constructor
    · intro a address
      by_cases own : a = e
      · subst own
        exact settlement.closed (solvent.closed a address)
      · exact (settlement.keeps own (solvent.closed a address)).1
    · intro a c' found liveAfter
      by_cases own : a = e
      · rw [written, own, update_self] at found
        cases found
        exact absurd rfl liveAfter.ne.2.1
      · rw [written, update_of_ne own] at found
        exact kept (settlement.keeps own) found liveAfter

theorem Run.solvent (run : Run d start history w) : Solvent d w := by
  refine run.invariant (Solvent d) ?_ ?_
  · intro genesis
    refine ⟨genesis.unapproved, fun a c clone live => ?_⟩
    obtain ⟨_, rfl⟩ := genesis.blank clone
    exact absurd rfl live.ne.2.2.2
  · intro v t v' registered solvent admissible change
    have after := solvent.change registered change
    exact ⟨after.closed, after.covered⟩

/-! ### Payouts -/

/-- A payout of `c`'s amount from `e` to the buyer, the seller and the treasury, after
which every other balance is what it was. -/
structure PaidOut (d : Deployment) (e : Address) (c : EscrowV1) (result : Resolution)
    (w w' : World) : Prop where
  clone : w.escrows e = some c
  live : c.state.Live
  ruled : result ≠ .none
  settled : w'.escrows e = some (c.settled result)
  total : (Payout.of result c.amount.val).total = c.amount.val
  balances : ∀ a, w'.token.balanceOf a + share e a c.amount.val = w.token.balanceOf a +
    share c.buyer a (Payout.of result c.amount.val).buyer +
    share c.seller a (Payout.of result c.amount.val).seller +
    share d.treasury a (Payout.of result c.amount.val).treasury
  taken : d.treasury ≠ e → w'.token.balanceOf e + c.amount.val = w.token.balanceOf e

theorem Resolves.paidOut (registered : Registered d w) (admissible : Admissible d w tx)
    (resolves : Resolves d e (w, tx)) :
    ∃ c result, PaidOut d e c result w (step d w tx) := by
  obtain ⟨before, after⟩ := resolves
  obtain ⟨c', storage, resolved⟩ := World.stateOf_resolved after
  rcases step_cases admissible with ⟨_, same⟩ | ⟨w', _, change, next⟩
  · rw [same] at after
    exact absurd after before
  · rw [next] at storage ⊢
    rcases change.funds with holds | ⟨e', c, result, clone, live, ruled, settlement, written⟩
    · have old := holds.unresolved e c' storage resolved
      exact absurd ((World.stateOf_some old).trans resolved) before
    · -- the only clone that this change resolves is the one that it settles
      have own : e = e' := by
        by_contra other
        have untouched : w'.escrows e = w.escrows e := by rw [written, update_of_ne other]
        have old : w.escrows e = some c' := untouched.symm.trans storage
        exact before ((World.stateOf_some old).trans resolved)
      subst own
      have balances := settlement.balances
      rw [Payout.total_of] at balances
      refine ⟨c, result, clone, live, ruled, by simp [written], Payout.total_of _ _, balances, ?_⟩
      intro notTreasury
      have listed := registered.clone clone live.ne.2.2.2
      have notBuyer : e ≠ c.buyer := (listed.funded live).2.symm
      have notSeller : e ≠ c.seller := listed.agreement.seller.ne_clone listed.agreement.clone
      have balance := balances e
      simp only [share, if_true, if_neg notBuyer, if_neg notSeller, if_neg notTreasury.symm]
        at balance
      omega

/-- Without a settlement of its own a clone loses nothing. -/
theorem Resolves.otherwise (solvent : Solvent d w) (admissible : Admissible d w tx)
    (address : d.CloneAddress e) (other : ¬ Resolves d e (w, tx)) :
    w.token.balanceOf e ≤ (step d w tx).token.balanceOf e := by
  rcases step_cases admissible with ⟨_, same⟩ | ⟨w', _, change, next⟩
  · rw [same]
  · rw [next]
    rcases change.funds with holds | ⟨e', c, result, clone, live, _, settlement, written⟩
    · exact (holds.keeps e address (solvent.closed e address)).2
    · have foreign : e ≠ e' := by
        rintro rfl
        refine other ⟨?_, ?_⟩
        · rw [World.stateOf_some clone]
          exact live.ne.2.1
        · rw [next]
          exact World.stateOf_some (c := c.settled result) (by simp [written])
      exact (settlement.keeps foreign (solvent.closed e address)).2

/-- The funds of every clone over a whole run. -/
structure FundSafety (d : Deployment) (history : History) (w : World) : Prop where
  /-- A clone in LOCKED, SUBMITTED or DISPUTED holds its amount. -/
  covered : ∀ e c, w.escrows e = some c → c.state.Live → c.amount.val ≤ w.token.balanceOf e
  /-- A transaction that does not resolve a clone takes nothing out of it. -/
  kept : ∀ entry ∈ history, ∀ e, d.CloneAddress e → ¬ Resolves d e entry →
    entry.1.token.balanceOf e ≤ (step d entry.1 entry.2).token.balanceOf e
  /-- One that does takes out exactly the amount, for the three payees and nobody else. -/
  paidOut : ∀ entry ∈ history, ∀ e, Resolves d e entry →
    ∃ c result, PaidOut d e c result entry.1 (step d entry.1 entry.2)
  /-- A clone is resolved at most once. -/
  once : ∀ e newest second between first oldest,
    history = newest ++ second :: between ++ first :: oldest →
    Resolves d e first → ¬ Resolves d e second

theorem fund_safety (run : Run d start history w) : FundSafety d history w := by
  constructor
  · exact run.solvent.covered
  · intro entry member e address other
    obtain ⟨earlier, _, _, before, admissible, _⟩ := run.run.of_mem member
    exact Resolves.otherwise (Run.mk run.genesis before).solvent admissible address other
  · intro entry member e resolves
    obtain ⟨earlier, _, _, before, admissible, _⟩ := run.run.of_mem member
    exact Resolves.paidOut (Run.mk run.genesis before).registered admissible resolves
  · intro e newest second between first oldest whole entered
    subst whole
    exact Resolves.once run.run entered

namespace Walkthrough

/-- A registered arbiter's commitment to a vote. -/
def commitment (arbiter : Address) (vote : Uint8) (salt : Bytes32) : Bytes32 :=
  hash [.address (escrow 0), .address arbiter, .uint8 vote, .bytes32 salt]

def disputed : List Tx :=
  wiring ++ createAndFund 0 ++
  [⟨⟨seller, 1⟩, .submitDelivery (escrow 0) 8⟩,
   ⟨⟨buyer, 1⟩, .raiseDispute (escrow 0) 9⟩]

def disputePath : List Tx :=
  disputed ++
  [⟨⟨arbiter1, 62⟩, .commit (escrow 0) (commitment arbiter1 1 21)⟩,
   ⟨⟨arbiter2, 62⟩, .commit (escrow 0) (commitment arbiter2 1 22)⟩,
   ⟨⟨arbiter3, 62⟩, .commit (escrow 0) (commitment arbiter3 1 23)⟩,
   ⟨⟨arbiter1, 123⟩, .reveal (escrow 0) 1 21⟩,
   ⟨⟨arbiter2, 123⟩, .reveal (escrow 0) 1 22⟩,
   ⟨⟨arbiter3, 123⟩, .reveal (escrow 0) 1 23⟩,
   ⟨⟨deployer, 123⟩, .execute (escrow 0)⟩]

end Walkthrough

/-- The walkthrough's disputed order. -/
theorem fund_safety_walkthrough :
    FundSafety (Walkthrough.deployment 600 (by decide))
      (Walkthrough.history 600 (by decide) Walkthrough.disputePath)
      (Walkthrough.state 600 (by decide) Walkthrough.disputePath) :=
  fund_safety (Walkthrough.run 600 (by decide) Walkthrough.disputePath (by decide))

end VapiArc.Escrow
