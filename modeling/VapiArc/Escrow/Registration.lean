import VapiArc.Escrow.Lifecycle

/-!
# Registered clones

The factory's registration is exactly the set of clones that it deployed, and a
registered clone holds a well-formed agreement from its first block on.
-/
namespace VapiArc.Escrow

open Function

variable {d : Deployment} {w w' : World} {tx : Tx} {e : Address}

/-- The states in which a clone holds a funded amount. -/
def State.Live (s : State) : Prop := s = .locked ∨ s = .submitted ∨ s = .disputed

/-- The states in which a clone was never disputed, unless it is resolved. -/
def State.Calm (s : State) : Prop := s ≠ .disputed ∧ s ≠ .resolved

instance : DecidablePred State.Calm := fun s => inferInstanceAs (Decidable (s ≠ _ ∧ s ≠ _))

theorem State.Calm.none : State.Calm .none := by decide
theorem State.Calm.created : State.Calm .created := by decide
theorem State.Calm.locked : State.Calm .locked := by decide
theorem State.Calm.submitted : State.Calm .submitted := by decide
theorem State.Calm.expired : State.Calm .expired := by decide

theorem State.Calm.of_working {s : State} (working : s = .locked ∨ s = .submitted) : s.Calm := by
  rcases working with rfl | rfl
  · exact .locked
  · exact .submitted

theorem State.Live.of_working {s : State} (working : s = .locked ∨ s = .submitted) : s.Live := by
  rcases working with locked | submitted
  · exact .inl locked
  · exact .inr (.inl submitted)

theorem State.Live.ne {s : State} (live : s.Live) :
    s ≠ .created ∧ s ≠ .resolved ∧ s ≠ .expired ∧ s ≠ .none := by
  rcases live with rfl | rfl | rfl <;> decide

/-- What the factory and `initialize` check of the terms of a clone at `e`. -/
structure Agreement (d : Deployment) (e : Address) (t : Terms) : Prop where
  address : ∃ salt, e = d.predictEscrow t.seller salt
  vacant : e ∉ d.contracts
  seller : d.External t.seller
  buyer : t.buyer ≠ 0 ∧ t.buyer ≠ t.seller
  token : t.token = d.paymentToken
  amount : t.amount ≠ 0
  durations : t.workDuration ≠ 0 ∧ t.reviewWindow ≠ 0

/-- What holds of a clone from the transaction that creates it on. -/
structure Listed (d : Deployment) (e : Address) (c : EscrowV1) : Prop where
  agreement : Agreement d e c.terms
  initialized : c.state ≠ .none
  funded : c.state.Live → e ≠ 0 ∧ c.buyer ≠ e
  result : c.resolution ≠ .none ↔ c.state = .resolved
  calm : c.state.Calm → c.disputedAt = 0

theorem Agreement.clone {t : Terms} (agreement : Agreement d e t) : d.CloneAddress e := by
  obtain ⟨salt, address⟩ := agreement.address
  exact ⟨_, salt, address⟩

/-- The buyer of a funded clone is another address: paying itself would not have
raised the clone's balance. -/
theorem EscrowV1.Funding.buyer_ne {c : EscrowV1} {l : Erc20.Ledger Address} {workDeadline : Uint64}
    (funding : EscrowV1.Funding d tx.msg w e c l workDeadline) (amount : c.amount ≠ 0) :
    c.buyer ≠ e := by
  intro self
  have paid := funding.paid e
  have received := funding.received
  have positive : c.amount.val ≠ 0 := fun zero => amount (Fin.ext zero)
  -- a buyer that is the clone would pay itself, and the balance would not have grown
  rw [self] at paid
  omega

/-- A calm clone has no resolution and no dispute. -/
theorem Listed.of_calm {c : EscrowV1} (listed : Listed d e c) (calm : c.state.Calm) :
    c.resolution = .none ∧ c.disputedAt = 0 := by
  refine ⟨?_, listed.calm calm⟩
  by_contra resolved
  exact calm.2 (listed.result.mp resolved)

theorem Move.listed {c : EscrowV1} (move : Move d w tx e c) (caller : d.External tx.msg.sender)
    (before : ∀ b, w.escrows e = some b → Listed d e b) : Listed d e c := by
  have kept {b : EscrowV1} (found : w.escrows e = some b) : Agreement d e c.terms := by
    rw [move.terms found]
    exact (before b found).agreement
  cases move with
  | created call creation =>
    exact ⟨⟨⟨_, creation.address⟩, creation.vacant.1, caller, creation.buyer,
      creation.token, creation.amount, creation.durations⟩, nofun,
      fun live => absurd rfl live.ne.1, ⟨nofun, nofun⟩, fun _ => rfl⟩
  | funded call funding =>
    have old := before _ funding.clone
    -- funding touches neither the resolution nor the dispute
    obtain ⟨unresolved, calm⟩ := old.of_calm (by rw [funding.state]; exact .created)
    exact ⟨kept funding.clone, nofun,
      fun _ => ⟨funding.receiver, funding.buyer_ne old.agreement.amount⟩,
      ⟨fun ruled => absurd unresolved ruled, nofun⟩, fun _ => calm⟩
  | cancelled call clone state late =>
    obtain ⟨unresolved, calm⟩ := (before _ clone).of_calm (by rw [state]; exact .created)
    exact ⟨kept clone, nofun, fun live => absurd rfl live.ne.2.2.1,
      ⟨fun ruled => absurd unresolved ruled, nofun⟩, fun _ => calm⟩
  | delivered call clone state seller inTime deadline =>
    have old := before _ clone
    obtain ⟨unresolved, calm⟩ := old.of_calm (by rw [state]; exact .locked)
    exact ⟨kept clone, nofun, fun _ => old.funded (.inl state),
      ⟨fun ruled => absurd unresolved ruled, nofun⟩, fun _ => calm⟩
  | @disputed c _ _ _ call clone state party raised evidence =>
    have old := before _ clone
    exact ⟨kept clone, nofun, fun _ => old.funded (.of_working state),
      ⟨fun ruled => absurd (old.of_calm (.of_working state)).1 ruled, nofun⟩,
      fun calm => absurd rfl calm.1⟩
  | countered call clone state inTime =>
    have old := before _ clone
    exact ⟨kept clone, old.initialized, old.funded, old.result, old.calm⟩
  | settled clone authority =>
    exact ⟨kept clone, nofun, fun live => absurd rfl live.ne.2.1,
      ⟨fun _ => rfl, fun _ => authority.state.2⟩, fun calm => absurd rfl calm.2⟩
  | executed call clone state ruled =>
    exact ⟨kept clone, nofun, fun live => absurd rfl live.ne.2.1,
      ⟨fun _ => rfl, fun _ => ruled⟩, fun calm => absurd rfl calm.2⟩

/-! ### The registration and the deployed clones -/

/-- Only a creation registers or deploys. -/
theorem Change.factory (change : Change d w tx w') :
    w'.factory = w.factory ∧ (∀ a, w.escrows a = none → w'.escrows a = none) ∨
    ∃ e c, Move d w tx e c ∧ w.escrows e = none ∧ e ∉ d.contracts ∧ w' = w.created e c := by
  have frame {e : Address} {c c' : EscrowV1} (clone : w.escrows e = some c) (a : Address)
      (absent : w.escrows a = none) : update w.escrows e (some c') a = none := by
    have other : a ≠ e := by
      rintro rfl
      rw [clone] at absent
      cases absent
    rw [update_of_ne other, absent]
  cases change with
  | created call creation =>
    right
    exact ⟨_, _, .created call creation, creation.vacant.2, creation.vacant.1, rfl⟩
  | funded _ funding => exact .inl ⟨rfl, frame funding.clone⟩
  | cancelled _ clone => exact .inl ⟨rfl, frame clone⟩
  | delivered _ clone => exact .inl ⟨rfl, frame clone⟩
  | disputed _ clone => exact .inl ⟨rfl, frame clone⟩
  | countered _ clone => exact .inl ⟨rfl, frame clone⟩
  | settled clone => exact .inl ⟨rfl, frame clone⟩
  | executed _ clone => exact .inl ⟨rfl, frame clone⟩
  | _ => exact .inl ⟨rfl, fun _ absent => absent⟩

theorem Diagram.entry {call : Call} {s : State} (edge : Diagram e call .none s) : s = .created := by
  cases edge with
  | createEscrow => rfl
  | raiseDispute live => rcases live with h | h <;> cases h
  | refundBuyer live => rcases live with h | h <;> cases h

/-- Storage that was never initialized is never written. -/
theorem Move.initialized {c c' : EscrowV1} (clone : w.escrows e = some c)
    (move : Move d w tx e c') : c.state ≠ .none := by
  intro blank
  have sentinel := (World.stateOf_some clone).trans blank
  rcases move.diagram with edge | ⟨disputed, _⟩
  · rw [sentinel] at edge
    have entered := edge.entry
    cases move with
    | created _ creation =>
      have vacant := creation.vacant.2
      rw [clone] at vacant
      cases vacant
    | countered _ _ state => rw [state] at entered; cases entered
    | _ => cases entered
  · rw [sentinel] at disputed
    cases disputed

/-- The registration is the set of deployed clones; the implementation is blank. -/
structure Registered (d : Deployment) (w : World) : Prop where
  implementation : w.escrows d.implementation = some {}
  deployed : ∀ e, w.factory.isEscrow e = true ↔ e ≠ d.implementation ∧ w.escrows e ≠ none
  listed : ∀ e c, e ≠ d.implementation → w.escrows e = some c → Listed d e c

/-- The implementation is the only storage that exists at the genesis. -/
theorem Genesis.blank {c : EscrowV1} (genesis : Genesis d w) (clone : w.escrows e = some c) :
    e = d.implementation ∧ c = {} := by
  rw [genesis.escrows] at clone
  by_cases own : e = d.implementation
  · simp only [own, if_true, Option.some.injEq] at clone
    exact ⟨own, clone.symm⟩
  · simp [own] at clone

theorem Genesis.registered (genesis : Genesis d w) : Registered d w := by
  refine ⟨by simp [genesis.escrows], ?_, ?_⟩
  · intro e
    rw [genesis.factory, genesis.escrows]
    simp
  · intro e c other clone
    exact absurd (genesis.blank clone).1 other

theorem Registered.clone {c : EscrowV1} (registered : Registered d w)
    (clone : w.escrows e = some c) (initialized : c.state ≠ .none) : Listed d e c := by
  refine registered.listed e c ?_ clone
  rintro rfl
  rw [registered.implementation] at clone
  cases clone
  exact initialized rfl

theorem Registered.step (registered : Registered d w) (admissible : Admissible d w tx) :
    Registered d (step d w tx) := by
  have moved (a : Address) := step_move admissible a
  refine ⟨?_, ?_, ?_⟩
  · rcases moved d.implementation with same | ⟨_, c, move, _⟩
    · exact same.trans registered.implementation
    · exact absurd rfl (move.initialized registered.implementation)
  · intro a
    rcases step_cases admissible with ⟨_, same⟩ | ⟨w', _, change, next⟩
    · rw [same]
      exact registered.deployed a
    · rw [next]
      -- only a creation registers, and it registers what it deploys
      rcases change.factory with ⟨same, absent⟩ | ⟨e, c, _, vacant, outside, rfl⟩
      · have kept : w'.escrows a ≠ none ↔ w.escrows a ≠ none := by
          refine not_congr ⟨fun gone => ?_, absent a⟩
          rcases change.escrows with storage | ⟨e, c, _, storage⟩
          · rwa [storage] at gone
          · by_cases own : a = e
            · rw [storage, own, update_self] at gone
              cases gone
            · rwa [storage, update_of_ne own] at gone
        simp only [same, kept]
        exact registered.deployed a
      · by_cases own : a = e
        · subst own
          have fresh : a ≠ d.implementation := by
            rintro rfl
            exact outside (by simp [Setup.contracts])
          simp [World.created, fresh]
        · simpa [World.created, own] using registered.deployed a
  · intro a c clone found
    rcases moved a with same | ⟨_, c', move, storage⟩
    · exact registered.listed a c clone (same.symm.trans found)
    · rw [storage] at found
      cases found
      exact move.listed admissible.2 (fun b => registered.listed a b clone)

theorem Run.registered {start : World} {history : History} (run : Run d start history w) :
    Registered d w :=
  run.run.invariant (Registered d) run.genesis.registered fun _ _ registered admissible =>
    registered.step admissible

/-- What holds at the genesis and survives every change holds always. -/
theorem Run.invariant {start : World} {history : History} (I : World → Prop)
    (run : Run d start history w) (initial : Genesis d start → I start)
    (preserved : ∀ v tx v', Registered d v → I v → Admissible d v tx → Change d v tx v' →
      I { v' with clock := tx.msg.timestamp }) : I w := by
  refine run.run.historyInvariant (fun _ v => I v) (initial run.genesis) ?_
  intro earlier v t before holds admissible
  obtain ⟨v', change, next⟩ := step_change admissible
  show I (Escrow.step d v t)
  rw [next]
  exact preserved v t v' (Run.mk run.genesis before).registered holds admissible change

end VapiArc.Escrow
