import VapiArc.Escrow.FactoryIdentity

/-!
# Who settled an order

The resolution that a clone ends with tells what must have happened before: the
story of a clone is carried along its history, state by state.
-/
namespace VapiArc.Escrow

open Function

variable {d : Deployment} {start w w' : World} {tx : Tx} {history older newer : History}
  {e : Address} {c : EscrowV1}

/-- The seller delivered in time. -/
structure Delivery (d : Deployment) (e : Address) (c : EscrowV1) (entry : World × Tx) : Prop where
  accepted : Accepted d entry
  call : ∃ deliveryHash, entry.2.call = .submitDelivery e deliveryHash
  seller : entry.2.msg.sender = c.seller
  inTime : entry.2.msg.timestamp ≤ c.workDeadline.val

/-- Nobody ever delivered. -/
def Undelivered (d : Deployment) (e : Address) (history : History) : Prop :=
  ∀ entry ∈ history, Accepted d entry → ∀ deliveryHash,
    entry.2.call ≠ .submitDelivery e deliveryHash

/-- Why a clone may be resolved the way it is. -/
inductive Reason (d : Deployment) (e : Address) (c : EscrowV1) (settling : World × Tx)
    (older : History) : Prop
  | released {delivering : World × Tx} (calm : c.disputedAt = 0) (result : c.resolution = .release)
      (member : delivering ∈ older) (delivery : Delivery d e c delivering)
      (call : settling.2.call = .releaseFunds e) (buyer : settling.2.msg.sender = c.buyer)
  | finalized {delivering : World × Tx} (calm : c.disputedAt = 0)
      (result : c.resolution = .release) (member : delivering ∈ older)
      (delivery : Delivery d e c delivering) (call : settling.2.call = .finalize e)
      (late : c.reviewDeadline.val < settling.2.msg.timestamp)
  | refunded (calm : c.disputedAt = 0) (result : c.resolution = .refund)
      (call : settling.2.call = .refundBuyer e) (seller : settling.2.msg.sender = c.seller)
  | timedOut (calm : c.disputedAt = 0) (result : c.resolution = .refund)
      (call : settling.2.call = .timeoutRefund e) (locked : settling.1.stateOf e = .locked)
      (late : c.workDeadline.val < settling.2.msg.timestamp) (silent : Undelivered d e older)
  | panelRuled (disputed : c.disputedAt ≠ 0) (call : settling.2.call = .execute e)
  | councilRuled {outcome : Uint8} (disputed : c.disputedAt ≠ 0)
      (call : settling.2.call = .resolveDispute e outcome)
      (council : settling.2.msg.sender = d.council)
      (late : c.disputedAt.val + d.deadlockTimeout.val ≤ settling.2.msg.timestamp)

/-- A settlement in the history, with its reason. -/
structure SettledBy (d : Deployment) (e : Address) (c : EscrowV1) (history : History)
    (settling : World × Tx) (older : History) : Prop where
  happened : ∃ newer, history = newer ++ settling :: older
  accepted : Accepted d settling
  enters : Resolves d e settling
  reason : Reason d e c settling older

/-- The states in which nobody can have delivered. -/
def State.Early (s : State) : Prop := s ≠ .submitted ∧ s ≠ .disputed ∧ s ≠ .resolved

instance : DecidablePred State.Early := fun s => inferInstanceAs (Decidable (s ≠ _ ∧ s ≠ _ ∧ s ≠ _))

theorem State.Early.none : State.Early .none := by decide
theorem State.Early.created : State.Early .created := by decide
theorem State.Early.locked : State.Early .locked := by decide
theorem State.Early.expired : State.Early .expired := by decide

/-- What the state of a clone says of its past. -/
structure Story (d : Deployment) (e : Address) (history : History) (w : World) : Prop where
  early : (w.stateOf e).Early → Undelivered d e history
  submitted : ∀ c, w.escrows e = some c → c.state = .submitted →
    ∃ delivering ∈ history, Delivery d e c delivering
  disputed : ∀ c, w.escrows e = some c → c.state = .disputed → c.disputedAt ≠ 0
  resolved : ∀ c, w.escrows e = some c → c.state = .resolved →
    ∃ settling older, SettledBy d e c history settling older

/-- A delivery is accepted in LOCKED only, and leads to SUBMITTED. -/
theorem delivery_step {deliveryHash : Bytes32} (accepted : Accepted d (w, tx))
    (call : tx.call = .submitDelivery e deliveryHash) :
    w.stateOf e = .locked ∧ (step d w tx).stateOf e = .submitted := by
  obtain ⟨w', success⟩ := accepted
  have delivered := success
  simp only [exec, call] at delivered
  obtain ⟨c, clone, locked, _, _, _, _, rfl⟩ := EscrowV1.submitDelivery_ok.mp delivered
  refine ⟨(World.stateOf_some clone).trans locked, ?_⟩
  rw [step_accepted success]
  simp [World.stateOf]

theorem Undelivered.cons (silent : Undelivered d e history)
    (still : (step d w tx).stateOf e ≠ .submitted) : Undelivered d e ((w, tx) :: history) := by
  intro entry member accepted deliveryHash call
  rcases List.mem_cons.mp member with rfl | old
  · exact still (delivery_step accepted call).2
  · exact silent entry old accepted deliveryHash call

theorem SettledBy.cons {settling : World × Tx} (settled : SettledBy d e c history settling older)
    (entry : World × Tx) : SettledBy d e c (entry :: history) settling older := by
  obtain ⟨newer, rfl⟩ := settled.happened
  exact ⟨⟨entry :: newer, rfl⟩, settled.accepted, settled.enters, settled.reason⟩

/-- A step that leaves the clone alone leaves its story. -/
theorem Story.still (story : Story d e history w) (same : w'.escrows e = w.escrows e)
    (next : step d w tx = w') : Story d e ((w, tx) :: history) w' := by
  have state : w'.stateOf e = w.stateOf e := by rw [World.stateOf, World.stateOf, same]
  constructor
  · intro early
    refine Undelivered.cons (story.early (state ▸ early)) ?_
    rw [next]
    exact early.1
  · intro c clone submitted
    obtain ⟨delivering, member, delivery⟩ := story.submitted c (same ▸ clone) submitted
    exact ⟨delivering, List.mem_cons_of_mem _ member, delivery⟩
  · intro c clone disputed
    exact story.disputed c (same ▸ clone) disputed
  · intro c clone resolved
    obtain ⟨settling, older, settled⟩ := story.resolved c (same ▸ clone) resolved
    exact ⟨settling, older, settled.cons _⟩

section Storage

variable (storage : w.escrows e = some c)

include storage

/-- A story by what the stored state asks for. -/
theorem Story.of_storage (early : c.state.Early → Undelivered d e history)
    (submitted : c.state = .submitted → ∃ delivering ∈ history, Delivery d e c delivering)
    (disputed : c.state = .disputed → c.disputedAt ≠ 0)
    (resolved : c.state = .resolved → ∃ settling older, SettledBy d e c history settling older) :
    Story d e history w := by
  have same {c' : EscrowV1} (clone : w.escrows e = some c') : c' = c :=
    Option.some.inj (clone.symm.trans storage)
  constructor
  · intro state
    rw [World.stateOf_some storage] at state
    exact early state
  · intro c' clone state
    rw [same clone] at state ⊢
    exact submitted state
  · intro c' clone state
    rw [same clone] at state ⊢
    exact disputed state
  · intro c' clone state
    rw [same clone] at state ⊢
    exact resolved state

theorem Story.of_early (early : c.state.Early) (silent : Undelivered d e history) :
    Story d e history w := by
  apply Story.of_storage storage
  · intro _
    exact silent
  · intro state
    exact absurd state early.1
  · intro state
    exact absurd state early.2.1
  · intro state
    exact absurd state early.2.2

theorem Story.of_submitted (state : c.state = .submitted) {delivering : World × Tx}
    (member : delivering ∈ history) (delivery : Delivery d e c delivering) :
    Story d e history w := by
  apply Story.of_storage storage
  · intro early
    exact absurd state early.1
  · intro _
    exact ⟨delivering, member, delivery⟩
  · intro other
    cases state.symm.trans other
  · intro other
    cases state.symm.trans other

theorem Story.of_disputed (state : c.state = .disputed) (raised : c.disputedAt ≠ 0) :
    Story d e history w := by
  apply Story.of_storage storage
  · intro early
    exact absurd state early.2.1
  · intro other
    cases state.symm.trans other
  · intro _
    exact raised
  · intro other
    cases state.symm.trans other

theorem Story.of_resolved (state : c.state = .resolved) {settling : World × Tx}
    (settled : SettledBy d e c history settling older) : Story d e history w := by
  apply Story.of_storage storage
  · intro early
    exact absurd state early.2.2
  · intro other
    cases state.symm.trans other
  · intro other
    cases state.symm.trans other
  · intro _
    exact ⟨settling, older, settled⟩

end Storage

/-- The reason of a settlement that is no panel's. -/
theorem Authority.reason {result : Resolution} (authority : Authority d tx e c result)
    (clone : w.escrows e = some c) (listed : Listed d e c) (story : Story d e history w) :
    Reason d e (c.settled result) (w, tx) history := by
  have locked (state : c.state = .locked) : w.stateOf e = .locked :=
    (World.stateOf_some clone).trans state
  cases authority with
  | released call state buyer =>
    obtain ⟨delivering, member, delivery⟩ := story.submitted c clone state
    exact .released (listed.calm (state ▸ .submitted)) rfl member
      ⟨delivery.accepted, delivery.call, delivery.seller, delivery.inTime⟩ call buyer
  | refunded call state seller =>
    exact .refunded (listed.calm (.of_working state)) rfl call seller
  | timedOut call state late =>
    -- a delivery would have taken the clone out of LOCKED
    have silent : Undelivered d e history := story.early (locked state ▸ .locked)
    exact .timedOut (listed.calm (state ▸ .locked)) rfl call (locked state) late silent
  | finalized call state late =>
    obtain ⟨delivering, member, delivery⟩ := story.submitted c clone state
    exact .finalized (listed.calm (state ▸ .submitted)) rfl member
      ⟨delivery.accepted, delivery.call, delivery.seller, delivery.inTime⟩ call late
  | councilRuled call state council late ruling small =>
    exact .councilRuled (story.disputed c clone state) call council late

theorem Story.move {c' : EscrowV1} (story : Story d e history w) (move : Move d w tx e c')
    (listed : ∀ b, w.escrows e = some b → b.state ≠ .none → Listed d e b)
    (accepted : Accepted d (w, tx)) (storage : (step d w tx).escrows e = some c')
    (positive : 0 < tx.msg.timestamp) : Story d e ((w, tx) :: history) (step d w tx) := by
  -- what the order is after the step decides which part of its story grows
  have after := World.stateOf_some storage
  have stateOf {b : EscrowV1} {s : State} (clone : w.escrows e = some b) (state : b.state = s) :
      w.stateOf e = s := (World.stateOf_some clone).trans state
  -- moves between early states deliver nothing
  have quiet (before : (w.stateOf e).Early) (early : c'.state.Early) :
      Story d e ((w, tx) :: history) (step d w tx) :=
    .of_early storage early ((story.early before).cons (after ▸ early.1))
  have settled {b : EscrowV1} (clone : w.escrows e = some b) (live : b.state ≠ .resolved)
      (resolved : c'.state = .resolved) (reason : Reason d e c' (w, tx) history) :
      Story d e ((w, tx) :: history) (step d w tx) := by
    have enters : Resolves d e (w, tx) := by
      refine ⟨?_, after.trans resolved⟩
      show w.stateOf e ≠ .resolved
      rw [World.stateOf_some clone]
      exact live
    exact .of_resolved storage resolved ⟨⟨[], rfl⟩, accepted, enters, reason⟩
  cases move with
  | created call made =>
    refine quiet ?_ .created
    rw [World.stateOf, made.vacant.2]
    exact .none
  | funded call funding => exact quiet (stateOf funding.clone funding.state ▸ .created) .locked
  | cancelled call clone state late => exact quiet (stateOf clone state ▸ .created) .expired
  | delivered call clone state seller inTime deadline =>
    exact .of_submitted storage rfl List.mem_cons_self ⟨accepted, ⟨_, call⟩, seller, inTime⟩
  | disputed call clone state party raised evidence =>
    -- the timestamp of the dispute is stored as it is, and it is not zero
    refine .of_disputed storage rfl fun zero => ?_
    have epoch := congrArg Fin.val zero
    simp only [EscrowV1.disputedBy, raised, Fin.val_zero] at epoch
    omega
  | @countered b _ call clone state inTime =>
    exact .of_disputed storage state (story.disputed b clone state)
  | @settled b result clone authority =>
    have initialized : b.state ≠ .none := by
      intro blank
      have edge := authority.state.1
      rw [blank] at edge
      cases edge.entry
    exact settled clone (fun resolved => authority.state.1.leaves.1 (.inl resolved)) rfl
      (authority.reason clone (listed b clone initialized) story)
  | @executed b result call clone state ruled =>
    refine settled clone ?_ rfl (.panelRuled (story.disputed b clone state) call)
    rw [state]
    decide

theorem Run.story (run : Run d start history w) (positive : history.Positive) (e : Address) :
    Story d e history w := by
  refine run.run.historyInvariant (fun (past : History) v => past.Positive → Story d e past v)
    ?_ ?_ positive
  · have none : start.stateOf e = .none := by
      cases storage : start.escrows e with
      | none => rw [World.stateOf, storage]; rfl
      | some c =>
        obtain ⟨_, rfl⟩ := run.genesis.blank storage
        exact World.stateOf_some storage
    intro _
    refine ⟨fun _ entry member => absurd member List.not_mem_nil, ?_, ?_, ?_⟩ <;>
      intro c clone state <;> cases none.symm.trans ((World.stateOf_some clone).trans state)
  · intro earlier v t before story admissible positive
    show Story d e _ (step d v t)
    have past : History.Positive earlier := fun entry old =>
      positive entry (List.mem_cons_of_mem _ old)
    have registered := (Run.mk run.genesis before).registered
    rcases step_move admissible e with same | ⟨accepted, c', move, storage⟩
    · exact (story past).still same rfl
    · exact (story past).move move (fun b clone initialized => registered.clone clone initialized)
        accepted storage (positive _ List.mem_cons_self)

/-! ### The theorem -/

/-- The transaction that resolved a clone in the past is the one its story names. -/
theorem Run.reason (run : Run d start history w) (positive : history.Positive)
    (clone : w.escrows e = some c) {settling : World × Tx} {newer older : History}
    (happened : history = newer ++ settling :: older) (enters : Resolves d e settling) :
    Accepted d settling ∧ Reason d e c settling older := by
  subst happened
  obtain ⟨before, admissible, after⟩ := run.run.cut
  obtain ⟨c', storage, state⟩ := World.stateOf_resolved enters.2
  obtain rfl : c' = c := by
    have kept := run_final after storage (.inl state)
    exact Option.some.inj (kept.symm.trans clone)
  have past : History.Positive (settling :: older) := fun entry member =>
    positive entry (List.mem_append_right newer member)
  have story := (Run.mk run.genesis (before.step _ admissible)).story past e
  obtain ⟨settling', older', ⟨newer', split⟩, accepted, enters', reason⟩ :=
    story.resolved c' storage state
  cases newer' with
  | nil =>
    cases split
    exact ⟨accepted, reason⟩
  | cons newest between =>
    -- a settlement before this one would have left the clone resolved already
    cases split
    obtain ⟨_, _, since⟩ := before.cut
    exact absurd (run_resolved since enters'.2) enters.1

/-- Only a dispute splits. -/
theorem Reason.disputed {settling : World × Tx} (reason : Reason d e c settling older)
    (split : c.resolution = .split) : c.disputedAt ≠ 0 := by
  cases reason with
  | released _ release => cases split.symm.trans release
  | finalized _ release => cases split.symm.trans release
  | refunded _ refund => cases split.symm.trans refund
  | timedOut _ refund => cases split.symm.trans refund
  | panelRuled disputed => exact disputed
  | councilRuled disputed => exact disputed

/-- What the settlement of a clone requires, and what its transactions may do. -/
structure SettlementAuthority (d : Deployment) (history : History) (w : World) : Prop where
  /-- An undisputed release follows a delivery in time. -/
  release : ∀ e c, w.escrows e = some c → c.state = .resolved → c.disputedAt = 0 →
    c.resolution = .release → ∃ newer settling between delivering older,
      history = newer ++ settling :: (between ++ delivering :: older) ∧
      Delivery d e c delivering ∧ Accepted d settling ∧
      (settling.2.call = .releaseFunds e ∧ settling.2.msg.sender = c.buyer ∨
        settling.2.call = .finalize e ∧ c.reviewDeadline.val < settling.2.msg.timestamp)
  /-- An undisputed refund is the seller's, or follows the seller's silence. -/
  refund : ∀ e c, w.escrows e = some c → c.state = .resolved → c.disputedAt = 0 →
    c.resolution = .refund → ∃ settling ∈ history, Accepted d settling ∧
      (settling.2.call = .refundBuyer e ∧ settling.2.msg.sender = c.seller ∨
        settling.2.call = .timeoutRefund e ∧ settling.1.stateOf e = .locked ∧
          c.workDeadline.val < settling.2.msg.timestamp ∧ Undelivered d e history)
  /-- Only a dispute splits. -/
  split : ∀ e c, w.escrows e = some c → c.state = .resolved → c.disputedAt = 0 →
    c.resolution ≠ .split
  /-- A disputed clone was resolved, and only by the panel or by the council in time. -/
  disputed : ∀ e c, w.escrows e = some c → c.state = .resolved → c.disputedAt ≠ 0 →
    (∃ settling ∈ history, Resolves d e settling) ∧
    ∀ settling ∈ history, Resolves d e settling → Accepted d settling ∧
      (settling.2.call = .execute e ∨
        (∃ outcome, settling.2.call = .resolveDispute e outcome) ∧
          settling.2.msg.sender = d.council ∧
          c.disputedAt.val + d.deadlockTimeout.val ≤ settling.2.msg.timestamp)
  /-- States change along the diagram only. -/
  edges : ∀ entry ∈ history, ∀ e, (step d entry.1 entry.2).stateOf e = entry.1.stateOf e ∨
    Accepted d entry ∧
      Diagram e entry.2.call (entry.1.stateOf e) ((step d entry.1 entry.2).stateOf e)
  /-- RESOLVED and EXPIRED are absorbing. -/
  final : ∀ later w', Transition.Run (system d) w later w' → ∀ e c, w.escrows e = some c →
    c.state.Final → w'.escrows e = some c
  /-- Parties, token, amount and terms hash never change. -/
  terms : ∀ later w', Transition.Run (system d) w later w' → ∀ e c, w.escrows e = some c →
    ∃ c', w'.escrows e = some c' ∧ c'.terms = c.terms

/-- After a clone is resolved nobody delivers. -/
theorem Undelivered.since {settling : World × Tx} (silent : Undelivered d e older)
    (enters : Resolves d e settling)
    (run : Transition.Run (system d) start (newer ++ settling :: older) w) :
    Undelivered d e (newer ++ settling :: older) := by
  obtain ⟨_, _, after⟩ := run.cut
  intro entry member accepted deliveryHash call
  -- a later delivery would have found the clone in LOCKED, not resolved
  have locked := (delivery_step accepted call).1
  rcases List.mem_append.mp member with late | early
  · obtain ⟨_, _, _, since, _⟩ := after.of_mem late
    have resolved := run_resolved since enters.2
    rw [locked] at resolved
    cases resolved
  · rcases List.mem_cons.mp early with rfl | old
    · have delivered := (delivery_step accepted call).2
      rw [enters.2] at delivered
      cases delivered
    · exact silent entry old accepted deliveryHash call

theorem settlement_authority (run : Run d start history w) (positive : history.Positive) :
    SettlementAuthority d history w := by
  have story := run.story positive
  constructor
  · intro e c clone resolved calm released
    obtain ⟨settling, older, ⟨newer, rfl⟩, accepted, _, reason⟩ :=
      (story e).resolved c clone resolved
    cases reason with
    -- a settlement by the parties: the delivery came first, and nothing settled in between
    | released _ _ member delivery call buyer =>
      obtain ⟨between, oldest, rfl⟩ := List.append_of_mem member
      exact ⟨newer, settling, between, _, oldest, rfl, delivery, accepted, .inl ⟨call, buyer⟩⟩
    | finalized _ _ member delivery call late =>
      obtain ⟨between, oldest, rfl⟩ := List.append_of_mem member
      exact ⟨newer, settling, between, _, oldest, rfl, delivery, accepted, .inr ⟨call, late⟩⟩
    | refunded _ refund => cases released.symm.trans refund
    | timedOut _ refund => cases released.symm.trans refund
    | panelRuled disputed => exact absurd calm disputed
    | councilRuled disputed => exact absurd calm disputed
  · intro e c clone resolved calm refunded
    obtain ⟨settling, older, ⟨newer, rfl⟩, accepted, enters, reason⟩ :=
      (story e).resolved c clone resolved
    have member : settling ∈ newer ++ settling :: older := by simp
    cases reason with
    | released _ release => cases refunded.symm.trans release
    | finalized _ release => cases refunded.symm.trans release
    | refunded _ _ call seller => exact ⟨settling, member, accepted, .inl ⟨call, seller⟩⟩
    | timedOut _ _ call locked late silent =>
      exact ⟨settling, member, accepted, .inr ⟨call, locked, late, silent.since enters run.run⟩⟩
    | panelRuled disputed => exact absurd calm disputed
    | councilRuled disputed => exact absurd calm disputed
  · intro e c clone resolved calm split
    obtain ⟨settling, older, _, _, _, reason⟩ := (story e).resolved c clone resolved
    exact reason.disputed split calm
  · -- a dispute ends once, by the step that enters the resolution
    intro e c clone resolved disputed
    constructor
    · obtain ⟨settling, older, ⟨newer, rfl⟩, _, enters, _⟩ := (story e).resolved c clone resolved
      exact ⟨settling, by simp, enters⟩
    · intro settling member enters
      obtain ⟨older, newer, happened, _⟩ := run.run.of_mem member
      obtain ⟨accepted, reason⟩ := run.reason positive clone happened enters
      cases reason with
      | panelRuled _ call => exact ⟨accepted, .inl call⟩
      | councilRuled _ call council late => exact ⟨accepted, .inr ⟨⟨_, call⟩, council, late⟩⟩
      | released calm => exact absurd calm disputed
      | finalized calm => exact absurd calm disputed
      | refunded calm => exact absurd calm disputed
      | timedOut calm => exact absurd calm disputed
  · intro entry member e
    obtain ⟨_, _, _, _, admissible, _⟩ := run.run.of_mem member
    exact step_diagram admissible e
  · intro later w' future e c clone final
    exact run_final future clone final
  · intro later w' future e c clone
    exact run_terms future clone

/-- The walkthrough's finalized order. -/
theorem settlement_authority_walkthrough :
    SettlementAuthority (Walkthrough.deployment 600 (by decide))
      (Walkthrough.history 600 (by decide) Walkthrough.happyPath)
      (Walkthrough.state 600 (by decide) Walkthrough.happyPath) :=
  settlement_authority (Walkthrough.run 600 (by decide) Walkthrough.happyPath (by decide))
    (by unfold History.Positive; decide)

end VapiArc.Escrow
