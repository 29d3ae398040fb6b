import VapiArc.Review.Rails

/-!
# Refunds, settlements and payouts meet the contract

What `updateOrder` owes in each of its calls, and one lemma for each routine that
moves money.
-/
namespace VapiArc.Review

open Checked Function Async Transition

section Updates

variable {circle : Circle} {d : Dependencies} {s : Store} {db : Database}
  {state : ReviewOrderState}

/-- The rows after a call of `updateOrder`. -/
def Database.updated (db : Database) (state : ReviewOrderState) (fields : Database.OrderUpdate) :
    Database :=
  { db with order := db.updatedOrder state fields }

/-- The update writes no identifier but those on record, and leaves the payout alone. -/
structure Database.OrderUpdate.Plain (fields : Database.OrderUpdate) (db : Database) : Prop where
  paidAt : fields.paidAt = none
  payoutHash : fields.transactionHash .payout = none
  linked : ∀ operation id, fields.circleId operation = some id → db.circleId operation = some id

theorem updated_book (state : ReviewOrderState) {fields : Database.OrderUpdate} (linked : ∀ operation id,
      fields.circleId operation = some id → s.db.circleId operation = some id) :
    Store.book { s with db := s.db.updated state fields } = s.book := by
  have id : (s.db.updated state fields).circleId = s.db.circleId := by
    funext operation
    simp only [Database.circleId, Database.updated, Database.updatedOrder]
    cases given : fields.circleId operation with
    | none => rfl
    | some id => exact (linked operation id given).symm
  simp only [Store.book, id]
  rfl

theorem Kept.updated (state : ReviewOrderState) {fields : Database.OrderUpdate} (plain : fields.Plain s.db) :
    Kept s { s with db := s.db.updated state fields } where
  terms := by
    refine ⟨⟨⟨rfl, rfl, rfl, rfl, rfl⟩, ⟨rfl, rfl, rfl⟩, rfl⟩, ?_, ?_⟩
    · simp only [Database.updated, Database.updatedOrder, plain.paidAt]
      rfl
    · simp only [Database.updated, Database.updatedOrder, plain.payoutHash]
      rfl
  resolving := id
  requested := rfl
  payout completed := completed.same rfl rfl
  resolution _ completed := completed.same rfl rfl

/-- What has to be shown for an update that leaves the payout alone. -/
theorem updated_meets {fields : Inputs → Database.OrderUpdate} {P : Store → Prop}
    (stable : Stable (contract circle d) P) (rows : ∀ s, P s → s.db = db)
    (plain : ∀ inputs, (fields inputs).Plain db)
    (next : state = db.order.state ∨ db.order.state.Next state)
    (abort : ∀ inputs, db.order.settlementAbortCode ≠ none →
      (db.updatedOrder state (fields inputs)).settlementAbortCode = db.order.settlementAbortCode)
    (phases : ∀ s, P s → Phases d.library s → ∀ inputs,
      Kept s { s with db := s.db.updated state (fields inputs) } →
      Phases d.library { s with db := s.db.updated state (fields inputs) }) :
    Meets circle d P (Processor.updateOrder state fields)
      (fun order s => ∃ inputs, order = db.updatedOrder state (fields inputs) ∧
        s.db = db.updated state (fields inputs))
      (fun _ _ => False) := by
  refine update_at stable fun s here sound inputs => ?_
  obtain rfl := rows s here
  have kept := Kept.updated state (plain inputs)
  have book := updated_book (s := s) state (plain inputs).linked
  refine ⟨⟨?_, phases s here sound.phases inputs kept⟩, ?_, inputs, rfl, rfl⟩
  · change Ledger _ _ (Store.book { s with db := s.db.updated state (fields inputs) })
    rw [book]
    exact sound.ledger
  · exact .of_terms kept.terms rfl next (abort inputs) rfl rfl (.refl _)

theorem completed_linked {operation : CircleOperation} {id : TransactionId}
    (linked : db.circleId operation = some id) (other : CircleOperation) (id' : TransactionId)
    (given : Processor.completed operation id other = some id') : db.circleId other = some id' := by
  unfold Processor.completed at given
  split at given
  next same =>
    subst same
    cases given
    exact linked
  next => cases given

/-- An error is noted, and the order stays in its phase. -/
theorem noted_meets {error : Option (Option String)}
    (phase : state.phase = db.order.state.phase)
    (next : state = db.order.state ∨ db.order.state.Next state)
    (unclaimed : state = .paid ∨ state = .dispatched → db.order.state = .paid)
    (unrefunded : state ≠ .refunded) :
    Meets circle d (fun s => s.db = db)
      (Processor.updateOrder state fun _ => { lastError := error }) (fun _ _ => True)
      (fun _ _ => False) := by
  refine (updated_meets (stable_at db) (fun _ here => here)
    (fun _ => ⟨rfl, rfl, fun _ _ given => by cases given⟩) next
    (fun _ _ => rfl) ?_).weaken (fun _ here => here) (fun _ _ _ => trivial) (fun _ _ no => no)
  rintro s rfl phases inputs kept
  refine kept.phases phases phase rfl (fun now => ?_) (fun now => absurd now unrefunded)
    (.inl ⟨rfl, rfl⟩)
  exact phases.unclaimed (.inl (unclaimed now))

end Updates

section Refund

variable {circle : Circle} {d : Dependencies} {db : Database}

theorem ReviewOrder.Permits.refund_next {order : ReviewOrder} {state : ReviewOrderState}
    (permitted : order.Permits .refund) (ended : state = .expired ∨ state = .refunded) :
    state = order.state ∨ order.state.Next state := by
  rcases permitted with now | ⟨now, -⟩ <;> rw [now] <;> rcases ended with rfl | rfl
  · exact .inl rfl
  · exact .inr .refund
  · exact .inr .refundFails
  · exact .inr .refundAborted

/-- A refund is not possible for now. -/
theorem refundFails_meets {error : String} (permitted : db.order.Permits .refund) :
    Meets circle d (fun s => s.db = db)
      (Processor.updateOrder .expired fun _ => { lastError := some (some error) })
      (fun _ _ => True) (fun _ _ => False) := by
  refine (updated_meets (stable_at db) (fun _ here => here)
    (fun _ => ⟨rfl, rfl, fun _ _ given => by cases given⟩)
    (permitted.refund_next (.inl rfl)) (fun _ _ => rfl) ?_).weaken (fun _ here => here)
    (fun _ _ _ => trivial) (fun _ _ no => no)
  rintro s rfl phases inputs kept
  exact kept.ended phases permitted rfl rfl (fun other => by cases other) rfl rfl

theorem refunded_meets {id : TransactionId} {txHash : Hex} (permitted : db.order.Permits .refund)
    (linked : db.circleId .refund = some id) :
    Meets circle d (fun s => s.db = db ∧ s.Completed .refund)
      (Processor.updateOrder .refunded fun _ =>
        { circleId := Processor.completed .refund id
          transactionHash := Processor.completed .refund txHash
          lastError := some none }) (fun _ _ => True) (fun _ _ => False) := by
  refine (updated_meets ((stable_at db).and Store.Completed.stable) (fun _ here => here.1)
    (fun _ => ⟨rfl, rfl, completed_linked linked⟩) (permitted.refund_next (.inr rfl))
    (fun _ _ => rfl) ?_).weaken (fun _ here => here) (fun _ _ _ => trivial) (fun _ _ no => no)
  rintro s ⟨rfl, completed⟩ phases inputs kept
  exact kept.ended phases permitted rfl rfl (fun _ => completed.same rfl rfl) rfl rfl

theorem refund_meets (ready : Ready d db .refund) :
    Meets circle d (fun s => s.db = db) (Processor.refund d) (fun _ _ => True)
      (fun _ _ => False) := by
  refine .bind_ (read_at (Q := fun order s => order = db.order ∧ s.db = db) ?_) fun order => ?_
  · exact fun s here _ _ => ⟨rfl, here⟩
  refine .known (fun _ here => here.1) ?_
  rintro rfl
  refine .weaken ?_ (fun _ here => here.2) (fun _ _ after => after) (fun _ _ no => no)
  split
  next => exact .pure_ fun _ _ => trivial
  next =>
    split
    next => exact .bind_ (refundFails_meets ready.permitted) fun _ => .pure_ fun _ _ => trivial
    next =>
      refine .tryCatch_ (.bind_ (circleOperation_meets ready
        (transfer_meets .refund rfl)) fun result => ?_) fun error => ?_
      · obtain ⟨refund, txHash⟩ := result
        refine .weaken (.bind_ (meets_rows_and
          (F := fun db' => db.Beside .refund db' ∧ db'.circleId .refund = some refund.id)
          (R := fun s => s.Completed .refund)
          fun db' known => refunded_meets (known.1.permits ready.permitted) known.2)
          fun _ => .pure_ fun _ _ => trivial) ?_ (fun _ _ after => after) (fun _ _ no => no.elim)
        exact fun s after => ⟨⟨after.1, after.2.1⟩, after.2.2⟩
      · refine .bind_ (meets_rows (F := db.Beside .refund) fun db' beside =>
          refundFails_meets (beside.permits ready.permitted)) fun _ => ?_
        exact .pure_ fun _ _ => trivial

end Refund

section Abort

variable {circle : Circle} {d : Dependencies} {db : Database}

/-- The rows after a validation, which may have aborted the settlement. -/
structure Validated (db : Database) (order : ReviewOrder) (db' : Database) : Prop where
  rows : db'.order = order
  terms : db.order.SameTerms order
  state : order.state = db.order.state
  columns : order.circle = db.order.circle
  evidenceHash : order.evidenceHash = db.order.evidenceHash
  evidenceJson : order.evidenceJson = db.order.evidenceJson
  attempts : db'.attempts = db.attempts
  journal : db'.journal = db.journal

theorem Validated.refl (db : Database) : Validated db db.order db :=
  ⟨rfl, .refl db.order, rfl, rfl, rfl, rfl, rfl, rfl⟩

theorem Validated.quiet {order : ReviewOrder} {db' : Database} (validated : Validated db order db')
    (quiet : db.Quiet d.config.circleMaxAttempts) : db'.Quiet d.config.circleMaxAttempts where
  undispatched := by rw [validated.rows, validated.state]; exact quiet.undispatched
  unclaimed := by rw [validated.rows, validated.state]; exact quiet.unclaimed
  unexhausted operation := by
    simp only [Database.listCircleAttempts, Database.circleIdempotencyKey, validated.rows,
      validated.state, validated.columns, validated.attempts]
    exact quiet.unexhausted operation

/-- A settlement that may still be aborted: it has not been requested. -/
structure Abortable (db : Database) : Prop where
  phase : db.order.state.phase = .payout ∨ db.order.state.phase = .settlement
  unresolved : db.hasCurrentCircleRequestStarted .resolution = false

theorem markSettlementAborted_meets {code : AbortCode} (abortable : Abortable db) :
    Meets circle d (fun s => s.db = db) (Processor.markSettlementAborted db.order code)
      (fun order s => Validated db order s.db) (fun _ _ => False) := by
  unfold Processor.markSettlementAborted
  split
  next =>
    refine .pure_ ?_
    rintro s rfl
    exact .refl _
  next unaborted =>
    have unaborted : db.order.settlementAbortCode = none := by simpa using unaborted
    refine (updated_meets (stable_at db) (fun _ here => here)
      (fun _ => ⟨rfl, rfl, fun _ _ given => by cases given⟩) (.inl rfl)
      (fun _ aborted => absurd unaborted aborted) ?_).weaken (fun _ here => here) ?_
      (fun _ _ no => no)
    · rintro s rfl phases inputs kept
      exact kept.abort phases rfl abortable.phase abortable.unresolved (by
        simp [Database.updated, Database.updatedOrder]) rfl rfl
    · rintro _ s ⟨inputs, rfl, rows⟩
      rw [rows]
      exact ⟨rfl, .of_columns rfl rfl, rfl, rfl, rfl, rfl, rfl, rfl⟩

theorem validatedOrAborted_meets {buffer : Nat} (quiet : db.Quiet d.config.circleMaxAttempts)
    (abortable : Abortable db) :
    Meets circle d (fun s => s.db = db) (Processor.validatedOrAborted db.order buffer)
      (fun order s => Validated db order s.db) (fun _ s => s.db = db) := by
  refine .tryCatch_ (.bind_ (perform_at quiet fun _ => rfl) fun _ => .pure_ ?_) fun error => ?_
  · rintro s rfl
    exact .refl _
  · cases error with
    | error => exact .throw_ fun _ here => here
    | permanent code message =>
      exact (markSettlementAborted_meets abortable).weaken (fun _ here => here)
        (fun _ _ after => after) (fun _ _ no => no.elim)

end Abort

section Settle

variable {circle : Circle} {d : Dependencies} {db : Database}

/-- States that neither a callback nor an operator leaves. -/
theorem Database.Quiet.of_state (state : db.order.state = .paid ∨
      db.order.state = .verdictSubmitted ∨ db.order.state = .reviewerPaid) :
    db.Quiet d.config.circleMaxAttempts := by
  constructor
  case toUnresumable =>
    refine ⟨fun operation recovery => ?_⟩
    rw [recovery] at state
    cases operation <;> simp [Database.recoveryState] at state
  all_goals
    intro now
    simp [now] at state

theorem ReviewOrder.EvidenceIs.decided {order : ReviewOrder} {evidence : HumanEvidence}
    (is : order.EvidenceIs evidence) : ∃ decision, order.decision = some decision := by
  obtain ⟨reviewer, hash, paidAt, -, -, -, made⟩ := is
  have made := made 0
  simp only [createHumanEvidence, bind_ok, demand_ok] at made
  obtain ⟨decision, decided, -⟩ := made
  exact ⟨decision, decided⟩

/-- Rows that a settlement has been prepared for. -/
structure Prepared (d : Dependencies) (order : ReviewOrder) (reviewer : ReviewerSnapshot)
    (payoutTransactionHash : Hex) (evidence : HumanEvidence) : Prop where
  state : order.state = .reviewerPaid
  is : order.EvidenceIs evidence
  snapshot : Database.reviewerSnapshot order = some reviewer
  hash : (order.circle .payout).hash = some payoutTransactionHash
  evidenceHash : order.evidenceHash = some (humanEvidenceHash d.library evidence)
  evidenceJson : order.evidenceJson = some (serializeHumanEvidence d.library evidence)

theorem Prepared.beside {reviewer : ReviewerSnapshot} {payoutTransactionHash : Hex}
    {evidence : HumanEvidence} {db' : Database}
    (prepared : Prepared d db.order reviewer payoutTransactionHash evidence)
    (beside : db.Beside .resolution db') :
    Prepared d db'.order reviewer payoutTransactionHash evidence := by
  obtain ⟨_, _, _, rfl⟩ := beside
  exact ⟨prepared.state, prepared.is, prepared.snapshot, prepared.hash, prepared.evidenceHash,
    prepared.evidenceJson⟩

theorem settleOnChain_meets {reviewer : ReviewerSnapshot} {payoutTransactionHash : Hex}
    {evidence : HumanEvidence}
    (prepared : Prepared d db.order reviewer payoutTransactionHash evidence)
    (unaborted : db.order.settlementAbortCode = none) :
    Meets circle d (fun s => s.db = db)
      (Processor.settleOnChain d db.order reviewer (humanEvidenceHash d.library evidence)
        (serializeHumanEvidence d.library evidence) payoutTransactionHash)
      (fun _ _ => True) (fun _ s => s.db.order.state.phase = .settlement) := by
  obtain ⟨decision, decided⟩ := prepared.is.decided
  have permitted : db.order.Permits .resolution := ⟨prepared.state, unaborted⟩
  refine .bind_ ((circleOperation_meets ⟨permitted, .of_state (.inr (.inr prepared.state))⟩
    (resolve_meets decided ⟨evidence, reviewer, decision, _, prepared.is, prepared.snapshot, decided,
      prepared.hash, rfl⟩)).weaken (fun _ here => here) (fun _ _ after => after) ?_)
    fun result => ?_
  · intro _ s beside
    rw [(prepared.beside beside).state]
    rfl
  · obtain ⟨resolution, txHash⟩ := result
    refine .weaken (.bind_ (meets_rows_and
      (F := fun db' => db.Beside .resolution db' ∧ db'.circleId .resolution = some resolution.id)
      (R := fun s => s.Completed .resolution) (E := fun _ _ => False)
      (Q := fun _ _ => True) fun db' known => ?_)
      fun _ => .pure_ fun _ _ => trivial) ?_ (fun _ _ after => after) (fun _ _ no => no.elim)
    · obtain ⟨beside, linked⟩ := known
      have permitted' := beside.permits permitted
      have prepared' := prepared.beside beside
      refine (updated_meets ((stable_at db').and Store.Completed.stable) (fun _ here => here.1)
        (fun _ => ⟨rfl, rfl, completed_linked linked⟩) (.inr (by rw [permitted'.1]; exact .settle))
        (fun _ aborted => absurd permitted'.2 aborted) ?_).weaken (fun _ here => here)
        (fun _ _ _ => trivial) (fun _ _ no => no)
      rintro s ⟨rfl, completed⟩ phases inputs kept
      exact kept.settle phases permitted' rfl rfl (completed.same rfl rfl)
        (by rw [prepared'.evidenceHash]; simp) prepared'.evidenceHash.symm
        prepared'.evidenceJson.symm
    · exact fun s after => ⟨⟨after.1, after.2.1⟩, after.2.2⟩

/-- The settlement has failed for now. -/
theorem settlementFails_meets {error : String} (phase : db.order.state.phase = .settlement) :
    Meets circle d (fun s => s.db = db)
      (Processor.updateOrder .reviewerPaidSettlementFailed fun _ =>
        { lastError := some (some error) }) (fun _ _ => True) (fun _ _ => False) := by
  refine noted_meets phase.symm ?_ (fun other => by simp at other) (by simp)
  generalize db.order.state = state at phase
  cases state with
  | reviewerPaid => exact .inr .settlementFails
  | reviewerPaidSettlementFailed => exact .inl rfl
  | _ => cases phase

/-- The evidence is the same whenever it is made. -/
theorem evidence_meets {reviewer : ReviewerSnapshot} {payoutTransactionHash : Hex}
    (phase : db.order.state.phase = .settlement)
    (snapshot : Database.reviewerSnapshot db.order = some reviewer)
    (hash : (db.order.circle .payout).hash = some payoutTransactionHash) :
    Meets circle d (fun s => s.db = db)
      (Processor.database fun inputs db' =>
        (createHumanEvidence db.order reviewer payoutTransactionHash db.order.paidAt inputs.now).map
          fun evidence => (evidence, db'))
      (fun evidence s => db.order.EvidenceIs evidence ∧ s.db = db) (fun _ s => s.db = db) := by
  refine database_at ?_ (fun _ here _ _ _ _ => here)
  rintro s rfl sound inputs - evidence db' made
  obtain ⟨decided, -⟩ := sound.phases.reviewed (by rw [phase]; simp) (by rw [phase]; simp)
  obtain ⟨paidAt, paid⟩ := Option.ne_none_iff_exists'.mp
    (sound.phases.paid decided (by rw [phase]; simp)).paidAt
  rw [paid] at made
  cases result : createHumanEvidence s.db.order reviewer payoutTransactionHash (some paidAt)
    inputs.now with
  | error e =>
    rw [result] at made
    cases made
  | ok evidence' =>
    rw [result] at made
    cases made
    exact ⟨sound, .refl s, ⟨reviewer, payoutTransactionHash, paidAt, snapshot, hash, paid,
      fun _ => result⟩, rfl⟩

/-- The evidence is stored, and the settlement is prepared for. -/
theorem prepare_meets {reviewer : ReviewerSnapshot} {payoutTransactionHash : Hex}
    {evidence : HumanEvidence} (phase : db.order.state.phase = .settlement)
    (snapshot : Database.reviewerSnapshot db.order = some reviewer)
    (hash : (db.order.circle .payout).hash = some payoutTransactionHash)
    (is : db.order.EvidenceIs evidence) :
    Meets circle d (fun s => s.db = db)
      (Processor.updateOrder .reviewerPaid fun _ =>
        { evidenceHash := some (humanEvidenceHash d.library evidence)
          evidenceJson := some (serializeHumanEvidence d.library evidence)
          lastError := some none })
      (fun _ s => Prepared d s.db.order reviewer payoutTransactionHash evidence)
      (fun _ _ => False) := by
  refine (updated_meets (stable_at db) (fun _ here => here)
    (fun _ => ⟨rfl, rfl, fun _ _ given => by cases given⟩) ?_ (fun _ _ => rfl) ?_).weaken
    (fun _ here => here) ?_ (fun _ _ no => no)
  · generalize db.order.state = state at phase
    cases state with
    | reviewerPaid => exact .inl rfl
    | reviewerPaidSettlementFailed => exact .inr .retrySettlement
    | _ => cases phase
  · rintro s rfl phases inputs kept
    exact kept.phases phases phase.symm rfl (fun other => by cases other <;> contradiction)
      (fun other => by cases other) (.inr ⟨phase, evidence, is, rfl, rfl⟩)
  · rintro _ s ⟨inputs, -, rows⟩
    rw [rows]
    exact ⟨rfl, is, snapshot, hash, rfl, rfl⟩

theorem Validated.prepared {order : ReviewOrder} {db' : Database} {reviewer : ReviewerSnapshot}
    {payoutTransactionHash : Hex} {evidence : HumanEvidence} (validated : Validated db order db')
    (prepared : Prepared d db.order reviewer payoutTransactionHash evidence) :
    Prepared d db'.order reviewer payoutTransactionHash evidence := by
  rw [validated.rows]
  exact ⟨validated.state.trans prepared.state, validated.terms.evidenceIs prepared.is,
    validated.terms.snapshot.trans prepared.snapshot,
    validated.terms.payoutHash.trans prepared.hash,
    validated.evidenceHash.trans prepared.evidenceHash,
    validated.evidenceJson.trans prepared.evidenceJson⟩

theorem validatedBeforeRequest_meets {requested : Bool} (state : db.order.state = .reviewerPaid)
    (unresolved : requested = false → db.hasCurrentCircleRequestStarted .resolution = false) :
    Meets circle d (fun s => s.db = db)
      (Processor.validatedBeforeRequest d db.order requested)
      (fun order s => Validated db order s.db ∧ (requested = true → s.db = db))
      (fun _ s => s.db = db) := by
  unfold Processor.validatedBeforeRequest
  split
  next first =>
    simp only [Bool.and_eq_true, Bool.not_eq_true', Option.isNone_iff_eq_none] at first
    split
    next => exact .throw_ fun _ here => here
    next =>
      have abortable : Abortable db := ⟨.inr (by rw [state]; rfl), unresolved first.2⟩
      refine (validatedOrAborted_meets (.of_state (.inr (.inr state))) abortable).weaken
        (fun _ here => here) ?_ (fun _ _ after => after)
      exact fun order s after => ⟨after, fun asked => by rw [first.2] at asked; cases asked⟩
  next =>
    refine .pure_ ?_
    rintro s rfl
    exact ⟨.refl _, fun _ => rfl⟩

/-- The rest of a settlement: it is refunded or resolved. -/
theorem conclude_meets {order : ReviewOrder} {reviewer : ReviewerSnapshot}
    {payoutTransactionHash : Hex} {evidence : HumanEvidence} {requested unresolved : Bool}
    (prepared : Prepared d db.order reviewer payoutTransactionHash evidence)
    (rows : db.order = order)
    (unaborted : unresolved = true → order.settlementAbortCode = none) :
    Meets circle d (fun s => s.db = db)
      (if order.settlementAbortCode.isSome && !unresolved then Processor.refund d
      else do
        Processor.skipIf requested (Processor.perform (.preflightHumanResolve
          (humanEvidenceHash d.library evidence) payoutTransactionHash))
        Processor.settleOnChain d order reviewer (humanEvidenceHash d.library evidence)
          (serializeHumanEvidence d.library evidence) payoutTransactionHash)
      (fun _ _ => True) (fun _ s => s.db.order.state.phase = .settlement) := by
  subst rows
  have quiet : db.Quiet d.config.circleMaxAttempts := .of_state (.inr (.inr prepared.state))
  split
  next aborted =>
    simp only [Bool.and_eq_true, Option.isSome_iff_ne_none] at aborted
    exact (refund_meets ⟨.inr ⟨prepared.state, aborted.1⟩, quiet⟩).weaken (fun _ here => here)
      (fun _ _ after => after) (fun _ _ no => no.elim)
  next going =>
    have unaborted : db.order.settlementAbortCode = none := by
      cases unresolved with
      | true => exact unaborted rfl
      | false => simpa using going
    refine .bind_ (M := fun _ s => s.db = db) ?_ fun _ => settleOnChain_meets prepared unaborted
    unfold Processor.skipIf
    split
    next => exact .pure_ fun _ here => here
    next =>
      refine (perform_at quiet fun _ => rfl).weaken (fun _ here => here) (fun _ _ after => after) ?_
      rintro _ s rfl
      exact congrArg ReviewOrderState.phase prepared.state

theorem settle_meets (phase : db.order.state.phase = .settlement) :
    Meets circle d (fun s => s.db = db) (Processor.settle d db.order) (fun _ _ => True)
      (fun _ _ => False) := by
  unfold Processor.settle
  split
  next reviewer payoutTransactionHash _ snapshot hash =>
    refine .tryCatch_ (M := fun _ s => s.db.order.state.phase = .settlement) ?_ fun error => ?_
    · refine .bind_ ((evidence_meets phase snapshot hash).weaken (fun _ here => here)
        (fun _ _ after => after) ?_) fun evidence => ?_
      · rintro _ s rfl
        exact phase
      refine .known (fun _ here => here.1) fun is => ?_
      refine .bind_ ((prepare_meets phase snapshot hash is).weaken (fun _ here => here.2)
        (fun _ _ after => after) (fun _ _ no => no.elim)) fun _ => ?_
      refine meets_rows (F := fun db' => Prepared d db'.order reviewer payoutTransactionHash evidence)
        fun db' prepared => ?_
      have failing : db'.order.state.phase = .settlement :=
        congrArg ReviewOrderState.phase prepared.state
      refine .bind_ (read_at (Q := fun pair s => (pair.1 = db'.order ∧
        pair.2 = ((db'.order.circle .resolution).id.isNone &&
          db'.hasCurrentCircleRequestStarted .resolution) ∧
        (pair.2 = true → db'.order.settlementAbortCode = none)) ∧ s.db = db') ?_) fun pair => ?_
      · rintro s rfl sound inputs
        refine ⟨⟨rfl, rfl, fun started => ?_⟩, rfl⟩
        simp only [Bool.and_eq_true] at started
        exact (sound.phases.resolving started.2).2
      obtain ⟨currentOrder, unresolved⟩ := pair
      refine .known (fun _ here => here.1) ?_
      rintro ⟨rfl, pending, unaborted⟩
      refine .bind_ ((validatedBeforeRequest_meets prepared.state fun unasked => ?_).weaken
        (fun _ here => here.2) (fun _ _ after => after) ?_) fun order => ?_
      · obtain ⟨unlinked, unstarted⟩ := Bool.or_eq_false_iff.mp unasked
        dsimp only at pending
        rw [unstarted, ← Option.not_isSome, unlinked] at pending
        simpa using pending.symm
      · rintro _ s rfl
        exact failing
      · refine meets_rows (F := fun db'' => Validated db' order db'' ∧
          (((db'.order.circle .resolution).id.isSome || unresolved) = true → db'' = db'))
          fun db'' ⟨validated, asked⟩ => ?_
        refine conclude_meets (validated.prepared prepared) validated.rows fun started => ?_
        rw [← validated.rows, asked (by rw [started, Bool.or_true])]
        exact unaborted started
    · exact .bind_ (meets_rows fun db' phase => settlementFails_meets phase) fun _ =>
        .pure_ fun _ _ => trivial
  next =>
    exact .bind_ (settlementFails_meets phase) fun _ => .pure_ fun _ _ => trivial

end Settle

section Payout

variable {circle : Circle} {d : Dependencies} {db : Database}

/-- The payout has failed for now. -/
theorem payoutFails_meets {error : String} (phase : db.order.state.phase = .payout) :
    Meets circle d (fun s => s.db = db)
      (Processor.updateOrder .payoutFailed fun _ => { lastError := some (some error) })
      (fun _ _ => True) (fun _ _ => False) := by
  refine noted_meets phase.symm ?_ (fun other => by simp at other) (by simp)
  generalize db.order.state = state at phase
  cases state with
  | verdictSubmitted => exact .inr .payoutFails
  | payoutFailed => exact .inl rfl
  | _ => cases phase

theorem coalesce_ne_none {α : Type} {first second : Option α} (given : first ≠ none) :
    coalesce first second ≠ none := by
  cases first with
  | none => exact absurd rfl given
  | some a => simp [coalesce]

/-- The payout's completion is written. -/
theorem Sound.paid {s : Store} (sound : Sound circle d s) (fields : Database.OrderUpdate)
    (phase : s.db.order.state.phase = .payout) (completed : s.Completed .payout)
    (linked : ∀ operation id, fields.circleId operation = some id →
      s.db.circleId operation = some id)
    (hash : fields.transactionHash .payout ≠ none) (paidAt : fields.paidAt ≠ none)
    (rest : fields.evidenceHash = none ∧ fields.evidenceJson = none ∧
      fields.settlementAbortCode = none) :
    Sound circle d { s with db := s.db.updated .reviewerPaid fields } ∧
      Proceeds s { s with db := s.db.updated .reviewerPaid fields } := by
  obtain ⟨unhashed, unwritten, unaborted⟩ := rest
  obtain ⟨unpaid, -⟩ := sound.phases.unpaid (.inr phase)
  have paid : Store.Paid { s with db := s.db.updated .reviewerPaid fields } :=
    ⟨completed.same rfl rfl, coalesce_ne_none hash, coalesce_ne_none paidAt⟩
  refine ⟨⟨?_, sound.phases.payout phase ⟨⟨rfl, rfl, rfl, rfl, rfl⟩, ⟨rfl, rfl, rfl⟩, rfl⟩ rfl id
    ?_ ?_ (.inr ⟨rfl, paid⟩)⟩, ?_⟩
  · rw [updated_book _ linked]
    exact sound.ledger
  · simp only [Database.updated, Database.updatedOrder, unhashed]
    rfl
  · simp only [Database.updated, Database.updatedOrder, unwritten]
    rfl
  · exact {
      purchase := rfl
      state := .inr (.pay phase)
      claim := .inl ⟨rfl, rfl, rfl, rfl, rfl⟩
      verdict := .inl ⟨⟨rfl, rfl, rfl⟩, rfl⟩
      payout := fun before => absurd unpaid before
      abort := fun _ => by
        simp only [Database.updated, Database.updatedOrder, unaborted]
        rfl
      requests := .inl rfl
      keys := fun _ renewed => absurd rfl renewed
      circle := .refl _ }

theorem paid_meets {id : TransactionId} {txHash : Hex} (phase : db.order.state.phase = .payout)
    (linked : db.circleId .payout = some id) :
    Meets circle d (fun s => s.db = db ∧ s.Completed .payout)
      (Processor.updateOrder .reviewerPaid fun inputs =>
        { circleId := Processor.completed .payout id
          transactionHash := Processor.completed .payout txHash
          paidAt := some inputs.now
          lastError := some none })
      (fun _ s => s.db.order.state = .reviewerPaid) (fun _ _ => False) := by
  refine update_at ((stable_at db).and Store.Completed.stable) ?_
  rintro s ⟨rfl, completed⟩ sound inputs
  obtain ⟨sound', proceeds⟩ := sound.paid
    { circleId := Processor.completed .payout id
      transactionHash := Processor.completed .payout txHash
      paidAt := some inputs.now
      lastError := some none } phase completed (completed_linked linked)
    (by simp [Processor.completed]) (by simp) ⟨rfl, rfl, rfl⟩
  exact ⟨sound', proceeds, rfl⟩

theorem Database.payoutAddress_of_snapshot {order : ReviewOrder} {reviewer : ReviewerSnapshot}
    (snapshot : Database.reviewerSnapshot order = some reviewer) :
    order.reviewerPayoutAddress = some reviewer.payoutAddress := by
  unfold Database.reviewerSnapshot at snapshot
  split at snapshot
  next address _ _ _ there _ =>
    split at snapshot
    next => cases snapshot
    next =>
      cases snapshot
      exact there
  next => cases snapshot

/-- Rows that a payout may begin with. -/
structure Payable (d : Dependencies) (db : Database) : Prop where
  phase : db.order.state.phase = .payout
  quiet : db.Quiet d.config.circleMaxAttempts
  unresolved : db.hasCurrentCircleRequestStarted .resolution = false

theorem readyForPayout_meets (payable : Payable d db) :
    Meets circle d (fun s => s.db = db) (Processor.readyForPayout d db.order)
      (fun order s => Validated db order s.db) (fun _ s => s.db.order.state.phase = .payout) := by
  have still {order : ReviewOrder} {db' : Database} (validated : Validated db order db') :
      db'.order.state.phase = .payout := by
    rw [validated.rows, validated.state]
    exact payable.phase
  unfold Processor.readyForPayout
  split
  next =>
    refine .pure_ ?_
    rintro s rfl
    exact .refl _
  next =>
    dsimp only
    refine .bind_ ((validatedOrAborted_meets payable.quiet
      ⟨.inl payable.phase, payable.unresolved⟩).weaken (fun _ here => here) (fun _ _ after => after)
      ?_) fun order => ?_
    · rintro _ s rfl
      exact payable.phase
    split
    next => exact .pure_ fun _ after => after
    next =>
      refine meets_rows (F := Validated db order) fun db' validated => ?_
      refine .bind_ (read_at (Q := fun _ s => s.db = db') fun s here _ _ => here) fun late => ?_
      refine .bind_ (M := fun _ s => s.db = db') ?_ fun _ => .bind_ ((perform_at
        (validated.quiet payable.quiet) fun _ => rfl).weaken (fun _ here => here)
        (fun _ _ after => after) ?_) fun _ => .pure_ ?_
      · unfold Processor.throwIf
        split
        next =>
          refine .throw_ ?_
          rintro s rfl
          exact still validated
        next => exact .pure_ fun _ here => here
      · rintro _ s rfl
        exact still validated
      · rintro s rfl
        exact validated

theorem readyUnlessRequested_meets (payable : Payable d db) :
    Meets circle d (fun s => s.db = db) (Processor.readyUnlessRequested d db.order)
      (fun order s => Validated db order s.db) (fun _ s => s.db.order.state.phase = .payout) := by
  unfold Processor.readyUnlessRequested
  split
  next => exact readyForPayout_meets payable
  next =>
    refine .pure_ ?_
    rintro s rfl
    exact .refl _

theorem payReviewer_meets (payable : Payable d db) :
    Meets circle d (fun s => s.db = db) (Processor.payReviewer d db.order) (fun _ _ => True)
      (fun _ _ => False) := by
  unfold Processor.payReviewer
  split
  next reviewer snapshot _ =>
    split
    next => exact .bind_ (payoutFails_meets payable.phase) fun _ => .pure_ fun _ _ => trivial
    next =>
      refine .tryCatch_ (M := fun _ s => s.db.order.state.phase = .payout) ?_ fun error => ?_
      · refine .bind_ (readyUnlessRequested_meets payable) fun order => ?_
        refine meets_rows (F := Validated db order) fun db' validated => ?_
        obtain rfl := validated.rows
        have permitted : db'.order.Permits .payout :=
          (congrArg ReviewOrderState.phase validated.state).trans payable.phase
        have address := Database.payoutAddress_of_snapshot
          (validated.terms.snapshot.trans snapshot)
        refine .bind_ ((circleOperation_meets ⟨permitted, validated.quiet payable.quiet⟩
          (transfer_meets .payout ⟨_, address, rfl⟩)).weaken (fun _ here => here)
          (fun _ _ after => after) (fun _ _ beside => beside.permits permitted)) fun result => ?_
        obtain ⟨payout, txHash⟩ := result
        refine .bind_ (.weaken (meets_rows_and
          (F := fun db'' => db'.Beside .payout db'' ∧ db''.circleId .payout = some payout.id)
          (R := fun s => s.Completed .payout) fun db'' known =>
          paid_meets (known.1.permits permitted) known.2)
          (fun s after => ⟨⟨after.1, after.2.1⟩, after.2.2⟩) (fun _ _ after => after)
          (fun _ _ no => no.elim)) fun _ => ?_
        refine meets_rows (F := fun db'' => db''.order.state = .reviewerPaid) fun db'' state => ?_
        refine .bind_ (read_at (Q := fun order s => order = db''.order ∧ s.db = db'')
          fun s here _ _ => ⟨rfl, here⟩) fun paidOrder => ?_
        refine .known (fun _ here => here.1) ?_
        rintro rfl
        exact (settle_meets (congrArg ReviewOrderState.phase state)).weaken (fun _ here => here.2)
          (fun _ _ after => after) (fun _ _ no => no.elim)
      · exact .bind_ (meets_rows fun db' phase => payoutFails_meets phase) fun _ =>
          .pure_ fun _ _ => trivial
  next => exact .bind_ (payoutFails_meets payable.phase) fun _ => .pure_ fun _ _ => trivial

end Payout

end VapiArc.Review
