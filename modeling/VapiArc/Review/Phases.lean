import VapiArc.Review.Ledger

/-!
# What an order's state says

How far the payout, the resolution and the refund of an order have come in each of its
states, and what was requested from Circle until then.
-/
namespace VapiArc.Review

open Checked Function Async Transition

/-- What an order waits for. -/
inductive Phase where
  | verdict
  | payout
  | settlement
  | settled
  | ended
  deriving DecidableEq, Repr

namespace ReviewOrderState

def phase : ReviewOrderState → Phase
  | .paid | .dispatched | .claimed => .verdict
  | .verdictSubmitted | .payoutFailed => .payout
  | .reviewerPaid | .reviewerPaidSettlementFailed => .settlement
  | .settled => .settled
  | .expired | .refunded => .ended

/-- The moves of the state machine. -/
inductive Next : ReviewOrderState → ReviewOrderState → Prop
  | dispatch : Next .paid .dispatched
  | redispatch : Next .dispatched .paid
  | claim : Next .dispatched .claimed
  | verdict : Next .claimed .verdictSubmitted
  | expire {state} : state.phase = .verdict → Next state .expired
  | payoutFails : Next .verdictSubmitted .payoutFailed
  | pay {state} : state.phase = .payout → Next state .reviewerPaid
  | settlementFails : Next .reviewerPaid .reviewerPaidSettlementFailed
  | retrySettlement : Next .reviewerPaidSettlementFailed .reviewerPaid
  | settle : Next .reviewerPaid .settled
  | refundFails : Next .reviewerPaid .expired
  | refundAborted : Next .reviewerPaid .refunded
  | refund : Next .expired .refunded

end ReviewOrderState

namespace ReviewOrder

/-- A state in which Circle may be asked for an operation. -/
def Permits (order : ReviewOrder) : CircleOperation → Prop
  | .payout => order.state.phase = .payout
  | .resolution => order.state = .reviewerPaid ∧ order.settlementAbortCode = none
  | .refund => order.state = .expired ∨
      order.state = .reviewerPaid ∧ order.settlementAbortCode ≠ none

/-- The evidence that every settlement of the order makes. -/
def EvidenceIs (order : ReviewOrder) (evidence : HumanEvidence) : Prop :=
  ∃ reviewer payoutTransactionHash paidAt, Database.reviewerSnapshot order = some reviewer ∧
    (order.circle .payout).hash = some payoutTransactionHash ∧ order.paidAt = some paidAt ∧
    ∀ now, createHumanEvidence order reviewer payoutTransactionHash (some paidAt) now = .ok evidence

/-- What Circle is asked to do for an operation. -/
def Asks (lib : Library) (order : ReviewOrder) : CircleOperation → Payload → Prop
  | .payout, payload => ∃ address, order.reviewerPayoutAddress = some address ∧
      payload = .transfer address order.purchase.reward
  | .refund, payload => payload = .transfer order.purchase.payer order.purchase.reviewPrice
  | .resolution, payload => ∃ evidence reviewer decision payoutTransactionHash,
      order.EvidenceIs evidence ∧ Database.reviewerSnapshot order = some reviewer ∧
      order.decision = some decision ∧ (order.circle .payout).hash = some payoutTransactionHash ∧
      payload = .humanResolve order.purchase.jobId reviewer.payoutAddress (decision = .approve)
        order.purchase.reward (humanEvidenceHash lib evidence) payoutTransactionHash

structure SameClaim (order order' : ReviewOrder) : Prop where
  reviewerId : order'.reviewerId = order.reviewerId
  reviewerAlias : order'.reviewerAlias = order.reviewerAlias
  reviewerPayoutAddress : order'.reviewerPayoutAddress = order.reviewerPayoutAddress
  reviewerTelegramIdentityHash :
    order'.reviewerTelegramIdentityHash = order.reviewerTelegramIdentityHash
  claimedAt : order'.claimedAt = order.claimedAt

structure SameVerdict (order order' : ReviewOrder) : Prop where
  decision : order'.decision = order.decision
  reasoning : order'.reasoning = order.reasoning
  verdictAt : order'.verdictAt = order.verdictAt

/-- The purchase, the claim and the verdict of two orders are the same. -/
structure SameReview (order order' : ReviewOrder) : Prop
    extends SameClaim order order', SameVerdict order order' where
  purchase : order'.purchase = order.purchase

/-- And so are their payouts. -/
structure SameTerms (order order' : ReviewOrder) : Prop extends SameReview order order' where
  paidAt : order'.paidAt = order.paidAt
  payoutHash : (order'.circle .payout).hash = (order.circle .payout).hash

variable {order order' : ReviewOrder}

/-- The columns an order may change and keep its terms. -/
theorem SameTerms.of_columns
    (columns : order' = { order with
      state := order'.state
      evidenceHash := order'.evidenceHash
      evidenceJson := order'.evidenceJson
      circle := order'.circle
      claimExpiresAt := order'.claimExpiresAt
      dispatchCount := order'.dispatchCount
      settledAt := order'.settledAt
      settlementAbortCode := order'.settlementAbortCode
      settlementAbortedAt := order'.settlementAbortedAt
      lastError := order'.lastError })
    (payoutHash : (order'.circle .payout).hash = (order.circle .payout).hash) :
    SameTerms order order' := by
  rw [columns]
  exact ⟨⟨⟨rfl, rfl, rfl, rfl, rfl⟩, ⟨rfl, rfl, rfl⟩, rfl⟩, rfl, payoutHash⟩

theorem SameTerms.refl (order : ReviewOrder) : SameTerms order order :=
  .of_columns rfl rfl

theorem SameReview.snapshot (same : SameReview order order') :
    Database.reviewerSnapshot order' = Database.reviewerSnapshot order := by
  simp only [Database.reviewerSnapshot, same.reviewerId, same.reviewerAlias,
    same.reviewerPayoutAddress, same.reviewerTelegramIdentityHash]

theorem SameTerms.evidenceIs (same : SameTerms order order') {evidence : HumanEvidence}
    (here : order.EvidenceIs evidence) : order'.EvidenceIs evidence := by
  obtain ⟨reviewer, payoutTransactionHash, paidAt, snapshot, hash, paid, made⟩ := here
  refine ⟨reviewer, payoutTransactionHash, paidAt, same.snapshot.trans snapshot,
    same.payoutHash.trans hash, same.paidAt.trans paid, fun now => ?_⟩
  rw [← made now]
  simp only [createHumanEvidence, same.purchase, same.decision, same.reasoning, same.verdictAt]

theorem SameTerms.asks (same : SameTerms order order') {lib : Library}
    {operation : CircleOperation} {payload : Payload} (here : order.Asks lib operation payload) :
    order'.Asks lib operation payload := by
  cases operation with
  | payout => simpa only [Asks, same.purchase, same.reviewerPayoutAddress] using here
  | refund => simpa only [Asks, same.purchase] using here
  | resolution =>
    obtain ⟨evidence, reviewer, decision, hash, is, snapshot, decided, paid, rfl⟩ := here
    refine ⟨evidence, reviewer, decision, hash, same.evidenceIs is, same.snapshot.trans snapshot,
      same.decision.trans decided, same.payoutHash.trans paid, ?_⟩
    rw [same.purchase]

theorem EvidenceIs.unique {evidence evidence' : HumanEvidence} (first : order.EvidenceIs evidence)
    (second : order.EvidenceIs evidence') : evidence = evidence' := by
  obtain ⟨reviewer, hash, paidAt, snapshot, payout, paid, made⟩ := first
  obtain ⟨reviewer', hash', paidAt', snapshot', payout', paid', made'⟩ := second
  cases snapshot.symm.trans snapshot'
  cases payout.symm.trans payout'
  cases paid.symm.trans paid'
  cases (made 0).symm.trans (made' 0)
  rfl

end ReviewOrder

namespace Store

variable (s : Store)

def Asked (operation : CircleOperation) : Prop := ∃ r ∈ s.requested, r.operation = operation

/-- The transaction of the operation's current key has completed. -/
def Completed (operation : CircleOperation) : Prop :=
  ∃ transaction, s.circle (s.db.circleIdempotencyKey operation) = some transaction ∧
    transaction.request.operation = operation ∧ transaction.state = .complete

structure Paid : Prop where
  completed : s.Completed .payout
  hash : (s.db.order.circle .payout).hash ≠ none
  paidAt : s.db.order.paidAt ≠ none

end Store

section Facts

variable (lib : Library)

/-- What holds of the rows of an order in the phases of its life. -/
structure Phases (s : Store) : Prop where
  awaitsVerdict : s.db.order.state.phase = .verdict →
    s.requested = [] ∧ s.db.order.decision = none ∧ s.db.order.settlementAbortCode = none
  unclaimed : s.db.order.state = .paid ∨ s.db.order.state = .dispatched →
    s.db.order.reviewerId = none
  reviewed : s.db.order.state.phase ≠ .verdict → s.db.order.state.phase ≠ .ended →
    s.db.order.decision ≠ none ∧ s.db.order.reviewerId ≠ none
  unreviewed : s.db.order.decision = none → ∀ r ∈ s.requested, r.operation = .refund
  unpaid : s.db.order.state.phase = .verdict ∨ s.db.order.state.phase = .payout →
    s.db.order.paidAt = none ∧ s.db.order.evidenceHash = none ∧ s.db.order.evidenceJson = none
  paid : s.db.order.decision ≠ none → s.db.order.state.phase ≠ .payout → s.Paid
  aborted : s.db.order.decision ≠ none → s.db.order.state.phase = .ended →
    s.db.order.settlementAbortCode ≠ none
  resolving : s.db.hasCurrentCircleRequestStarted .resolution = true →
    (s.db.order.state.phase = .settlement ∨ s.db.order.state.phase = .settled) ∧
      s.db.order.settlementAbortCode = none
  resolutions : s.Asked .resolution → s.db.order.paidAt ≠ none
  refunding : s.Asked .refund → s.db.order.state.phase = .ended ∨
    s.db.order.state.phase = .settlement ∧ s.db.order.settlementAbortCode ≠ none
  settled : s.db.order.state.phase = .settled →
    s.Completed .resolution ∧ s.db.order.evidenceHash ≠ none
  refunded : s.db.order.state = .refunded → s.Completed .refund
  requests : ∀ r ∈ s.requested, s.db.order.Asks lib r.operation r.payload
  evidence : s.db.order.evidenceHash = none ∧ s.db.order.evidenceJson = none ∨
    ∃ evidence, s.db.order.EvidenceIs evidence ∧
      s.db.order.evidenceHash = some (humanEvidenceHash lib evidence) ∧
      s.db.order.evidenceJson = some (serializeHumanEvidence lib evidence)

variable {lib} {s s' : Store}

/-- Before a payout nothing but the review itself is on record. -/
theorem Phases.reviewing (requested : s.requested = [])
    (unpaid : s.db.order.paidAt = none ∧ s.db.order.evidenceHash = none ∧
      s.db.order.evidenceJson = none)
    (resolving : s.db.hasCurrentCircleRequestStarted .resolution = false)
    (state : s.db.order.state.phase = .verdict ∧ s.db.order.decision = none ∧
        s.db.order.settlementAbortCode = none ∧
        (s.db.order.state = .paid ∨ s.db.order.state = .dispatched →
          s.db.order.reviewerId = none) ∨
      s.db.order.state.phase = .payout ∧ s.db.order.decision ≠ none ∧
        s.db.order.reviewerId ≠ none ∨
      s.db.order.state = .expired ∧ s.db.order.decision = none) : Phases lib s := by
  have none (r : CircleRequest) : r ∉ s.requested := by simp [requested]
  constructor
  case unreviewed => exact fun _ r member => absurd member (none r)
  case unpaid => exact fun _ => unpaid
  case resolving => exact fun started => absurd started (by simp [resolving])
  case resolutions => exact fun ⟨r, member, _⟩ => absurd member (none r)
  case refunding => exact fun ⟨r, member, _⟩ => absurd member (none r)
  case requests => exact fun r member => absurd member (none r)
  case evidence => exact .inl unpaid.2
  case refunded =>
    intro refunded
    rw [refunded] at state
    rcases state with ⟨phase, -⟩ | ⟨phase, -⟩ | ⟨other, -⟩
    · cases phase
    · cases phase
    · cases other
  all_goals
    rcases state with ⟨phase, undecided, unaborted, unclaimed⟩ | ⟨phase, decided, claimed⟩ |
      ⟨expired, undecided⟩
  all_goals grind [ReviewOrderState.phase]

theorem Opening.phases (opening : Opening) : Phases lib opening.store :=
  .reviewing rfl ⟨rfl, rfl, rfl⟩ rfl (.inl ⟨rfl, rfl, rfl, fun _ => rfl⟩)

/-- The terms of a review, and what is on record about its operations, are the same. -/
structure Kept (s s' : Store) : Prop where
  terms : ReviewOrder.SameTerms s.db.order s'.db.order
  resolving : s'.db.hasCurrentCircleRequestStarted .resolution = true →
    s.db.hasCurrentCircleRequestStarted .resolution = true
  requested : s'.requested = s.requested
  payout : s.Completed .payout → s'.Completed .payout
  resolution : s.db.order.state.phase = .settled → s.Completed .resolution →
    s'.Completed .resolution

namespace Kept

variable (kept : Kept s s')
include kept

theorem asked {operation : CircleOperation} (asked : s'.Asked operation) : s.Asked operation := by
  obtain ⟨r, member, same⟩ := asked
  rw [kept.requested] at member
  exact ⟨r, member, same⟩

theorem paid (paid : s.Paid) : s'.Paid where
  completed := kept.payout paid.completed
  hash := by rw [kept.terms.payoutHash]; exact paid.hash
  paidAt := by rw [kept.terms.paidAt]; exact paid.paidAt

theorem requests (phases : Phases lib s) :
    ∀ r ∈ s'.requested, s'.db.order.Asks lib r.operation r.payload := by
  intro r member
  rw [kept.requested] at member
  exact kept.terms.asks (phases.requests r member)

theorem evidence {hash : Option Hex} {json : Option String}
    (evidence : hash = none ∧ json = none ∨ ∃ evidence, s.db.order.EvidenceIs evidence ∧
      hash = some (humanEvidenceHash lib evidence) ∧
      json = some (serializeHumanEvidence lib evidence)) :
    hash = none ∧ json = none ∨ ∃ evidence, s'.db.order.EvidenceIs evidence ∧
      hash = some (humanEvidenceHash lib evidence) ∧
      json = some (serializeHumanEvidence lib evidence) := by
  rcases evidence with nothing | ⟨evidence, is, written⟩
  · exact .inl nothing
  · exact .inr ⟨evidence, kept.terms.evidenceIs is, written⟩

/-- The order stays in its phase; evidence is only written when the reviewer has been paid. -/
theorem phases (phases : Phases lib s)
    (phase : s'.db.order.state.phase = s.db.order.state.phase)
    (abort : s'.db.order.settlementAbortCode = s.db.order.settlementAbortCode)
    (unclaimed : s'.db.order.state = .paid ∨ s'.db.order.state = .dispatched →
      s.db.order.reviewerId = none)
    (refunded : s'.db.order.state = .refunded → s'.Completed .refund)
    (written : s'.db.order.evidenceHash = s.db.order.evidenceHash ∧
        s'.db.order.evidenceJson = s.db.order.evidenceJson ∨
      s.db.order.state.phase = .settlement ∧ ∃ evidence, s.db.order.EvidenceIs evidence ∧
        s'.db.order.evidenceHash = some (humanEvidenceHash lib evidence) ∧
        s'.db.order.evidenceJson = some (serializeHumanEvidence lib evidence)) :
    Phases lib s' := by
  constructor
  case awaitsVerdict =>
    rw [phase, abort, kept.requested, kept.terms.decision]
    exact phases.awaitsVerdict
  case unclaimed =>
    rw [kept.terms.reviewerId]
    exact unclaimed
  case reviewed =>
    rw [phase, kept.terms.decision, kept.terms.reviewerId]
    exact phases.reviewed
  case unreviewed =>
    rw [kept.terms.decision, kept.requested]
    exact phases.unreviewed
  case unpaid =>
    intro before
    rw [phase] at before
    rcases written with ⟨hash, json⟩ | ⟨settlement, -⟩
    · rw [kept.terms.paidAt, hash, json]
      exact phases.unpaid before
    · rw [settlement] at before
      simp at before
  case paid =>
    rw [kept.terms.decision, phase]
    exact fun decided other => kept.paid (phases.paid decided other)
  case aborted =>
    rw [kept.terms.decision, phase, abort]
    exact phases.aborted
  case resolving =>
    rw [phase, abort]
    exact fun started => phases.resolving (kept.resolving started)
  case resolutions =>
    rw [kept.terms.paidAt]
    exact fun asked => phases.resolutions (kept.asked asked)
  case refunding =>
    rw [phase, abort]
    exact fun asked => phases.refunding (kept.asked asked)
  case settled =>
    intro settled
    rw [phase] at settled
    obtain ⟨completed, stored⟩ := phases.settled settled
    refine ⟨kept.resolution settled completed, ?_⟩
    rcases written with ⟨hash, -⟩ | ⟨settlement, -⟩
    · rwa [hash]
    · rw [settlement] at settled
      cases settled
  case refunded => exact refunded
  case requests => exact kept.requests phases
  case evidence =>
    apply kept.evidence
    rcases written with ⟨hash, json⟩ | ⟨-, evidence, written⟩
    · rw [hash, json]
      exact phases.evidence
    · exact .inr ⟨evidence, written⟩

/-- The settlement is aborted before its resolution has been requested. -/
theorem abort (phases : Phases lib s) (state : s'.db.order.state = s.db.order.state)
    (phase : s.db.order.state.phase = .payout ∨ s.db.order.state.phase = .settlement)
    (unresolved : s.db.hasCurrentCircleRequestStarted .resolution = false)
    (abort : s'.db.order.settlementAbortCode ≠ none)
    (hash : s'.db.order.evidenceHash = s.db.order.evidenceHash)
    (json : s'.db.order.evidenceJson = s.db.order.evidenceJson) : Phases lib s' := by
  -- an abort is noted while payout or settlement is open and no resolution is out
  constructor
  case awaitsVerdict =>
    intro verdict
    rw [state] at verdict
    rw [verdict] at phase
    simp at phase
  case unclaimed =>
    rw [state, kept.terms.reviewerId]
    exact phases.unclaimed
  case reviewed =>
    rw [state, kept.terms.decision, kept.terms.reviewerId]
    exact phases.reviewed
  case unreviewed =>
    rw [kept.terms.decision, kept.requested]
    exact phases.unreviewed
  case unpaid =>
    rw [state, kept.terms.paidAt, hash, json]
    exact phases.unpaid
  case paid =>
    rw [kept.terms.decision, state]
    exact fun decided other => kept.paid (phases.paid decided other)
  case aborted => exact fun _ _ => abort
  -- here the abort would come too late, so no resolution may have started
  case resolving =>
    intro started
    rw [kept.resolving started] at unresolved
    cases unresolved
  case resolutions =>
    rw [kept.terms.paidAt]
    exact fun asked => phases.resolutions (kept.asked asked)
  case refunding =>
    intro asked
    rw [state]
    rcases phases.refunding (kept.asked asked) with ended | ⟨settlement, -⟩
    · exact .inl ended
    · exact .inr ⟨settlement, abort⟩
  case settled =>
    intro settled
    rw [state] at settled
    rw [settled] at phase
    simp at phase
  case refunded =>
    intro refunded
    rw [state] at refunded
    rw [refunded] at phase
    simp [ReviewOrderState.phase] at phase
  case requests => exact kept.requests phases
  case evidence =>
    rw [hash, json]
    exact kept.evidence phases.evidence

/-- The resolution has completed. -/
theorem settle (phases : Phases lib s) (permitted : s.db.order.Permits .resolution)
    (state : s'.db.order.state = .settled) (abort : s'.db.order.settlementAbortCode = none)
    (completed : s'.Completed .resolution) (stored : s.db.order.evidenceHash ≠ none)
    (hash : s'.db.order.evidenceHash = s.db.order.evidenceHash)
    (json : s'.db.order.evidenceJson = s.db.order.evidenceJson) : Phases lib s' := by
  obtain ⟨before, unaborted⟩ := permitted
  have phase : s.db.order.state.phase = .settlement := by rw [before]; rfl
  obtain ⟨decided, claimed⟩ := phases.reviewed (by rw [phase]; simp) (by rw [phase]; simp)
  have paid := kept.paid (phases.paid decided (by rw [phase]; simp))
  have undecided : s'.db.order.decision ≠ none := by rwa [kept.terms.decision]
  constructor
  case awaitsVerdict => rw [state]; exact fun other => absurd other (by simp [ReviewOrderState.phase])
  case unclaimed => rw [state]; exact fun other => absurd other (by simp)
  case reviewed => exact fun _ _ => ⟨undecided, by rwa [kept.terms.reviewerId]⟩
  case unreviewed => exact fun none => absurd none undecided
  case unpaid => rw [state]; exact fun other => absurd other (by simp [ReviewOrderState.phase])
  case paid => exact fun _ _ => paid
  case aborted => rw [state]; exact fun _ other => absurd other (by simp [ReviewOrderState.phase])
  case resolving => exact fun _ => ⟨.inr (by rw [state]; rfl), abort⟩
  case resolutions => exact fun _ => paid.paidAt
  case refunding =>
    intro asked
    rcases phases.refunding (kept.asked asked) with ended | ⟨-, aborted⟩
    · rw [phase] at ended
      cases ended
    · exact absurd unaborted aborted
  case settled => exact fun _ => ⟨completed, by rwa [hash]⟩
  case refunded => rw [state]; exact fun other => absurd other (by simp)
  case requests => exact kept.requests phases
  case evidence =>
    rw [hash, json]
    exact kept.evidence phases.evidence

/-- A refund has completed, or it has failed for now. -/
theorem ended (phases : Phases lib s) (permitted : s.db.order.Permits .refund)
    (phase : s'.db.order.state.phase = .ended)
    (abort : s'.db.order.settlementAbortCode = s.db.order.settlementAbortCode)
    (completed : s'.db.order.state = .refunded → s'.Completed .refund)
    (hash : s'.db.order.evidenceHash = s.db.order.evidenceHash)
    (json : s'.db.order.evidenceJson = s.db.order.evidenceJson) : Phases lib s' := by
  -- a refund is permitted only where no resolution was asked for
  have unresolved : s.db.hasCurrentCircleRequestStarted .resolution ≠ true := by
    intro started
    obtain ⟨settling, unaborted⟩ := phases.resolving started
    rcases permitted with expired | ⟨-, aborted⟩
    · rw [expired] at settling
      simp [ReviewOrderState.phase] at settling
    · exact aborted unaborted
  -- and never while a payout is open
  have waiting : s.db.order.state.phase ≠ .payout := by
    rcases permitted with state | ⟨state, -⟩
    · simp [state, ReviewOrderState.phase]
    · simp [state, ReviewOrderState.phase]
  constructor
  case awaitsVerdict => rw [phase]; exact fun other => absurd other (by simp)
  case unclaimed =>
    intro other
    rcases other with state | state
    · rw [state] at phase
      cases phase
    · rw [state] at phase
      cases phase
  case reviewed => exact fun _ other => absurd phase other
  case unreviewed =>
    rw [kept.terms.decision, kept.requested]
    exact phases.unreviewed
  case unpaid => rw [phase]; exact fun other => absurd other (by simp)
  case paid =>
    rw [kept.terms.decision]
    exact fun decided _ => kept.paid (phases.paid decided waiting)
  case aborted =>
    rw [kept.terms.decision, abort]
    intro decided _
    rcases permitted with expired | ⟨-, aborted⟩
    · exact phases.aborted decided (by rw [expired]; rfl)
    · exact aborted
  case resolving => exact fun started => absurd (kept.resolving started) unresolved
  case resolutions =>
    rw [kept.terms.paidAt]
    exact fun asked => phases.resolutions (kept.asked asked)
  case refunding => exact fun _ => .inl phase
  case settled => rw [phase]; exact fun other => absurd other (by simp)
  case refunded => exact completed
  case requests => exact kept.requests phases
  case evidence =>
    rw [hash, json]
    exact kept.evidence phases.evidence

end Kept

/-- What happens to the payout before the settlement begins. -/
theorem Phases.payout (phases : Phases lib s) (phase : s.db.order.state.phase = .payout)
    (same : ReviewOrder.SameReview s.db.order s'.db.order)
    (requested : s'.requested = s.requested)
    (resolving : s'.db.hasCurrentCircleRequestStarted .resolution = true →
      s.db.hasCurrentCircleRequestStarted .resolution = true)
    (hash : s'.db.order.evidenceHash = s.db.order.evidenceHash)
    (json : s'.db.order.evidenceJson = s.db.order.evidenceJson)
    (progress : s'.db.order.state.phase = .payout ∧ s'.db.order.paidAt = s.db.order.paidAt ∨
      s'.db.order.state.phase = .settlement ∧ s'.Paid) : Phases lib s' := by
  obtain ⟨decided, claimed⟩ := phases.reviewed (by rw [phase]; simp) (by rw [phase]; simp)
  obtain ⟨unpaid, unhashed, unwritten⟩ := phases.unpaid (.inr phase)
  -- what a settlement has requested rules out that the order is still being paid
  have unresolved : s'.db.hasCurrentCircleRequestStarted .resolution ≠ true := by
    intro started
    obtain ⟨settling, -⟩ := phases.resolving (resolving started)
    rw [phase] at settling
    simp at settling
  have unrefunded : ¬ s'.Asked .refund := by
    rintro ⟨r, member, refund⟩
    rw [requested] at member
    rcases phases.refunding ⟨r, member, refund⟩ with ended | ⟨settling, -⟩
    · rw [phase] at ended
      cases ended
    · rw [phase] at settling
      cases settling
  -- the resolution is requested after the reviewer has been paid
  have unasked : ∀ r ∈ s.requested, r.operation ≠ .resolution := fun r member resolution =>
    phases.resolutions ⟨r, member, resolution⟩ unpaid
  constructor
  case awaitsVerdict =>
    rcases progress with ⟨now, -⟩ | ⟨now, -⟩ <;> (rw [now]; exact fun other => absurd other (by simp))
  case unclaimed =>
    intro other
    rcases progress with ⟨now, -⟩ | ⟨now, -⟩ <;> rcases other with state | state <;>
      (rw [state] at now; cases now)
  case reviewed =>
    rw [same.decision, same.reviewerId]
    exact fun _ _ => ⟨decided, claimed⟩
  case unreviewed =>
    rw [same.decision]
    exact fun none => absurd none decided
  case unpaid =>
    -- the hash of the evidence is written when the settlement begins
    intro before
    rcases progress with ⟨-, kept⟩ | ⟨now, -⟩
    · rw [kept, hash, json]
      exact ⟨unpaid, unhashed, unwritten⟩
    · rw [now] at before
      simp at before
  case paid =>
    intro _ other
    rcases progress with ⟨now, -⟩ | ⟨-, paid⟩
    · exact absurd now other
    · exact paid
  case aborted =>
    intro _ other
    rcases progress with ⟨now, -⟩ | ⟨now, -⟩ <;> (rw [now] at other; cases other)
  case resolving => exact fun started => absurd started unresolved
  case resolutions =>
    rintro ⟨r, member, resolution⟩
    rw [requested] at member
    exact absurd resolution (unasked r member)
  case refunding => exact fun asked => absurd asked unrefunded
  case settled =>
    intro other
    rcases progress with ⟨now, -⟩ | ⟨now, -⟩ <;> (rw [now] at other; cases other)
  case refunded =>
    intro other
    rcases progress with ⟨now, -⟩ | ⟨now, -⟩ <;> (rw [other] at now; cases now)
  case requests =>
    intro r member
    rw [requested] at member
    have asks := phases.requests r member
    have other := unasked r member
    generalize r.operation = operation at asks other
    cases operation with
    -- what was requested is still what the order asks for: nothing of it has changed
    | payout => simpa only [ReviewOrder.Asks, same.purchase, same.reviewerPayoutAddress] using asks
    | refund => simpa only [ReviewOrder.Asks, same.purchase] using asks
    | resolution => exact absurd rfl other
  case evidence =>
    rw [hash, json]
    exact .inl ⟨unhashed, unwritten⟩

theorem ReviewOrder.Permits.not_verdict {order : ReviewOrder} {operation : CircleOperation}
    (permitted : order.Permits operation) : order.state.phase ≠ .verdict := by
  cases operation with
  | payout =>
    rw [show order.state.phase = .payout from permitted]
    simp
  | resolution => simp [permitted.1, ReviewOrderState.phase]
  | refund =>
    rcases permitted with state | ⟨state, -⟩
    · simp [state, ReviewOrderState.phase]
    · simp [state, ReviewOrderState.phase]

/-- Circle is asked for an operation. -/
theorem Phases.asked {r : CircleRequest} (phases : Phases lib s)
    (permitted : s.db.order.Permits r.operation) (asks : s.db.order.Asks lib r.operation r.payload) :
    Phases lib { s with requested := r :: s.requested } := by
  refine { phases with
    paid := fun decided other =>
      ⟨(phases.paid decided other).completed, (phases.paid decided other).hash,
        (phases.paid decided other).paidAt⟩
    awaitsVerdict := ?_, unreviewed := ?_, resolutions := ?_, refunding := ?_, requests := ?_ }
  · exact fun verdict => absurd verdict permitted.not_verdict
  · intro undecided r' member
    rcases List.mem_cons.mp member with rfl | old
    · generalize r'.operation = operation at permitted
      cases operation with
      | refund => rfl
      | payout =>
        have phase : s.db.order.state.phase = .payout := permitted
        exact absurd undecided (phases.reviewed (by rw [phase]; simp) (by rw [phase]; simp)).1
      | resolution =>
        have phase : s.db.order.state.phase = .settlement := by rw [permitted.1]; rfl
        exact absurd undecided (phases.reviewed (by rw [phase]; simp) (by rw [phase]; simp)).1
    · exact phases.unreviewed undecided r' old
  · rintro ⟨r', member, resolution⟩
    rcases List.mem_cons.mp member with rfl | old
    · rw [resolution] at permitted
      have phase : s.db.order.state.phase = .settlement := by rw [permitted.1]; rfl
      have decided := (phases.reviewed (by rw [phase]; simp) (by rw [phase]; simp)).1
      exact (phases.paid decided (by rw [phase]; simp)).paidAt
    · exact phases.resolutions ⟨r', old, resolution⟩
  · rintro ⟨r', member, refund⟩
    rcases List.mem_cons.mp member with rfl | old
    · rw [refund] at permitted
      rcases permitted with state | ⟨state, aborted⟩
      · exact .inl (congrArg ReviewOrderState.phase state)
      · exact .inr ⟨congrArg ReviewOrderState.phase state, aborted⟩
    · exact phases.refunding ⟨r', old, refund⟩
  · intro r' member
    rcases List.mem_cons.mp member with rfl | old
    · exact asks
    · exact phases.requests r' old

/-- The journal takes note of a request that is about to be sent. -/
theorem Phases.marked {operation : CircleOperation} (phases : Phases lib s)
    (permitted : s.db.order.Permits operation) :
    Phases lib { s with db := { s.db with
      journal := ⟨operation, s.db.circleIdempotencyKey operation⟩ :: s.db.journal } } := by
  refine { phases with
    paid := fun decided other =>
      ⟨(phases.paid decided other).completed, (phases.paid decided other).hash,
        (phases.paid decided other).paidAt⟩
    resolving := ?_ }
  intro started
  simp only [Database.hasCurrentCircleRequestStarted, List.contains_cons, Bool.or_eq_true,
    beq_iff_eq, JournalEntry.mk.injEq] at started
  rcases started with ⟨rfl, -⟩ | before
  · exact ⟨.inl (congrArg ReviewOrderState.phase permitted.1), permitted.2⟩
  · exact phases.resolving before

/-- Circle goes on. -/
theorem Phases.grown {circle' : IdempotencyKey → Option CircleTransaction} (phases : Phases lib s)
    (grows : CircleGrows s.circle circle') : Phases lib { s with circle := circle' } := by
  have completed (operation : CircleOperation) (completed : s.Completed operation) :
      Store.Completed { s with circle := circle' } operation := by
    obtain ⟨transaction, here, same, complete⟩ := completed
    obtain ⟨transaction', there, request, final⟩ := grows _ _ here
    refine ⟨transaction', there, by rw [request, same], ?_⟩
    rw [← complete]
    exact final (by rw [complete]; rfl)
  have kept : Kept s { s with circle := circle' } :=
    ⟨.of_columns rfl rfl, id, rfl, completed .payout,
      fun _ => completed .resolution⟩
  exact kept.phases phases rfl rfl phases.unclaimed
    (fun refunded => completed _ (phases.refunded refunded)) (.inl ⟨rfl, rfl⟩)

/-- The same transactions are on record under the same keys. -/
theorem Store.Completed.same {operation : CircleOperation} (completed : s.Completed operation)
    (circle : s'.circle = s.circle)
    (key : s'.db.circleIdempotencyKey operation = s.db.circleIdempotencyKey operation) :
    s'.Completed operation := by
  obtain ⟨transaction, here, same, complete⟩ := completed
  exact ⟨transaction, by rw [circle, key]; exact here, same, complete⟩

/-- The order moves within its phase, and its columns for Circle stay as they are. -/
theorem Phases.moved (phases : Phases lib s) (order' : ReviewOrder)
    (assignments : ReviewerId → Option AssignmentStatus) (terms : s.db.order.SameTerms order')
    (columns : order'.circle = s.db.order.circle)
    (phase : order'.state.phase = s.db.order.state.phase)
    (abort : order'.settlementAbortCode = s.db.order.settlementAbortCode)
    (unclaimed : order'.state = .paid ∨ order'.state = .dispatched → s.db.order.reviewerId = none)
    (refunded : order'.state = .refunded → s.db.order.state = .refunded)
    (hash : order'.evidenceHash = s.db.order.evidenceHash)
    (json : order'.evidenceJson = s.db.order.evidenceJson) :
    Phases lib { s with db := { s.db with order := order', assignments } } := by
  have key (operation : CircleOperation) :
      (order'.circle operation).key = (s.db.order.circle operation).key := by rw [columns]
  have kept : Kept s { s with db := { s.db with order := order', assignments } } := by
    refine ⟨terms, fun started => ?_, rfl, fun completed => completed.same rfl (key _),
      fun _ completed => completed.same rfl (key _)⟩
    simpa only [Database.hasCurrentCircleRequestStarted, Database.circleIdempotencyKey, key]
      using started
  exact kept.phases phases phase abort unclaimed
    (fun now => (phases.refunded (refunded now)).same rfl (key _)) (.inl ⟨hash, json⟩)

/-- The transaction of the operation is still to complete. -/
def ReviewOrder.Awaits (order : ReviewOrder) : CircleOperation → Prop
  | .payout => order.state.phase = .payout
  | .resolution => order.state.phase ≠ .settled
  | .refund => order.state ≠ .refunded

theorem ReviewOrder.Permits.awaits {order : ReviewOrder} {operation : CircleOperation}
    (permitted : order.Permits operation) : order.Awaits operation := by
  cases operation with
  | payout => exact permitted
  | resolution => simp [ReviewOrder.Awaits, permitted.1, ReviewOrderState.phase]
  | refund =>
    rcases permitted with state | ⟨state, -⟩
    · simp [ReviewOrder.Awaits, state]
    · simp [ReviewOrder.Awaits, state]

/-- An answer about a transaction is recorded, or its key is replaced by a fresh one. -/
theorem Phases.beside {operation : CircleOperation} {db' : Database} (phases : Phases lib s)
    (awaits : s.db.order.Awaits operation) (beside : s.db.Beside operation db')
    (journal : db'.journal = s.db.journal)
    (key : db'.circleIdempotencyKey = s.db.circleIdempotencyKey ∨
      ∃ nextKey, ¬ s.Used nextKey ∧
        db'.circleIdempotencyKey = update s.db.circleIdempotencyKey operation nextKey) :
    Phases lib { s with db := db' } := by
  have others (other : CircleOperation) (apart : other ≠ operation) :
      db'.circleIdempotencyKey other = s.db.circleIdempotencyKey other := by
    rcases key with same | ⟨nextKey, -, renewed⟩
    · rw [same]
    · rw [renewed, update_of_ne apart]
  have resolving (started : db'.hasCurrentCircleRequestStarted .resolution = true) :
      s.db.hasCurrentCircleRequestStarted .resolution = true := by
    by_cases own : .resolution = operation
    · rcases key with same | ⟨nextKey, unused, renewed⟩
      · simpa only [Database.hasCurrentCircleRequestStarted, journal, same] using started
      · subst own
        simp only [Database.hasCurrentCircleRequestStarted, journal, renewed, update_self,
          List.contains_iff_mem] at started
        exact absurd (.inr (.inr (.inl ⟨_, started, rfl⟩))) unused
    · simpa only [Database.hasCurrentCircleRequestStarted, journal, others _ own] using started
  obtain ⟨columns, attempts, journal', rfl⟩ := beside
  cases operation with
  | payout =>
    exact phases.payout awaits ⟨⟨rfl, rfl, rfl, rfl, rfl⟩, ⟨rfl, rfl, rfl⟩, rfl⟩ rfl resolving rfl
      rfl (.inl ⟨awaits, rfl⟩)
  | resolution =>
    have kept : Kept s { s with db :=
        { s.db with attempts, journal := journal' }.setColumns .resolution columns } :=
      ⟨.of_columns rfl rfl, resolving, rfl,
        fun completed => completed.same rfl (others .payout (by simp)),
        fun settled => absurd settled awaits⟩
    exact kept.phases phases rfl rfl phases.unclaimed
      (fun refunded => (phases.refunded refunded).same rfl (others .refund (by simp)))
      (.inl ⟨rfl, rfl⟩)
  | refund =>
    have kept : Kept s { s with db :=
        { s.db with attempts, journal := journal' }.setColumns .refund columns } :=
      ⟨.of_columns rfl rfl, resolving, rfl,
        fun completed => completed.same rfl (others .payout (by simp)),
        fun _ completed => completed.same rfl (others .resolution (by simp))⟩
    exact kept.phases phases rfl rfl phases.unclaimed (fun refunded => absurd refunded awaits)
      (.inl ⟨rfl, rfl⟩)

end Facts

end VapiArc.Review
