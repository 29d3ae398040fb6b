import VapiArc.Review.CircleOnce

/-!
# A verdict is never lost

Claims and verdicts stay as they were recorded, whatever the processor writes from the
rows it read before; an order that expired without a verdict gets none; and an order
ends only when its money has been paid.
-/
namespace VapiArc.Review

open Checked Function Async Transition

section Steps

variable {circle : Circle} {d : Dependencies} {s s' : Store}

namespace ReviewOrder

variable {order order' order'' : ReviewOrder}

theorem SameClaim.refl (order : ReviewOrder) : order.SameClaim order := ⟨rfl, rfl, rfl, rfl, rfl⟩

theorem SameClaim.trans (first : order.SameClaim order') (second : order'.SameClaim order'') :
    order.SameClaim order'' :=
  ⟨second.reviewerId.trans first.reviewerId, second.reviewerAlias.trans first.reviewerAlias,
    second.reviewerPayoutAddress.trans first.reviewerPayoutAddress,
    second.reviewerTelegramIdentityHash.trans first.reviewerTelegramIdentityHash,
    second.claimedAt.trans first.claimedAt⟩

theorem SameVerdict.refl (order : ReviewOrder) : order.SameVerdict order := ⟨rfl, rfl, rfl⟩

theorem SameVerdict.trans (first : order.SameVerdict order') (second : order'.SameVerdict order'') :
    order.SameVerdict order'' :=
  ⟨second.decision.trans first.decision, second.reasoning.trans first.reasoning,
    second.verdictAt.trans first.verdictAt⟩

end ReviewOrder

/-- What has been recorded of a review is still recorded. -/
structure Remembers (s s' : Store) : Prop where
  claim : s.db.order.reviewerId ≠ none → s.db.order.SameClaim s'.db.order
  verdict : s.db.order.decision ≠ none → s.db.order.SameVerdict s'.db.order
  votes : s.db.votes <:+ s'.db.votes

theorem Remembers.refl (s : Store) : Remembers s s :=
  ⟨fun _ => .refl _, fun _ => .refl _, List.suffix_rfl⟩

theorem Remembers.trans {a b c : Store} (first : Remembers a b) (second : Remembers b c) :
    Remembers a c where
  claim claimed := by
    have same := first.claim claimed
    exact same.trans (second.claim (by rw [same.reviewerId]; exact claimed))
  verdict decided := by
    have same := first.verdict decided
    exact same.trans (second.verdict (by rw [same.decision]; exact decided))
  votes := first.votes.trans second.votes

/-- Claims and verdicts are only written where there is none yet. -/
theorem Proceeds.remembers {lib : Library} (proceeds : Proceeds s s') (phases : Phases lib s) :
    Remembers s s' where
  claim claimed := by
    rcases proceeds.claim with same | ⟨state, -⟩
    · exact same
    · exact absurd (phases.unclaimed (.inr state)) claimed
  verdict decided := by
    rcases proceeds.verdict with ⟨same, -⟩ | ⟨state, -⟩
    · exact same
    · exact absurd (phases.awaitsVerdict (by rw [state]; rfl)).2.1 decided
  votes := by
    rcases proceeds.verdict with ⟨-, same⟩ | ⟨-, -, vote, grown⟩
    · rw [same]
    · rw [grown]
      exact List.suffix_cons vote s.db.votes

/-- An order that has ended stays so, and nothing of its review changes. -/
structure Closed (s s' : Store) : Prop where
  phase : s'.db.order.state.phase = .ended
  claim : s.db.order.SameClaim s'.db.order
  verdict : s.db.order.SameVerdict s'.db.order
  votes : s'.db.votes = s.db.votes

theorem Proceeds.closed (proceeds : Proceeds s s') (ended : s.db.order.state.phase = .ended) :
    Closed s s' where
  phase := by
    rcases proceeds.state with same | next
    · rw [same]
      exact ended
    · generalize s.db.order.state = before at ended next
      generalize s'.db.order.state = after at next
      cases next <;> first | rfl | simp_all [ReviewOrderState.phase]
  claim := by
    rcases proceeds.claim with same | ⟨state, -⟩
    · exact same
    · rw [state] at ended
      cases ended
  verdict := by
    rcases proceeds.verdict with ⟨same, -⟩ | ⟨state, -⟩
    · exact same
    · rw [state] at ended
      cases ended
  votes := by
    rcases proceeds.verdict with ⟨-, same⟩ | ⟨state, -⟩
    · exact same
    · rw [state] at ended
      cases ended

/-- The final states are never left. -/
theorem Proceeds.final (proceeds : Proceeds s s') {state : ReviewOrderState}
    (final : state = .settled ∨ state = .refunded) (here : s.db.order.state = state) :
    s'.db.order.state = state := by
  rcases proceeds.state with same | next
  · exact same.trans here
  · rw [here] at next
    generalize s'.db.order.state = after at next
    rcases final with rfl | rfl
    · cases next <;> simp_all [ReviewOrderState.phase]
    · cases next <;> simp_all [ReviewOrderState.phase]

/-- A transaction of the operation has completed that does what the order asks for. -/
def Store.Fulfilled (lib : Library) (s : Store) (operation : CircleOperation) : Prop :=
  ∃ key transaction, s.circle key = some transaction ∧
    transaction.request.operation = operation ∧ transaction.state = .complete ∧
    s.db.order.Asks lib operation transaction.request.payload

theorem Sound.fulfilled (sound : Sound circle d s) {operation : CircleOperation}
    (completed : s.Completed operation) : s.Fulfilled d.library operation := by
  obtain ⟨transaction, here, same, complete⟩ := completed
  have asks := sound.phases.requests _ (sound.ledger.created _ transaction here).1
  rw [same] at asks
  exact ⟨_, transaction, here, same, complete, asks⟩

end Steps

section Runs

variable {circle : Circle} {d : Dependencies} {opening : Opening}
  {earlier later : List (ServiceState × ServiceEvent)} {u v : ServiceState}
  (before : ServiceRun circle d opening earlier u) (run : Run (host circle d).system u later v)
include before run

theorem closed_kept (ended : u.store.db.order.state.phase = .ended) : Closed u.store v.store := by
  refine service_related (fun a b => a.db.order.state.phase = .ended → Closed a b)
    (fun _ ended => ⟨ended, .refl _, .refl _, rfl⟩) ?_
    (fun _ _ _ _ proceeds ended => proceeds.closed ended) before run ended
  intro a b c first second ended
  have closed := first ended
  have closed' := second closed.phase
  exact ⟨closed'.phase, closed.claim.trans closed'.claim, closed.verdict.trans closed'.verdict,
    closed'.votes.trans closed.votes⟩

theorem final_kept {state : ReviewOrderState} (final : state = .settled ∨ state = .refunded)
    (here : u.store.db.order.state = state) : v.store.db.order.state = state :=
  service_related (fun a b => a.db.order.state = state → b.db.order.state = state)
    (fun _ here => here) (fun _ _ _ first second here => second (first here))
    (fun _ _ _ _ proceeds here => proceeds.final final here) before run here

end Runs

section Claim

variable (circle : Circle) (d : Dependencies)

/-- Whatever happens around the processor: states move along the lifecycle; a claim or a
verdict that has been recorded stays so; an order with a verdict ends only after its payout
has completed; one that has ended gets neither; the final states are never left; and they
are reached by completed transactions for the amounts that the order asks for. -/
theorem verdict_kept {opening : Opening} {earlier later : List (ServiceState × ServiceEvent)}
    {u v : ServiceState} (before : ServiceRun circle d opening earlier u)
    (run : Run (host circle d).system u later v) :
    (∀ event, (host circle d).admits v event →
      let v' := (host circle d).next v event
      v'.store.db.order.state = v.store.db.order.state ∨
        v.store.db.order.state.Next v'.store.db.order.state) ∧
    Remembers u.store v.store ∧
    (v.store.db.order.decision ≠ none → v.store.db.order.state.phase = .ended →
      v.store.Fulfilled d.library .payout) ∧
    (u.store.db.order.state.phase = .ended → Closed u.store v.store) ∧
    (∀ state, state = .settled ∨ state = .refunded → u.store.db.order.state = state →
      v.store.db.order.state = state) ∧
    (v.store.db.order.state = .settled →
      v.store.Fulfilled d.library .payout ∧ v.store.Fulfilled d.library .resolution) ∧
    (v.store.db.order.state = .refunded → v.store.Fulfilled d.library .refund) := by
  obtain ⟨sound, -⟩ := service_good (before.trans run)
  refine ⟨?_, ?_, ?_, ?_, ?_, ?_, ?_⟩
  · exact fun event admitted => (service_proceeds (before.trans run) admitted).state
  · exact service_related Remembers .refl (fun _ _ _ first second => first.trans second)
      (fun _ _ sound _ proceeds => proceeds.remembers sound.phases) before run
  · exact fun decided ended =>
      sound.fulfilled (sound.phases.paid decided (by rw [ended]; simp)).completed
  · exact fun ended => closed_kept before run ended
  · exact fun state final here => final_kept before run final here
  · intro settled
    have phase : v.store.db.order.state.phase = .settled := by rw [settled]; rfl
    obtain ⟨decided, -⟩ := sound.phases.reviewed (by rw [phase]; simp) (by rw [phase]; simp)
    exact ⟨sound.fulfilled (sound.phases.paid decided (by rw [phase]; simp)).completed,
      sound.fulfilled (sound.phases.settled phase).1⟩
  · exact fun refunded => sound.fulfilled (sound.phases.refunded refunded)

/-- The verdict of the walkthrough, from a failed payout to the settlement. -/
theorem verdict_kept_walkthrough :
    Walkthrough.settled.store.db.order.decision = some .approve ∧
      Walkthrough.settled.store.Fulfilled Walkthrough.dependencies.library .payout := by
  have kept := verdict_kept Walkthrough.circle Walkthrough.dependencies Walkthrough.retried_run
    Walkthrough.settled_run
  have decided : Walkthrough.retried.store.db.order.decision = some .approve := by decide +kernel
  have settled : Walkthrough.settled.store.db.order.state = .settled := by decide +kernel
  obtain ⟨-, remembers, -, -, -, fulfilled, -⟩ := kept
  refine ⟨?_, (fulfilled settled).1⟩
  rw [(remembers.verdict (by rw [decided]; simp)).decision, decided]

end Claim

end VapiArc.Review
