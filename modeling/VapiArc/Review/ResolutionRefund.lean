import VapiArc.Review.CircleOnce

/-!
# A resolution excludes a refund

A refund is requested only when every resolution that was ever requested has failed for
good, and none is requested once the settlement has been aborted.
-/
namespace VapiArc.Review

open Checked Function Async Transition

section States

variable {circle : Circle} {d : Dependencies} {s : Store}

/-- A resolution that was requested under the current key excludes every refund. -/
theorem Sound.current_resolution (sound : Sound circle d s) {r : CircleRequest}
    (member : r ∈ s.requested) (resolution : r.operation = .resolution)
    (current : r.idempotencyKey = s.db.circleIdempotencyKey .resolution) : ¬ s.Asked .refund := by
  intro asked
  have journaled := sound.ledger.journaled r member
  rw [resolution, current] at journaled
  obtain ⟨settling, unaborted⟩ := sound.phases.resolving (List.contains_iff_mem.mpr journaled)
  rcases sound.phases.refunding asked with ended | ⟨-, aborted⟩
  · rw [ended] at settling
    simp at settling
  · exact aborted unaborted

/-- When a refund has been requested, no resolution can take effect any more. -/
theorem Sound.resolutions_failed (sound : Sound circle d s) (refund : s.Asked .refund)
    {r : CircleRequest} (member : r ∈ s.requested) (resolution : r.operation = .resolution) :
    r.idempotencyKey ≠ s.db.circleIdempotencyKey .resolution ∧ ∃ transaction,
      s.circle r.idempotencyKey = some transaction ∧ transaction.state.terminalFailure = true := by
  have retired : r.idempotencyKey ≠ s.db.circleIdempotencyKey .resolution := fun current =>
    sound.current_resolution member resolution current refund
  refine ⟨retired, ?_⟩
  rcases sound.ledger.requested r member with current | ⟨a, inside, owned, keyed⟩
  · rw [resolution] at current
    exact absurd current retired
  · have failed := sound.ledger.retired a inside (by
      rw [keyed, owned, resolution]
      exact retired)
    obtain ⟨transaction, here, kept⟩ := sound.ledger.truthful a inside
    rw [keyed] at here
    refine ⟨transaction, here, ?_⟩
    rw [kept (TransactionState.final_of_terminalFailure failed)]
    exact failed

/-- The requests for resolutions, which an aborted settlement adds nothing to. -/
def Store.resolutions (s : Store) : List CircleRequest :=
  s.requested.filter (·.operation = .resolution)

theorem Proceeds.resolutions {s' : Store} (proceeds : Proceeds s s')
    (aborted : s.db.order.settlementAbortCode ≠ none) : s'.resolutions = s.resolutions := by
  unfold Store.resolutions
  rcases proceeds.requests with same | ⟨r, grown, permitted, -⟩
  · rw [same]
  · rw [grown, List.filter_cons_of_neg]
    intro resolution
    simp only [decide_eq_true_eq] at resolution
    rw [resolution] at permitted
    exact aborted permitted.2

end States

/-- Whatever happens: no order has both a completed resolution and a requested refund; once
its settlement is aborted, no resolution is pending and none is requested any more; and when
a refund is requested, every resolution that was requested has failed for good. -/
theorem resolution_excludes_refund (circle : Circle) (d : Dependencies) {opening : Opening}
    {earlier later : List (ServiceState × ServiceEvent)} {u v : ServiceState}
    (before : ServiceRun circle d opening earlier u)
    (run : Run (host circle d).system u later v) :
    (∀ key transaction, v.store.circle key = some transaction →
      transaction.request.operation = .resolution → transaction.state = .complete →
      ¬ v.store.Asked .refund) ∧
    (u.store.db.order.settlementAbortCode ≠ none →
      (∀ r ∈ u.store.resolutions,
        r.idempotencyKey ≠ u.store.db.circleIdempotencyKey .resolution) ∧
      v.store.db.order.settlementAbortCode = u.store.db.order.settlementAbortCode ∧
      v.store.resolutions = u.store.resolutions) ∧
    (v.store.Asked .refund → ∀ r ∈ v.store.resolutions,
      r.idempotencyKey ≠ v.store.db.circleIdempotencyKey .resolution ∧ ∃ transaction,
        v.store.circle r.idempotencyKey = some transaction ∧
          transaction.state.terminalFailure = true) := by
  obtain ⟨sound, -⟩ := service_good (before.trans run)
  have failed (refund : v.store.Asked .refund) {r : CircleRequest} (member : r ∈ v.store.resolutions) :=
    sound.resolutions_failed refund (List.mem_filter.mp member).1 (by
      simpa using (List.mem_filter.mp member).2)
  refine ⟨?_, ?_, fun refund r member => failed refund member⟩
  · -- a completed resolution would be one of those that failed before the refund
    intro key transaction here resolution complete refund
    obtain ⟨member, keyed⟩ := sound.ledger.created key transaction here
    obtain ⟨-, transaction', there, failed⟩ := failed refund
      (List.mem_filter.mpr ⟨member, by simpa using resolution⟩)
    rw [keyed, here] at there
    cases there
    rw [complete] at failed
    cases failed
  · intro aborted
    obtain ⟨earlierSound, -⟩ := service_good before
    refine ⟨fun r member current => ?_, ?_⟩
    · -- a resolution under the current key is in the journal, and then nothing was aborted
      obtain ⟨inside, resolution⟩ := List.mem_filter.mp member
      simp only [decide_eq_true_eq] at resolution
      have journaled := earlierSound.ledger.journaled r inside
      rw [resolution, current] at journaled
      exact aborted (earlierSound.phases.resolving (List.contains_iff_mem.mpr journaled)).2
    · refine service_related (fun a b => a.db.order.settlementAbortCode ≠ none →
        b.db.order.settlementAbortCode = a.db.order.settlementAbortCode ∧
          b.resolutions = a.resolutions) (fun _ _ => ⟨rfl, rfl⟩) ?_ ?_ before run aborted
      · intro a b c first second aborted
        obtain ⟨same, requests⟩ := first aborted
        obtain ⟨same', requests'⟩ := second (by rw [same]; exact aborted)
        exact ⟨same'.trans same, requests'.trans requests⟩
      · exact fun a b _ _ proceeds aborted => ⟨proceeds.abort aborted, proceeds.resolutions aborted⟩

/-- A resolution that completes, and no refund. -/
theorem resolution_excludes_refund_walkthrough : ¬ Walkthrough.settled.store.Asked .refund := by
  have completed : Walkthrough.settled.store.circle 2 =
      some ⟨⟨.resolution, 2, Walkthrough.payload .resolution⟩, .complete⟩ := by decide +kernel
  exact (resolution_excludes_refund Walkthrough.circle Walkthrough.dependencies
    Walkthrough.retried_run Walkthrough.settled_run).1 2 _ completed rfl rfl

end VapiArc.Review
