import VapiArc.Lib.Transition

/-!
# `AsyncSemaphore`

The calls of `run` share one thread. A call that finds no permit waits; a task that ends
hands its permit to the first waiter, whose continuation runs some time later, and other
calls may arrive in between.
-/
namespace VapiArc.Review

open Transition

abbrev CallId := Nat

structure AsyncSemaphore where
  active : Nat := 0
  waiters : List CallId := []
  deriving DecidableEq, Repr

namespace AsyncSemaphore

variable (limit : Nat) (semaphore : AsyncSemaphore)

/-- `run` up to the call of its task; the call may have to wait first. -/
def enter (call : CallId) : Bool × AsyncSemaphore :=
  if semaphore.active ≥ limit then
    (false, { semaphore with waiters := semaphore.waiters ++ [call] })
  else (true, { semaphore with active := semaphore.active + 1 })

/-- The `finally` block of `run`, with the waiter that it resolves. -/
def leave : Option CallId × AsyncSemaphore :=
  match semaphore.waiters with
  | next :: rest => (some next, { semaphore with waiters := rest })
  | [] => (none, { semaphore with active := semaphore.active - 1 })

end AsyncSemaphore

/-- The semaphore and where its calls are: their tasks run, or their promises are resolved
and their continuations have not run. All calls, all that waited and all that were resolved
are kept on record in their order. -/
structure SemaphoreState where
  semaphore : AsyncSemaphore := {}
  running : List CallId := []
  handedOver : List CallId := []
  called : List CallId := []
  queued : List CallId := []
  released : List CallId := []
  deriving DecidableEq, Repr

inductive SemaphoreEvent where
  | run (call : CallId)
  /-- The continuation of a waiter that was resolved. -/
  | resume (call : CallId)
  /-- A task resolves or rejects. -/
  | settle (call : CallId) (resolves : Bool)
  deriving DecidableEq, Repr

def semaphoreStep (limit : Nat) (s : SemaphoreState) : SemaphoreEvent → SemaphoreState
  | .run call =>
    let (enters, semaphore) := s.semaphore.enter limit call
    { s with
      semaphore
      running := if enters then call :: s.running else s.running
      called := s.called ++ [call]
      queued := if enters then s.queued else s.queued ++ [call] }
  | .resume call =>
    { s with running := call :: s.running, handedOver := s.handedOver.erase call }
  | .settle call _ =>
    let (next, semaphore) := s.semaphore.leave
    { s with
      semaphore
      running := s.running.erase call
      handedOver := s.handedOver ++ next.toList
      released := s.released ++ next.toList }

/-- Calls are told apart, and only what is handed over resumes and what runs settles. -/
def semaphores (limit : Nat) : System SemaphoreState SemaphoreEvent where
  admits s
    | .run call => call ∉ s.called
    | .resume call => call ∈ s.handedOver
    | .settle call _ => call ∈ s.running
  next := semaphoreStep limit

instance (limit : Nat) (s : SemaphoreState) : (event : SemaphoreEvent) →
    Decidable ((semaphores limit).admits s event)
  | .run call => inferInstanceAs (Decidable (call ∉ s.called))
  | .resume call => inferInstanceAs (Decidable (call ∈ s.handedOver))
  | .settle call _ => inferInstanceAs (Decidable (call ∈ s.running))

/-- The calls that have begun and not ended. -/
def SemaphoreState.present (s : SemaphoreState) : List CallId :=
  s.running ++ s.handedOver ++ s.semaphore.waiters

section Steps

variable {limit : Nat} {s : SemaphoreState}

/-- What one event does to the permits and to the queue. -/
inductive SemaphoreChange (limit : Nat) (s : SemaphoreState) :
    SemaphoreEvent → SemaphoreState → Prop
  | enters {call} : s.semaphore.active < limit →
      SemaphoreChange limit s (.run call) { s with
        semaphore := { s.semaphore with active := s.semaphore.active + 1 }
        running := call :: s.running
        called := s.called ++ [call] }
  | waits {call} : limit ≤ s.semaphore.active →
      SemaphoreChange limit s (.run call) { s with
        semaphore := { s.semaphore with waiters := s.semaphore.waiters ++ [call] }
        called := s.called ++ [call]
        queued := s.queued ++ [call] }
  | resumes {call} : SemaphoreChange limit s (.resume call) { s with
      running := call :: s.running, handedOver := s.handedOver.erase call }
  | frees {call resolves} : s.semaphore.waiters = [] →
      SemaphoreChange limit s (.settle call resolves) { s with
        semaphore := { s.semaphore with active := s.semaphore.active - 1 }
        running := s.running.erase call }
  | handsOver {call resolves next rest} : s.semaphore.waiters = next :: rest →
      SemaphoreChange limit s (.settle call resolves) { s with
        semaphore := { s.semaphore with waiters := rest }
        running := s.running.erase call
        handedOver := s.handedOver ++ [next]
        released := s.released ++ [next] }

theorem semaphore_change (event : SemaphoreEvent) :
    SemaphoreChange limit s event (semaphoreStep limit s event) := by
  cases event with
  | run call =>
    simp only [semaphoreStep, AsyncSemaphore.enter]
    split
    next full => exact .waits full
    next free => exact .enters (Nat.lt_of_not_ge free)
  | resume call => exact .resumes
  | settle call resolves =>
    simp only [semaphoreStep, AsyncSemaphore.leave]
    split
    next next_ rest waiting => exact .handsOver waiting
    next none_ =>
      simp only [Option.toList_none, List.append_nil]
      exact .frees none_

/-- The permits are those of the running tasks and those that are being handed over, and
the waiters are the rest of the queue. -/
structure PermitsKept (limit : Nat) (s : SemaphoreState) : Prop where
  active : s.semaphore.active = s.running.length + s.handedOver.length
  bounded : s.semaphore.active ≤ limit
  full : s.semaphore.waiters ≠ [] → s.semaphore.active = limit
  order : s.released ++ s.semaphore.waiters = s.queued
  distinct : s.queued.Nodup
  known : s.queued ⊆ s.called
  apart : s.present.Nodup
  begun : s.present ⊆ s.called

theorem PermitsKept.step {event : SemaphoreEvent} (kept : PermitsKept limit s)
    (admitted : (semaphores limit).admits s event) :
    PermitsKept limit ((semaphores limit).next s event) := by
  have change : SemaphoreChange limit s event ((semaphores limit).next s event) :=
    semaphore_change event
  obtain ⟨active, bounded, full, order, distinct, known, apart, begun⟩ := kept
  generalize (semaphores limit).next s event = s' at change
  cases change with
  | @enters call free =>
    -- a permit is free, so nobody waits for one
    have none_ : s.semaphore.waiters = [] := by
      by_contra waiting
      have := full waiting
      omega
    have fresh : call ∉ s.present := fun member => admitted (begun member)
    refine ⟨?_, free, fun waiting => absurd none_ waiting, order, distinct, ?_,
      List.nodup_cons.mpr ⟨fresh, apart⟩, ?_⟩
    · simp only [List.length_cons, active]
      omega
    · exact fun other member => List.mem_append_left _ (known member)
    · exact List.cons_subset.mpr ⟨List.mem_append_right _ (List.mem_singleton_self call),
        fun other member => List.mem_append_left _ (begun member)⟩
  | @waits call closed =>
    have new (calls : List CallId) (old : calls ⊆ s.called) (nodup : calls.Nodup) :
        (calls ++ [call]).Nodup ∧ calls ++ [call] ⊆ s.called ++ [call] := by
      have fresh : call ∉ calls := fun member => admitted (old member)
      refine ⟨by simpa using (List.nodup_concat calls call).mpr ⟨fresh, nodup⟩, ?_⟩
      exact List.append_subset.mpr ⟨fun other member => List.mem_append_left _ (old member),
        List.subset_append_right _ _⟩
    obtain ⟨distinct', known'⟩ := new _ known distinct
    obtain ⟨apart', begun'⟩ := new _ begun apart
    rw [SemaphoreState.present, List.append_assoc] at apart' begun'
    -- whoever is new stands behind all those who called before
    exact ⟨active, bounded, fun _ => le_antisymm bounded closed, by rw [← order, List.append_assoc],
      distinct', known', apart', begun'⟩
  | @resumes call =>
    have there : call ∈ s.handedOver := admitted
    have := List.length_pos_of_mem there
    -- the call takes the place that was kept for it
    have moved : List.Perm (call :: s.running ++ s.handedOver.erase call ++ s.semaphore.waiters)
        s.present := by
      refine List.Perm.append_right _ (List.Perm.trans ?_
        ((List.perm_cons_erase there).symm.append_left s.running))
      exact List.perm_middle.symm
    refine ⟨?_, bounded, full, order, distinct, known, moved.nodup_iff.mpr apart,
      fun other member => begun (moved.subset member)⟩
    simp only [List.length_cons, List.length_erase_of_mem there, active]
    omega
  | @frees call resolves none_ =>
    have there : call ∈ s.running := admitted
    have := List.length_pos_of_mem there
    have less : List.Sublist (s.running.erase call ++ s.handedOver ++ s.semaphore.waiters)
        s.present := (List.erase_sublist.append_right _).append_right _
    refine ⟨?_, by simp only; omega, fun waiting => absurd none_ waiting, order, distinct, known,
      apart.sublist less, fun other member => begun (less.subset member)⟩
    simp only [List.length_erase_of_mem there, active]
    omega
  -- the permit goes from hand to hand, and their number stays the same
  | @handsOver call resolves next_ rest waiting =>
    have there : call ∈ s.running := admitted
    have := List.length_pos_of_mem there
    have same : s.semaphore.active = limit := full (by simp [waiting])
    have less : List.Sublist (s.running.erase call ++ (s.handedOver ++ [next_]) ++ rest)
        s.present := by
      rw [SemaphoreState.present, waiting, ← List.append_assoc, List.append_assoc _ [next_]]
      exact (List.erase_sublist.append_right _).append_right _
    refine ⟨?_, bounded, fun _ => same, ?_, distinct, known, apart.sublist less,
      fun other member => begun (less.subset member)⟩
    · simp only [List.length_erase_of_mem there, List.length_append, List.length_singleton, active]
      omega
    · simp only [← order, waiting, List.append_assoc, List.singleton_append]

end Steps

section Runs

variable {limit : Nat} {v w : SemaphoreState} {later : List (SemaphoreState × SemaphoreEvent)}

def SemaphoreEvent.settles : SemaphoreEvent → Bool
  | .settle _ _ => true
  | _ => false

/-- How many tasks have ended. -/
def settlements (history : List (SemaphoreState × SemaphoreEvent)) : Nat :=
  history.countP (·.2.settles)

theorem permits_kept {history : List (SemaphoreState × SemaphoreEvent)}
    (run : Run (semaphores limit) {} history v) : PermitsKept limit v := by
  refine run.invariant (PermitsKept limit) ?_ fun s event kept admitted => kept.step admitted
  exact ⟨rfl, Nat.zero_le _, fun waiting => absurd rfl waiting, rfl, List.nodup_nil,
    List.nil_subset _, List.nodup_nil, List.nil_subset _⟩

/-- A waiter comes one place nearer to the front with every task that ends. -/
theorem waiter_advances (run : Run (semaphores limit) v later w) {i : Nat} {call : CallId}
    (waits : v.semaphore.waiters[i]? = some call) :
    if i < settlements later then call ∈ w.released
    else w.semaphore.waiters[i - settlements later]? = some call := by
  induction run with
  | refl => simpa [settlements] using waits
  | @step later s event run admitted ih =>
    have change : SemaphoreChange limit s event ((semaphores limit).next s event) :=
      semaphore_change event
    generalize (semaphores limit).next s event = s' at change
    have count : settlements ((s, event) :: later) =
        settlements later + if event.settles then 1 else 0 := by
      simp [settlements, List.countP_cons]
    rw [count]
    cases change with
    | enters => simpa [SemaphoreEvent.settles] using ih
    | resumes => simpa [SemaphoreEvent.settles] using ih
    | waits =>
      simp only [SemaphoreEvent.settles, Bool.false_eq_true, if_false, Nat.add_zero]
      split at ih
      next passed => simpa [passed] using ih
      next ahead =>
        rw [if_neg ahead]
        exact List.getElem?_append_left (List.getElem?_eq_some_iff.mp ih).1 ▸ ih
    | frees none_ =>
      split at ih
      next passed => simpa [SemaphoreEvent.settles, Nat.lt_succ_of_lt passed] using ih
      next ahead => simp [none_] at ih
    | @handsOver _ _ next_ rest waiting =>
      simp only [SemaphoreEvent.settles, if_true]
      split at ih
      next passed =>
        rw [if_pos (Nat.lt_succ_of_lt passed)]
        exact List.mem_append_left _ ih
      next ahead =>
        rw [waiting] at ih
        by_cases first : i = settlements later
        · -- the waiter is the one that is resolved
          subst first
          simp only [Nat.sub_self, List.getElem?_cons_zero, Option.some.injEq] at ih
          simp [ih]
        · obtain ⟨rest_, more⟩ : ∃ k, i - settlements later = k + 1 :=
            ⟨i - settlements later - 1, by omega⟩
          rw [if_neg (by omega)]
          rw [more, List.getElem?_cons_succ] at ih
          rwa [show i - (settlements later + 1) = rest_ by omega]

/-- No more tasks run than there are permits, no permit is lost or counted twice, calls wait
only while all permits are taken, and every waiter is released once, in the order of arrival:
when as many tasks have ended as were ahead of it, the next end releases it. -/
theorem semaphore_fair (limit : Nat) {history : List (SemaphoreState × SemaphoreEvent)}
    (run : Run (semaphores limit) {} history v) :
    v.present.Nodup ∧ v.running.length ≤ limit ∧
    v.semaphore.active = v.running.length + v.handedOver.length ∧
    (v.semaphore.waiters ≠ [] → v.semaphore.active = limit) ∧
    v.queued.Nodup ∧ v.released ++ v.semaphore.waiters = v.queued ∧
    ∀ later w, Run (semaphores limit) v later w → ∀ i call,
      v.semaphore.waiters[i]? = some call → (call ∈ w.released ↔ i < settlements later) := by
  have kept := permits_kept run
  refine ⟨kept.apart, ?_, kept.active, kept.full, kept.distinct, kept.order,
    fun later w more i call waits => ?_⟩
  · have active := kept.active
    have bounded := kept.bounded
    omega
  · have advances := waiter_advances more waits
    have kept' := permits_kept (run.trans more)
    split at advances
    next passed => exact iff_of_true advances passed
    next ahead =>
      refine iff_of_false (fun released => ?_) ahead
      -- a waiter that is still there is not among the released ones
      have distinct := kept'.distinct
      rw [← kept'.order, List.nodup_append] at distinct
      exact distinct.2.2 call released call (List.mem_of_getElem? advances) rfl

end Runs

namespace SemaphoreWalkthrough

/-- Three calls share one permit, and one more call arrives while it is handed over. -/
def path : List SemaphoreEvent :=
  [.run 1, .run 2, .run 3, .settle 1 false, .run 4, .resume 2, .settle 2 true]

def reached : SemaphoreState := (semaphores 1).replay {} path

theorem admitted : (semaphores 1).AdmitsAll {} path := by
  refine ⟨?_, ?_, ?_, ?_, ?_, ?_, ?_, trivial⟩ <;> decide

theorem run : Run (semaphores 1) {} ((semaphores 1).record {} [] path) reached :=
  (semaphores 1).replay_run .refl path admitted

end SemaphoreWalkthrough

open SemaphoreWalkthrough in
theorem semaphore_fair_walkthrough :
    reached.running.length ≤ 1 ∧ reached.released = [2, 3] ∧ reached.semaphore.waiters = [4] ∧
      reached.semaphore.active = reached.running.length + reached.handedOver.length :=
  ⟨(semaphore_fair 1 run).2.1, by decide, by decide, (semaphore_fair 1 run).2.2.1⟩

end VapiArc.Review
