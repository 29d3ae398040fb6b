import VapiArc.Lib.Async

/-!
# Pools of activities

Programs under different keys share a store and one thread. While one of them awaits a reply
another one runs, and what it does meanwhile is, for the first one, something that may happen
during an await. A crash ends them all.
-/
namespace Async

open Function Transition

structure PoolState (κ σ ι q ρ ε : Type) where
  store : σ
  activity : κ → Activity σ ι q ρ ε

inductive PoolEvent (κ ι ρ ε τ : Type) where
  | start (key : κ)
  | advance (key : κ) (inputs : ι)
  | reply (key : κ) (answer : Except ε ρ)
  | crash
  | outside (event : τ)

section Pools

variable {κ σ ι q ρ ε τ : Type}

namespace PoolState

variable (v : PoolState κ σ ι q ρ ε)

/-- The activity of a key alone. -/
def only (key : κ) : State σ ι q ρ ε := ⟨v.store, v.activity key⟩

variable [DecidableEq κ]

/-- An activity has come into a state together with the store. -/
def put (key : κ) (u : State σ ι q ρ ε) : PoolState κ σ ι q ρ ε :=
  ⟨u.store, update v.activity key u.activity⟩

@[simp] theorem put_store (key : κ) (u : State σ ι q ρ ε) : (v.put key u).store = u.store := rfl

@[simp] theorem put_only (key : κ) (u : State σ ι q ρ ε) : (v.put key u).only key = u := by
  simp [put, only]

theorem put_other {key other : κ} (different : other ≠ key) (u : State σ ι q ρ ε) :
    (v.put key u).only other = ⟨u.store, v.activity other⟩ := by
  simp [put, only, different]

end PoolState

/-- Nothing holds the thread. -/
def PoolState.Free (v : PoolState κ σ ι q ρ ε) : Prop :=
  ∀ key program, v.activity key ≠ .running program

namespace Host

variable [DecidableEq κ] (H : Host σ ι q ρ ε τ κ)

/-- An event of one activity is what it is for a host that runs this activity only. -/
def poolNext (v : PoolState κ σ ι q ρ ε) : PoolEvent κ ι ρ ε τ → PoolState κ σ ι q ρ ε
  | .start key => v.put key (H.next (v.only key) (.start key))
  | .advance key inputs => v.put key (H.next (v.only key) (.advance inputs))
  | .reply key answer => v.put key (H.next (v.only key) (.reply answer))
  | .crash => ⟨v.store, fun _ => .idle⟩
  | .outside event => ⟨H.outside v.store event, v.activity⟩

def poolAdmits (v : PoolState κ σ ι q ρ ε) : PoolEvent κ ι ρ ε τ → Prop
  | .start _ => v.Free
  | .advance key inputs => (∃ program, v.activity key = .running program) ∧ H.inputs v.store inputs
  | .reply key answer => v.Free ∧ H.admits (v.only key) (.reply answer)
  | .crash => True
  | .outside event => H.permits v.store event ∧ (H.remote event ∨ v.Free)

def pool : System (PoolState κ σ ι q ρ ε) (PoolEvent κ ι ρ ε τ) := ⟨H.poolAdmits, H.poolNext⟩

end Host

end Pools

/-- A contract for every key, with what they have in common. -/
structure Contracts (κ σ : Type) where
  invariant : σ → Prop
  guarantee : κ → σ → σ → Prop
  awaiting : κ → σ → σ → Prop
  anytime : σ → σ → Prop
  guarantee_refl : ∀ key s, guarantee key s s
  awaiting_refl : ∀ key s, awaiting key s s
  awaiting_trans : ∀ key a b c, awaiting key a b → awaiting key b c → awaiting key a c
  anytime_refl : ∀ s, anytime s s
  anytime_trans : ∀ a b c, anytime a b → anytime b c → anytime a c

/-- The contract of one activity. -/
def Contracts.of {κ σ : Type} (C : Contracts κ σ) (q : Type) (key : κ) : Contract σ q where
  invariant := C.invariant
  pending _ _ := True
  guarantee := C.guarantee key
  awaiting := C.awaiting key
  anytime := C.anytime
  guarantee_refl := C.guarantee_refl key
  awaiting_refl := C.awaiting_refl key
  awaiting_trans := C.awaiting_trans key
  anytime_refl := C.anytime_refl
  anytime_trans := C.anytime_trans

section Logic

variable {κ σ ι q ρ ε τ : Type} {H : Host σ ι q ρ ε τ κ} {C : Contracts κ σ}

/-- What the activities may count on: each other's guarantees, and what happens outside. -/
structure Shared (H : Host σ ι q ρ ε τ κ) (C : Contracts κ σ) : Prop where
  others : ∀ key other s s', other ≠ key → C.guarantee key s s' → C.awaiting other s s'
  invariant : ∀ s event, C.invariant s → H.permits s event → C.invariant (H.outside s event)
  awaiting : ∀ key s event, C.invariant s → H.permits s event → C.awaiting key s (H.outside s event)
  anytime : ∀ s event, C.invariant s → H.permits s event → H.remote event →
    C.anytime s (H.outside s event)
  spawned : ∀ key s, C.invariant s → Safe H (C.of q key) (H.spawn key) s

/-- Every activity will go on to meet its contract, and one at most holds the thread. -/
structure PoolGood (H : Host σ ι q ρ ε τ κ) (C : Contracts κ σ) (v : PoolState κ σ ι q ρ ε) :
    Prop where
  good : ∀ key, Good H (C.of q key) (v.only key)
  thread : ∀ key other program program', v.activity key = .running program →
    v.activity other = .running program' → key = other

variable [DecidableEq κ]

/-- One activity has moved, and the other ones do not run. -/
theorem PoolGood.put {v : PoolState κ σ ι q ρ ε} (all : PoolGood H C v) (shared : Shared H C) {key : κ}
    {u : State σ ι q ρ ε} (still : ∀ other program, other ≠ key → v.activity other ≠ .running program)
    (good : Good H (C.of q key) u) (owed : C.guarantee key v.store u.store) :
    PoolGood H C (v.put key u) := by
  constructor
  · intro other
    by_cases same : other = key
    · subst same
      rwa [PoolState.put_only]
    · rw [PoolState.put_other v same]
      exact (all.good other).meanwhile (fun program => still other program same)
        (shared.others key other _ _ same owed)
  · intro first second program program' runs runs'
    have moved (other : κ) (program : Program σ ι q ρ ε)
        (runs : (v.put key u).activity other = .running program) : other = key := by
      by_contra different
      have same : (v.put key u).activity other = v.activity other := by
        simp [PoolState.put, different]
      exact still other program different (same ▸ runs)
    rw [moved first program runs, moved second program' runs']

/-- One step keeps the invariant and all activities good. It writes nothing, or meets the
guarantee of the activity that it advances, or happens outside of them. -/
theorem pool_step {v : PoolState κ σ ι q ρ ε} {t : PoolEvent κ ι ρ ε τ} (shared : Shared H C)
    (kept : C.invariant v.store) (all : PoolGood H C v) (admitted : H.pool.admits v t) :
    C.invariant (H.pool.next v t).store ∧ PoolGood H C (H.pool.next v t) ∧
      ((H.pool.next v t).store = v.store ∨
        (∃ key inputs, t = .advance key inputs ∧ C.guarantee key v.store (H.pool.next v t).store) ∨
        ∃ event, t = .outside event) := by
  cases t with
  | start key =>
    obtain ⟨same, good⟩ := (all.good key).start (shared.spawned key _ kept)
    have owed : C.guarantee key v.store (H.next (v.only key) (.start key)).store := by
      rw [same]
      exact C.guarantee_refl key _
    refine ⟨?_, all.put shared (fun other program _ => admitted other program) good owed, .inl same⟩
    exact (congrArg C.invariant same).mpr kept
  | advance key inputs =>
    obtain ⟨⟨program, runs⟩, given⟩ := admitted
    obtain ⟨kept', good, owed⟩ := (all.good key).advance kept given
    refine ⟨kept', all.put shared ?_ good owed, .inr (.inl ⟨key, inputs, rfl, owed⟩)⟩
    exact fun other program' different runs' => different (all.thread _ _ _ _ runs' runs)
  | reply key answer =>
    obtain ⟨free, admitted⟩ := admitted
    obtain ⟨same, good⟩ := (all.good key).reply kept admitted
    have owed : C.guarantee key v.store (H.next (v.only key) (.reply answer)).store := by
      rw [same]
      exact C.guarantee_refl key _
    refine ⟨?_, all.put shared (fun other program _ => free other program) good owed, .inl same⟩
    exact (congrArg C.invariant same).mpr kept
  | crash =>
    exact ⟨kept, ⟨fun _ => .idle, fun _ _ _ _ runs => by cases runs⟩, .inl rfl⟩
  | outside event =>
    obtain ⟨permitted, thread⟩ := admitted
    refine ⟨shared.invariant _ _ kept permitted, ⟨fun key => ?_, all.thread⟩, .inr (.inr ⟨event, rfl⟩)⟩
    -- while a program runs, only remote events happen outside
    by_cases runs : ∃ program, v.activity key = .running program
    · obtain ⟨program, runs⟩ := runs
      have remote : H.remote event := thread.resolve_right fun free => free key program runs
      have good := all.good key
      simp only [PoolState.only, Host.pool, Host.poolNext, runs] at good ⊢
      exact good.later (shared.anytime _ _ kept permitted remote)
    · exact (all.good key).meanwhile (fun program same => runs ⟨program, same⟩)
        (shared.awaiting key _ _ kept permitted)

/-- The invariant holds in every state of every run. -/
theorem pool_good {s : σ} {v : PoolState κ σ ι q ρ ε}
    {history : List (PoolState κ σ ι q ρ ε × PoolEvent κ ι ρ ε τ)} (shared : Shared H C)
    (run : Run H.pool ⟨s, fun _ => .idle⟩ history v) (initial : C.invariant s) :
    C.invariant v.store ∧ PoolGood H C v := by
  refine run.invariant (fun v => C.invariant v.store ∧ PoolGood H C v)
    ⟨initial, fun _ => .idle, fun _ _ _ _ runs => by cases runs⟩ ?_
  intro v t kept admitted
  obtain ⟨kept', good', -⟩ := pool_step shared kept.1 kept.2 admitted
  exact ⟨kept', good'⟩

end Logic

end Async
