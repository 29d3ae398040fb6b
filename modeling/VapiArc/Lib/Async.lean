import VapiArc.Lib.Transition

/-!
# Asynchronous programs and a logic for them

A program runs on a single thread that it shares with others: its synchronous steps
follow each other without interruption, and it gives up the thread while it awaits the
reply to a request. It may crash between any two steps. What happens outside of it
comes in two kinds: events that need the thread, and events that do not.

The logic proves an invariant of the store, and a relation between the stores before
and after every step, from one triple for each routine.
-/
namespace Async

open Transition

section Programs

variable {σ ι q ρ ε α β : Type}

/-- A synchronous step reads inputs such as the clock, and its own write is one
transaction. -/
inductive Program (σ ι q ρ ε : Type) where
  | done
  | sync (write : ι → σ → σ) (rest : ι → σ → Program σ ι q ρ ε)
  | request (message : q) (rest : Except ε ρ → Program σ ι q ρ ε)

/-- A routine is given what to do with its result and what to do with its failure. -/
def Routine (σ ι q ρ ε α : Type) : Type :=
  (α → Program σ ι q ρ ε) → (ε → Program σ ι q ρ ε) → Program σ ι q ρ ε

namespace Routine

instance : Monad (Routine σ ι q ρ ε) where
  pure a := fun ok _ => ok a
  bind x f := fun ok error => x (fun a => f a ok error) error

instance : MonadExceptOf ε (Routine σ ι q ρ ε) where
  throw e := fun _ error => error e
  tryCatch x handle := fun ok error => x ok fun e => handle e ok error

/-- The state that a transaction leaves: a failed one writes nothing. -/
def committed (t : ι → σ → Except ε (α × σ)) (inputs : ι) (s : σ) : σ :=
  match t inputs s with
  | .ok (_, s') => s'
  | .error _ => s

def transaction (t : ι → σ → Except ε (α × σ)) : Routine σ ι q ρ ε α := fun ok error =>
  .sync (committed t) fun inputs s =>
    match t inputs s with
    | .ok (a, _) => ok a
    | .error e => error e

def await (message : q) : Routine σ ι q ρ ε ρ := fun ok error =>
  .request message fun
    | .ok reply => ok reply
    | .error e => error e

/-- A routine whose result and failure nobody waits for. -/
def start (x : Routine σ ι q ρ ε Unit) : Program σ ι q ρ ε := x (fun _ => .done) fun _ => .done

end Routine

end Programs

/-- What a program runs on. -/
structure Host (σ ι q ρ ε τ κ : Type) where
  /-- The inputs a synchronous step may read. -/
  inputs : σ → ι → Prop
  /-- The store after a request was sent. -/
  issue : q → σ → σ
  answers : q → σ → Except ε ρ → Prop
  /-- The program that an event starts when none is running. -/
  spawn : κ → Program σ ι q ρ ε
  outside : σ → τ → σ
  permits : σ → τ → Prop
  /-- The event does not need the thread. -/
  remote : τ → Prop

inductive Activity (σ ι q ρ ε : Type) where
  | idle
  | running (program : Program σ ι q ρ ε)
  | waiting (message : q) (rest : Except ε ρ → Program σ ι q ρ ε)

structure State (σ ι q ρ ε : Type) where
  store : σ
  activity : Activity σ ι q ρ ε

inductive Event (ι ρ ε τ κ : Type) where
  | start (cause : κ)
  | advance (inputs : ι)
  | reply (answer : Except ε ρ)
  | crash
  | outside (event : τ)

namespace Host

variable {σ ι q ρ ε τ κ α β : Type} (H : Host σ ι q ρ ε τ κ)

def next (v : State σ ι q ρ ε) : Event ι ρ ε τ κ → State σ ι q ρ ε
  | .start cause =>
    match v.activity with
    | .idle => ⟨v.store, .running (H.spawn cause)⟩
    | _ => v
  | .advance inputs =>
    match v.activity with
    | .running (.sync write rest) => ⟨write inputs v.store, .running (rest inputs v.store)⟩
    | .running (.request message rest) => ⟨H.issue message v.store, .waiting message rest⟩
    | .running .done => ⟨v.store, .idle⟩
    | _ => v
  | .reply answer =>
    match v.activity with
    | .waiting _ rest => ⟨v.store, .running (rest answer)⟩
    | _ => v
  | .crash => ⟨v.store, .idle⟩
  | .outside event => ⟨H.outside v.store event, v.activity⟩

def admits (v : State σ ι q ρ ε) : Event ι ρ ε τ κ → Prop
  | .start _ => ∀ program, v.activity ≠ .running program
  | .advance inputs => H.inputs v.store inputs
  | .reply answer => ∃ message rest, v.activity = .waiting message rest ∧
      H.answers message v.store answer
  | .crash => True
  | .outside event => H.permits v.store event ∧
      (H.remote event ∨ ∀ program, v.activity ≠ .running program)

def system : System (State σ ι q ρ ε) (Event ι ρ ε τ κ) := ⟨H.admits, H.next⟩

end Host

/-- What a proof about a host assumes of the others and owes to them: an invariant of
the store, what every step does, and what may happen during an await and at any time. -/
structure Contract (σ q : Type) where
  invariant : σ → Prop
  /-- What holds as long as the reply to a request is awaited. -/
  pending : q → σ → Prop
  guarantee : σ → σ → Prop
  awaiting : σ → σ → Prop
  anytime : σ → σ → Prop
  guarantee_refl : ∀ s, guarantee s s
  awaiting_refl : ∀ s, awaiting s s
  awaiting_trans : ∀ a b c, awaiting a b → awaiting b c → awaiting a c
  anytime_refl : ∀ s, anytime s s
  anytime_trans : ∀ a b c, anytime a b → anytime b c → anytime a c

section Logic

variable {σ ι q ρ ε τ κ α β : Type} (H : Host σ ι q ρ ε τ κ) (K : Contract σ q)

/-- From here on every step of the program meets the contract. -/
inductive Safe : Program σ ι q ρ ε → σ → Prop
  | done {s} : Safe .done s
  | sync {write rest s} :
      (∀ s', K.anytime s s' → K.invariant s' → ∀ inputs, H.inputs s' inputs →
        K.guarantee s' (write inputs s') ∧ K.invariant (write inputs s')) →
      (∀ s', K.anytime s s' → K.invariant s' → ∀ inputs, H.inputs s' inputs →
        Safe (rest inputs s') (write inputs s')) → Safe (.sync write rest) s
  | request {message rest s} :
      (∀ s', K.anytime s s' → K.invariant s' →
        K.guarantee s' (H.issue message s') ∧ K.invariant (H.issue message s')) →
      (∀ s' s'', K.anytime s s' → K.invariant s' → K.awaiting (H.issue message s') s'' →
        K.invariant s'' → K.pending message s'') →
      (∀ s' s'', K.anytime s s' → K.invariant s' → K.awaiting (H.issue message s') s'' →
        K.invariant s'' → ∀ answer, H.answers message s'' answer → Safe (rest answer) s'') →
      Safe (.request message rest) s

variable {H K}

/-- Safety outlasts what may happen at any time. -/
theorem Safe.later {program : Program σ ι q ρ ε} {s s' : σ} (safe : Safe H K program s)
    (more : K.anytime s s') : Safe H K program s' := by
  cases safe with
  | done => exact .done
  | sync owed rest =>
    exact .sync (fun _ after => owed _ (K.anytime_trans _ _ _ more after))
      (fun _ after => rest _ (K.anytime_trans _ _ _ more after))
  | request owed pending rest =>
    exact .request (fun _ after => owed _ (K.anytime_trans _ _ _ more after))
      (fun _ _ after => pending _ _ (K.anytime_trans _ _ _ more after))
      (fun _ _ after => rest _ _ (K.anytime_trans _ _ _ more after))

variable (H K) in
/-- The routine meets the contract from `P`, and ends in `Q` or fails in `E`. -/
def Triple (P : σ → Prop) (x : Routine σ ι q ρ ε α) (Q : α → σ → Prop) (E : ε → σ → Prop) : Prop :=
  ∀ ok error, (∀ a s, Q a s → Safe H K (ok a) s) → (∀ e s, E e s → Safe H K (error e) s) →
    ∀ s, P s → Safe H K (x ok error) s

variable (K) in
/-- Nothing that may happen at any time makes `P` false. -/
def Stable (P : σ → Prop) : Prop := ∀ s s', P s → K.anytime s s' → K.invariant s' → P s'

namespace Triple

variable {P P' : σ → Prop} {Q Q' : α → σ → Prop} {E E' : ε → σ → Prop}

theorem pure_ {a : α} (holds : ∀ s, P s → Q a s) :
    Triple H K P (pure a : Routine σ ι q ρ ε α) Q E :=
  fun _ _ ok _ s here => ok a s (holds s here)

theorem throw_ {e : ε} (holds : ∀ s, P s → E e s) :
    Triple H K P (throw e : Routine σ ι q ρ ε α) Q E :=
  fun _ _ _ error s here => error e s (holds s here)

theorem bind_ {x : Routine σ ι q ρ ε α} {f : α → Routine σ ι q ρ ε β} {M : α → σ → Prop}
    {Q : β → σ → Prop} (first : Triple H K P x M E) (second : ∀ a, Triple H K (M a) (f a) Q E) :
    Triple H K P (x >>= f) Q E :=
  fun ok error okSafe errorSafe s here =>
    first (fun a => f a ok error) error
      (fun a s' middle => second a ok error okSafe errorSafe s' middle) errorSafe s here

theorem tryCatch_ {x : Routine σ ι q ρ ε α} {handle : ε → Routine σ ι q ρ ε α} {M : ε → σ → Prop}
    (first : Triple H K P x Q M) (second : ∀ e, Triple H K (M e) (handle e) Q E) :
    Triple H K P (tryCatch x handle) Q E :=
  fun ok error okSafe errorSafe s here =>
    first ok (fun e => handle e ok error) okSafe
      (fun e s' failed => second e ok error okSafe errorSafe s' failed) s here

theorem weaken {x : Routine σ ι q ρ ε α} (triple : Triple H K P' x Q' E') (before : ∀ s, P s → P' s)
    (after : ∀ a s, Q' a s → Q a s) (failed : ∀ e s, E' e s → E e s) : Triple H K P x Q E :=
  fun ok error okSafe errorSafe s here =>
    triple ok error (fun a s' result => okSafe a s' (after a s' result))
      (fun e s' failure => errorSafe e s' (failed e s' failure)) s (before s here)

/-- What the precondition knows of every store it holds in may be assumed. -/
theorem known {x : Routine σ ι q ρ ε α} {fact : Prop} (knows : ∀ s, P s → fact)
    (triple : fact → Triple H K P x Q E) : Triple H K P x Q E :=
  fun ok error okSafe errorSafe s here => triple (knows s here) ok error okSafe errorSafe s here

/-- One value fits what holds before, and the triple holds whichever it is. -/
theorem any_ {χ : Type} {P : χ → σ → Prop} {x : Routine σ ι q ρ ε α}
    (each : ∀ c, Triple H K (P c) x Q E) : Triple H K (fun s => ∃ c, P c s) x Q E :=
  fun ok error okSafe errorSafe s ⟨c, here⟩ => each c ok error okSafe errorSafe s here

theorem transaction_ {t : ι → σ → Except ε (α × σ)} (stable : Stable K P)
    (committed : ∀ s, P s → K.invariant s → ∀ inputs, H.inputs s inputs → ∀ a s',
      t inputs s = .ok (a, s') → K.guarantee s s' ∧ K.invariant s' ∧ Q a s')
    (refused : ∀ s, P s → K.invariant s → ∀ inputs, H.inputs s inputs → ∀ e,
      t inputs s = .error e → E e s) : Triple H K P (.transaction t) Q E := by
  intro ok error okSafe errorSafe s here
  constructor
  · intro s' later kept inputs given
    have there := stable s s' here later kept
    cases result : t inputs s' with
    | ok pair =>
      obtain ⟨owed, kept', -⟩ := committed s' there kept inputs given pair.1 pair.2 result
      simp only [Routine.committed, result]
      exact ⟨owed, kept'⟩
    | error e =>
      simp only [Routine.committed, result]
      exact ⟨K.guarantee_refl s', kept⟩
  · intro s' later kept inputs given
    have there := stable s s' here later kept
    cases result : t inputs s' with
    | ok pair =>
      obtain ⟨-, -, holds⟩ := committed s' there kept inputs given pair.1 pair.2 result
      simp only [Routine.committed, result]
      exact okSafe pair.1 pair.2 holds
    | error e =>
      simp only [Routine.committed, result]
      exact errorSafe e s' (refused s' there kept inputs given e result)

theorem await_ {message : q} {Q : ρ → σ → Prop} (stable : Stable K P)
    (issued : ∀ s, P s → K.invariant s →
      K.guarantee s (H.issue message s) ∧ K.invariant (H.issue message s))
    (pending : ∀ s s', P s → K.invariant s → K.awaiting (H.issue message s) s' → K.invariant s' →
      K.pending message s')
    (answered : ∀ s s', P s → K.invariant s → K.awaiting (H.issue message s) s' → K.invariant s' →
      ∀ reply, H.answers message s' (.ok reply) → Q reply s')
    (failed : ∀ s s', P s → K.invariant s → K.awaiting (H.issue message s) s' → K.invariant s' →
      ∀ e, H.answers message s' (.error e) → E e s') :
    Triple H K P (.await message) Q E := by
  intro ok error okSafe errorSafe s here
  constructor
  · exact fun s' later kept => issued s' (stable s s' here later kept) kept
  · exact fun s' s'' later kept => pending s' s'' (stable s s' here later kept) kept
  · intro s' s'' later kept meanwhile kept' answer given
    have there := stable s s' here later kept
    cases answer with
    | ok reply => exact okSafe reply s'' (answered s' s'' there kept meanwhile kept' reply given)
    | error e => exact errorSafe e s'' (failed s' s'' there kept meanwhile kept' e given)

end Triple

/-- A program that ends without a request, whatever happens at any time. -/
inductive Silent (H : Host σ ι q ρ ε τ κ) (K : Contract σ q) : Program σ ι q ρ ε → σ → Prop
  | done {s} : Silent H K .done s
  | sync {write rest s} :
      (∀ s', K.anytime s s' → ∀ inputs, H.inputs s' inputs →
        Silent H K (rest inputs s') (write inputs s')) → Silent H K (.sync write rest) s

/-- A silent transaction goes on with its result, or with its failure. -/
theorem Silent.transaction {t : ι → σ → Except ε (α × σ)} {ok : α → Program σ ι q ρ ε}
    {error : ε → Program σ ι q ρ ε} {s : σ}
    (committed : ∀ s', K.anytime s s' → ∀ inputs, H.inputs s' inputs → ∀ a s'',
      t inputs s' = .ok (a, s'') → Silent H K (ok a) s'')
    (refused : ∀ s', K.anytime s s' → ∀ inputs, H.inputs s' inputs → ∀ e,
      t inputs s' = .error e → Silent H K (error e) s') :
    Silent H K (Routine.transaction t ok error) s := by
  refine .sync fun s' later inputs given => ?_
  cases result : t inputs s' with
  | ok pair =>
    simp only [Routine.committed, result]
    exact committed s' later inputs given pair.1 pair.2 result
  | error e =>
    simp only [Routine.committed, result]
    exact refused s' later inputs given e result

theorem Silent.bind_ {x : Routine σ ι q ρ ε α} {f : α → Routine σ ι q ρ ε β}
    {ok : β → Program σ ι q ρ ε} {error : ε → Program σ ι q ρ ε} {s : σ}
    (silent : Silent H K (x (fun a => f a ok error) error) s) :
    Silent H K ((x >>= f) ok error) s := silent

theorem Stable.and {P P' : σ → Prop} (first : Stable K P) (second : Stable K P') :
    Stable K fun s => P s ∧ P' s :=
  fun s s' holds later kept => ⟨first s s' holds.1 later kept, second s s' holds.2 later kept⟩

theorem Stable.fact (fact : Prop) : Stable K fun _ => fact := fun _ _ holds _ _ => holds

/-- Whatever happens outside keeps the contract. -/
structure Outside (H : Host σ ι q ρ ε τ κ) (K : Contract σ q) : Prop where
  invariant : ∀ s event, K.invariant s → H.permits s event → K.invariant (H.outside s event)
  guarantee : ∀ s event, K.invariant s → H.permits s event → K.guarantee s (H.outside s event)
  awaiting : ∀ s event, K.invariant s → H.permits s event → K.awaiting s (H.outside s event)
  anytime : ∀ s event, K.invariant s → H.permits s event → H.remote event →
    K.anytime s (H.outside s event)

/-- The activity will go on to meet the contract. -/
inductive Good (H : Host σ ι q ρ ε τ κ) (K : Contract σ q) : State σ ι q ρ ε → Prop
  | idle {s} : Good H K ⟨s, .idle⟩
  | running {s program} : Safe H K program s → Good H K ⟨s, .running program⟩
  | waiting {s message rest} :
      (∀ s', K.awaiting s s' → K.invariant s' → K.pending message s') →
      (∀ s', K.awaiting s s' → K.invariant s' → ∀ answer,
        H.answers message s' answer → Safe H K (rest answer) s') → Good H K ⟨s, .waiting message rest⟩

section Activities

variable {v : State σ ι q ρ ε} {s s' : σ} {activity : Activity σ ι q ρ ε}

/-- A program that does not run goes on as before after what may happen during an await. -/
theorem Good.meanwhile (good : Good H K ⟨s, activity⟩) (still : ∀ program, activity ≠ .running program)
    (more : K.awaiting s s') : Good H K ⟨s', activity⟩ := by
  cases good with
  | idle => exact .idle
  | running => exact absurd rfl (still _)
  | waiting pending step =>
    exact .waiting (fun s'' later => pending s'' (K.awaiting_trans _ _ _ more later))
      (fun s'' later => step s'' (K.awaiting_trans _ _ _ more later))

/-- A program that runs goes on as before after what may happen at any time. -/
theorem Good.later {program : Program σ ι q ρ ε} (good : Good H K ⟨s, .running program⟩)
    (more : K.anytime s s') : Good H K ⟨s', .running program⟩ := by
  cases good with
  | running safe => exact .running (safe.later more)

theorem Good.start (good : Good H K v) {cause : κ} (spawned : Safe H K (H.spawn cause) v.store) :
    (H.next v (.start cause)).store = v.store ∧ Good H K (H.next v (.start cause)) := by
  cases good with
  | idle => exact ⟨rfl, .running spawned⟩
  | running safe => exact ⟨rfl, .running safe⟩
  | waiting pending rest => exact ⟨rfl, .waiting pending rest⟩

theorem Good.advance (good : Good H K v) (kept : K.invariant v.store) {inputs : ι}
    (given : H.inputs v.store inputs) :
    K.invariant (H.next v (.advance inputs)).store ∧ Good H K (H.next v (.advance inputs)) ∧
      K.guarantee v.store (H.next v (.advance inputs)).store := by
  cases good with
  | idle => exact ⟨kept, .idle, K.guarantee_refl _⟩
  | waiting pending rest => exact ⟨kept, .waiting pending rest, K.guarantee_refl _⟩
  | running safe =>
    cases safe with
    | done => exact ⟨kept, .idle, K.guarantee_refl _⟩
    | sync step rest =>
      obtain ⟨owed, kept'⟩ := step _ (K.anytime_refl _) kept inputs given
      exact ⟨kept', .running (rest _ (K.anytime_refl _) kept inputs given), owed⟩
    | request step pending rest =>
      obtain ⟨owed, kept'⟩ := step _ (K.anytime_refl _) kept
      exact ⟨kept', .waiting (fun s' => pending _ s' (K.anytime_refl _) kept)
        (fun s' => rest _ s' (K.anytime_refl _) kept), owed⟩

theorem Good.reply (good : Good H K v) (kept : K.invariant v.store) {answer : Except ε ρ}
    (admitted : H.admits v (.reply answer)) :
    (H.next v (.reply answer)).store = v.store ∧ Good H K (H.next v (.reply answer)) := by
  obtain ⟨message, rest, same, given⟩ := admitted
  cases good with
  | idle => cases same
  | running => cases same
  | waiting pending step =>
    cases same
    exact ⟨rfl, .running (step _ (K.awaiting_refl _) kept answer given)⟩

end Activities

variable (outside : Outside H K)
  (spawned : ∀ s cause, K.invariant s → Safe H K (H.spawn cause) s)
include outside spawned

/-- One step keeps the invariant, keeps the activity good and meets the guarantee. -/
theorem step_good {v : State σ ι q ρ ε} {t : Event ι ρ ε τ κ} (kept : K.invariant v.store)
    (good : Good H K v) (admitted : H.admits v t) :
    K.invariant (H.next v t).store ∧ Good H K (H.next v t) ∧
      K.guarantee v.store (H.next v t).store := by
  cases t with
  | start cause =>
    obtain ⟨same, good'⟩ := good.start (spawned _ cause kept)
    rw [same]
    exact ⟨kept, good', K.guarantee_refl _⟩
  | advance inputs => exact good.advance kept admitted
  | reply answer =>
    obtain ⟨same, good'⟩ := good.reply kept admitted
    rw [same]
    exact ⟨kept, good', K.guarantee_refl _⟩
  | crash => exact ⟨kept, .idle, K.guarantee_refl _⟩
  | outside event =>
    obtain ⟨permitted, thread⟩ := admitted
    refine ⟨outside.invariant _ _ kept permitted, ?_, outside.guarantee _ _ kept permitted⟩
    rcases thread with remote | free
    · cases good with
      | running safe =>
        exact .running (safe.later (outside.anytime _ _ kept permitted remote))
      | idle => exact .idle
      | waiting pending step =>
        exact (Good.waiting pending step).meanwhile (fun _ same => by cases same)
          (outside.awaiting _ _ kept permitted)
    · exact good.meanwhile free (outside.awaiting _ _ kept permitted)

omit outside spawned in
/-- What an awaited request promises holds until its reply is read. -/
theorem Good.pending {v : State σ ι q ρ ε} {message : q} {rest : Except ε ρ → Program σ ι q ρ ε}
    (good : Good H K v) (kept : K.invariant v.store) (waiting : v.activity = .waiting message rest) :
    K.pending message v.store := by
  cases good with
  | idle => cases waiting
  | running => cases waiting
  | waiting pending =>
    cases waiting
    exact pending _ (K.awaiting_refl _) kept

/-- The invariant holds in every state of every run. -/
theorem run_good {s : σ} {v : State σ ι q ρ ε} {history : List (State σ ι q ρ ε × Event ι ρ ε τ κ)}
    (run : Run H.system ⟨s, .idle⟩ history v) (initial : K.invariant s) :
    K.invariant v.store ∧ Good H K v := by
  refine run.invariant (fun v => K.invariant v.store ∧ Good H K v) ⟨initial, .idle⟩ ?_
  intro v t kept admitted
  obtain ⟨kept', good', -⟩ := step_good outside spawned kept.1 kept.2 admitted
  exact ⟨kept', good'⟩

/-- A preorder that contains the guarantee relates the stores of a run in their order. -/
theorem run_related {s : σ} {u v : State σ ι q ρ ε}
    {earlier later : List (State σ ι q ρ ε × Event ι ρ ε τ κ)} (R : σ → σ → Prop)
    (refl : ∀ s, R s s) (trans : ∀ a b c, R a b → R b c → R a c)
    (contains : ∀ a b, K.invariant a → K.invariant b → K.guarantee a b → R a b)
    (before : Run H.system ⟨s, .idle⟩ earlier u) (run : Run H.system u later v)
    (initial : K.invariant s) : R u.store v.store := by
  induction run with
  | refl => exact refl _
  | step t run admitted ih =>
    obtain ⟨kept, good⟩ := run_good outside spawned (before.trans run) initial
    obtain ⟨kept', -, owed⟩ := step_good outside spawned kept good admitted
    exact trans _ _ _ ih (contains _ _ kept kept' owed)

end Logic

end Async
