import VapiArc.Lib.Async

/-!
# Programs whose requests are answered by routines

A program that awaits a reply does not see who gives it: the requests of one host can be
answered by routines of another one, whose store has the first one's store in it.
-/
namespace Async

section Interpretation

variable {σ σ' ι ι' q q' ρ ρ' ε : Type}

/-- Where the store of a program lies in a larger one, and which inputs are its own. -/
structure Embedding (σ ι σ' ι' : Type) where
  inputs : ι' → ι
  get : σ' → σ
  put : σ → σ' → σ'

variable (embedding : Embedding σ ι σ' ι') (handle : q → Routine σ' ι' q' ρ' ε ρ)

def Program.interpret : Program σ ι q ρ ε → Program σ' ι' q' ρ' ε
  | .done => .done
  | .sync write rest =>
    .sync (fun inputs s => embedding.put (write (embedding.inputs inputs) (embedding.get s)) s)
      fun inputs s => (rest (embedding.inputs inputs) (embedding.get s)).interpret
  | .request message rest =>
    handle message (fun reply => (rest (.ok reply)).interpret) fun e => (rest (.error e)).interpret

variable {τ κ : Type} {H : Host σ' ι' q' ρ' ε τ κ} {K : Contract σ' q'}

/-- A program meets a contract that its own writes keep, if every routine behind its requests
does, whatever the state that routine starts in. -/
theorem Safe.interpret {embedding : Embedding σ ι σ' ι'} {handle : q → Routine σ' ι' q' ρ' ε ρ}
    (writes : ∀ s own, K.invariant s →
      K.guarantee s (embedding.put own s) ∧ K.invariant (embedding.put own s))
    (handled : ∀ message,
      Triple H K (fun _ => True) (handle message) (fun _ _ => True) fun _ _ => True)
    (program : Program σ ι q ρ ε) (s : σ') : Safe H K (program.interpret embedding handle) s := by
  -- a write is the program's own, a request is its handler's
  induction program generalizing s with
  | done => exact .done
  | sync write rest ih =>
    apply Safe.sync
    · intro s' _ kept inputs _
      exact writes s' _ kept
    · intro s' _ _ inputs _
      exact ih _ _ _
  | request message rest ih =>
    apply handled message
    · intro reply s' _
      exact ih _ s'
    · intro e s' _
      exact ih _ s'
    · trivial

end Interpretation

end Async
