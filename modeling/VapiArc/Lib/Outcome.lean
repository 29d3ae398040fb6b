import VapiArc.Lib.Async

/-!
# How a routine ends

A routine that has its store for itself hands its result to whatever follows it. What a triple
promises of the result holds of every way in which the routine can end.
-/
namespace Async

section Outcomes

variable {σ ι q ρ ε τ κ α : Type} (H : Host σ ι q ρ ε τ κ)

/-- A program goes on to another one, and nobody else touches the store meanwhile. -/
inductive Leads : Program σ ι q ρ ε → σ → Program σ ι q ρ ε → σ → Prop
  | refl {program s} : Leads program s program s
  | sync {write rest s inputs program s'} : H.inputs s inputs →
      Leads (rest inputs s) (write inputs s) program s' → Leads (.sync write rest) s program s'
  | request {message rest s answer program s'} :
      H.answers message (H.issue message s) answer →
      Leads (rest answer) (H.issue message s) program s' →
      Leads (.request message rest) s program s'

/-- The routine ends with this result: whatever follows it is given the result. -/
def Ends (x : Routine σ ι q ρ ε α) (s : σ) (result : Except ε α) (s' : σ) : Prop :=
  ∀ ok error, Leads H (x ok error) s
    (match result with
      | .ok a => ok a
      | .error e => error e) s'

/-- The routine is cut off somewhere. -/
def CutOff (x : Routine σ ι q ρ ε α) (s s' : σ) : Prop :=
  ∃ program, Leads H (x (fun _ => .done) fun _ => .done) s program s'

variable {H} {K : Contract σ q} {program program' : Program σ ι q ρ ε} {s s' : σ}

theorem Safe.leads (safe : Safe H K program s) (kept : K.invariant s)
    (leads : Leads H program s program' s') : Safe H K program' s' ∧ K.invariant s' := by
  induction leads with
  | refl => exact ⟨safe, kept⟩
  | sync given _ ih =>
    cases safe with
    | sync owed rest =>
      obtain ⟨-, kept'⟩ := owed _ (K.anytime_refl _) kept _ given
      exact ih (rest _ (K.anytime_refl _) kept _ given) kept'
  | request given _ ih =>
    cases safe with
    | request owed _ rest =>
      obtain ⟨-, kept'⟩ := owed _ (K.anytime_refl _) kept
      exact ih (rest _ _ (K.anytime_refl _) kept (K.awaiting_refl _) kept' _ given) kept'

variable {P : σ → Prop} {x : Routine σ ι q ρ ε α} {Q : α → σ → Prop} {E : ε → σ → Prop}

theorem Ends.cutOff {result : Except ε α} (ends : Ends H x s result s') : CutOff H x s s' := by
  have leads := ends (fun _ => .done) fun _ => .done
  exact ⟨_, leads⟩

/-- The invariant holds wherever a routine is cut off. -/
theorem Triple.cutOff (triple : Triple H K P x Q E) (here : P s) (kept : K.invariant s)
    (cut : CutOff H x s s') : K.invariant s' := by
  obtain ⟨program, leads⟩ := cut
  have safe := triple (fun _ => .done) (fun _ => .done) (fun _ _ _ => .done) (fun _ _ _ => .done)
    s here
  exact (safe.leads kept leads).2

/-- The postcondition holds where a routine ends, if the invariant is one that can be broken. -/
theorem Triple.ends (triple : Triple H K P x Q E) (stable : ∀ a, Stable K (Q a)) {broken : σ}
    (breaks : ¬ K.invariant broken) (inputs : ∀ s, ∃ given, H.inputs s given) (here : P s)
    (kept : K.invariant s) {a : α} (ends : Ends H x s (.ok a) s') : K.invariant s' ∧ Q a s' := by
  classical
  -- what follows breaks the invariant wherever the postcondition does not hold
  let probe (a : α) : Program σ ι q ρ ε :=
    .sync (fun _ s => if Q a s then s else broken) fun _ _ => .done
  have probed (a : α) (s : σ) (holds : Q a s) : Safe H K (probe a) s := by
    apply Safe.sync
    · intro s' later kept _ _
      rw [if_pos (stable a s s' holds later kept)]
      exact ⟨K.guarantee_refl s', kept⟩
    · intro _ _ _ _ _
      exact .done
  have safe := triple probe (fun _ => .done) probed (fun _ _ _ => .done) s here
  obtain ⟨safe', kept'⟩ := safe.leads kept (ends probe fun _ => .done)
  apply And.intro kept'
  obtain ⟨given, permitted⟩ := inputs s'
  cases safe' with
  | sync owed _ =>
    obtain ⟨-, whole⟩ := owed s' (K.anytime_refl s') kept' given permitted
    by_contra fails
    simp only [if_neg fails] at whole
    exact breaks whole

end Outcomes

end Async
