import VapiArc.Escrow.Cases
import VapiArc.Escrow.Solvency
import VapiArc.Lib.Roll

/-!
# Commits and reveals

The votes on a case are its accepted reveals, read off the history. The tally that
the panel stores counts them, and each of them opens an earlier commitment.
-/
namespace VapiArc.Escrow

open DisputePanel Function

variable {d : Deployment} {start w w' : World} {tx : Tx} {history : History} {e : Address}

/-- A counted vote. -/
structure Vote where
  arbiter : Address
  choice : Uint8
  salt : Bytes32
  deriving DecidableEq

/-- The vote on `e` that a transaction added, if it was an accepted reveal. -/
def vote (d : Deployment) (e : Address) (entry : World × Tx) : Option Vote :=
  match entry.2.call with
  | .reveal escrow choice salt =>
    if escrow = e ∧ Accepted d entry then some ⟨entry.2.msg.sender, choice, salt⟩ else none
  | _ => none

/-- The votes on `e`, the newest first. -/
def votes (d : Deployment) (e : Address) (history : History) : List Vote :=
  history.filterMap (vote d e)

/-- The choices of a list of votes, without their order. -/
def choices (vs : List Vote) : Multiset Uint8 := (vs.map Vote.choice : Multiset Uint8)

/-- The choices that were revealed on `e`. -/
def ballot (d : Deployment) (e : Address) (history : History) : Multiset Uint8 :=
  choices (votes d e history)

/-- What a transaction does that adds a vote. -/
theorem vote_some {v : Vote} (h : vote d e (w, tx) = some v) : v.arbiter = tx.msg.sender ∧
    Revealable d tx.msg w e v.choice v.salt ∧
    ∃ dispute, Counted (w.panel.cases e) v.choice dispute ∧
      step d w tx = { (w.setRevealed e v.arbiter).setCase e dispute with
        clock := tx.msg.timestamp } := by
  unfold vote at h
  split at h
  next escrow choice salt call =>
    split at h
    next own =>
      obtain ⟨rfl, w', success⟩ := own
      cases h
      change tx.call = _ at call
      have revealed : reveal d tx.msg w escrow choice salt = .ok w' := by
        simpa only [exec, call] using success
      obtain ⟨revealable, dispute, counted, rfl⟩ := reveal_ok.mp revealed
      exact ⟨rfl, revealable, dispute, countVote_counted counted, step_accepted success⟩
    next => cases h
  next => cases h

/-- The tally of a case and nothing else of it. -/
structure SameTally (k k' : CaseData) : Prop where
  revealCount : k'.revealCount = k.revealCount
  releaseVotes : k'.releaseVotes = k.releaseVotes
  refundVotes : k'.refundVotes = k.refundVotes
  splitVotes : k'.splitVotes = k.splitVotes

/-- What a change does to the flags and the tally of a case. -/
theorem Change.ballot (change : Change d w tx w') (e : Address) :
    w'.panel.revealed e = w.panel.revealed e ∧
      SameTally (w.panel.cases e) (w'.panel.cases e) ∨
    ∃ choice salt, tx.call = .reveal e choice salt := by
  have same : SameTally (w.panel.cases e) (w.panel.cases e) := ⟨rfl, rfl, rfl, rfl⟩
  have tally {written : Address} {k : CaseData} (kept : SameTally (w.panel.cases written) k) :
      SameTally (w.panel.cases e) (update w.panel.cases written k e) := by
    by_cases own : e = written
    · subst own
      rw [update_self]
      exact kept
    · rw [update_of_ne own]
      exact same
  cases change with
  | disputed => exact .inl ⟨rfl, tally ⟨rfl, rfl, rfl, rfl⟩⟩
  | executed => exact .inl ⟨rfl, tally ⟨rfl, rfl, rfl, rfl⟩⟩
  | executedElsewhere => exact .inl ⟨rfl, tally ⟨rfl, rfl, rfl, rfl⟩⟩
  | openedElsewhere => exact .inl ⟨rfl, tally ⟨rfl, rfl, rfl, rfl⟩⟩
  | @revealed written choice salt k call revealable counted =>
    by_cases own : e = written
    · subst own
      exact .inr ⟨choice, salt, call⟩
    · refine .inl ⟨?_, ?_⟩
      · show update w.panel.revealed written _ e = _
        rw [update_of_ne own]
      · show SameTally _ (update w.panel.cases written k e)
        rw [update_of_ne own]
        exact same
  | _ => exact .inl ⟨rfl, same⟩

/-- A transaction that adds no vote leaves the flags and the tally as they were. -/
theorem vote_none (admissible : Admissible d w tx) (none : vote d e (w, tx) = none) :
    (step d w tx).panel.revealed e = w.panel.revealed e ∧
      SameTally (w.panel.cases e) ((step d w tx).panel.cases e) := by
  rcases step_cases admissible with ⟨_, same⟩ | ⟨w', accepted, change, next⟩
  · rw [same]
    exact ⟨rfl, rfl, rfl, rfl, rfl⟩
  · rw [next]
    rcases change.ballot e with kept | ⟨choice, salt, call⟩
    · exact kept
    · have here : Accepted d (w, tx) := ⟨w', accepted⟩
      simp [vote, call, here] at none

/-! ### The tally -/

/-- The flags are raised for the voters, and the counters count the votes. -/
structure Tallied (k : CaseData) (flag : Address → Bool) (vs : List Vote) : Prop where
  roll : Roll flag (vs.map Vote.arbiter)
  valid : ∀ v ∈ vs, v.choice = releaseVote ∨ v.choice = refundVote ∨ v.choice = splitVote
  revealCount : k.revealCount.val = vs.length
  releaseVotes : k.releaseVotes.val = (vs.map Vote.choice).count releaseVote
  refundVotes : k.refundVotes.val = (vs.map Vote.choice).count refundVote
  splitVotes : k.splitVotes.val = (vs.map Vote.choice).count splitVote

theorem Tallied.same {k k' : CaseData} {flag : Address → Bool} {vs : List Vote}
    (tallied : Tallied k flag vs) (same : SameTally k k') : Tallied k' flag vs := by
  constructor
  · exact tallied.roll
  · exact tallied.valid
  · rw [same.revealCount, tallied.revealCount]
  · rw [same.releaseVotes, tallied.releaseVotes]
  · rw [same.refundVotes, tallied.refundVotes]
  · rw [same.splitVotes, tallied.splitVotes]

/-- The three choices that the panel accepts. -/
theorem valid_choice {choice : Uint8} (valid : releaseVote ≤ choice ∧ choice ≤ splitVote) :
    choice = releaseVote ∨ choice = refundVote ∨ choice = splitVote := by
  obtain ⟨low, high⟩ := valid
  simp only [releaseVote, refundVote, splitVote, Fin.le_def, Fin.ext_iff] at *
  have one : ((1 : Uint8) : Nat) = 1 := rfl
  have two : ((2 : Uint8) : Nat) = 2 := rfl
  have three : ((3 : Uint8) : Nat) = 3 := rfl
  omega

/-- Every vote is counted in one of the three counters. -/
theorem length_eq_counts {vs : List Vote} (valid : ∀ v ∈ vs,
      v.choice = releaseVote ∨ v.choice = refundVote ∨ v.choice = splitVote) :
    vs.length = (vs.map Vote.choice).count releaseVote + (vs.map Vote.choice).count refundVote +
      (vs.map Vote.choice).count splitVote := by
  induction vs with
  | nil => rfl
  | cons v vs ih =>
    have rest := ih fun u old => valid u (List.mem_cons_of_mem v old)
    rw [List.length_cons, List.map_cons]
    -- the newest vote is in exactly one of the counters
    rcases valid v List.mem_cons_self with choice | choice | choice
    · rw [choice, List.count_cons_self, List.count_cons_of_ne (by decide),
        List.count_cons_of_ne (by decide)]
      omega
    · rw [choice, List.count_cons_self, List.count_cons_of_ne (by decide),
        List.count_cons_of_ne (by decide)]
      omega
    · rw [choice, List.count_cons_self, List.count_cons_of_ne (by decide),
        List.count_cons_of_ne (by decide)]
      omega

/-- One more vote raises one flag and one of the counters. -/
theorem Tallied.counted {k k' : CaseData} {flag : Address → Bool} {vs : List Vote} {v : Vote}
    (tallied : Tallied k flag vs) (down : flag v.arbiter = false)
    (valid : releaseVote ≤ v.choice ∧ v.choice ≤ splitVote) (counted : Counted k v.choice k') :
    Tallied k' (update flag v.arbiter true) (v :: vs) := by
  have choice := valid_choice valid
  -- the arbiter joins the roll, and one of the three counts grows by one
  have roll := tallied.roll.raise down
  have choices : ∀ u ∈ v :: vs,
      u.choice = releaseVote ∨ u.choice = refundVote ∨ u.choice = splitVote := by
    intro u member
    rcases List.mem_cons.mp member with rfl | old
    · exact choice
    · exact tallied.valid u old
  have length := tallied.revealCount
  have release := tallied.releaseVotes
  have refund := tallied.refundVotes
  have split := tallied.splitVotes
  cases counted with
  | release isRelease grown voted =>
    refine ⟨roll, choices, ?_, ?_, ?_, ?_⟩
    · simp only [List.length_cons]
      omega
    · rw [List.map_cons, isRelease, List.count_cons_self, ← release]
      exact voted.symm
    · rw [List.map_cons, isRelease, List.count_cons_of_ne (by decide)]
      exact refund
    · rw [List.map_cons, isRelease, List.count_cons_of_ne (by decide)]
      exact split
  | refund isRefund grown voted =>
    refine ⟨roll, choices, ?_, ?_, ?_, ?_⟩
    · simp only [List.length_cons]
      omega
    · rw [List.map_cons, isRefund, List.count_cons_of_ne (by decide)]
      exact release
    · rw [List.map_cons, isRefund, List.count_cons_self, ← refund]
      exact voted.symm
    · rw [List.map_cons, isRefund, List.count_cons_of_ne (by decide)]
      exact split
  | split notRelease notRefund grown voted =>
    have isSplit : v.choice = splitVote :=
      (choice.resolve_left notRelease).resolve_left notRefund
    refine ⟨roll, choices, ?_, ?_, ?_, ?_⟩
    · simp only [List.length_cons]
      omega
    · rw [List.map_cons, isSplit, List.count_cons_of_ne (by decide)]
      exact release
    · rw [List.map_cons, isSplit, List.count_cons_of_ne (by decide)]
      exact refund
    · rw [List.map_cons, isSplit, List.count_cons_self, ← split]
      exact voted.symm

theorem Run.tallied (run : Run d start history w) (e : Address) :
    Tallied (w.panel.cases e) (w.panel.revealed e) (votes d e history) := by
  refine run.run.historyInvariant
    (fun past v => Tallied (v.panel.cases e) (v.panel.revealed e) (votes d e past)) ?_ ?_
  · rw [run.genesis.panel]
    refine ⟨Roll.nil, ?_, rfl, rfl, rfl, rfl⟩
    intro v member
    cases member
  · intro earlier v t before tallied admissible
    show Tallied ((step d v t).panel.cases e) ((step d v t).panel.revealed e) _
    cases added : vote d e (v, t) with
    | none =>
      obtain ⟨flags, same⟩ := vote_none admissible added
      have still : votes d e ((v, t) :: earlier) = votes d e earlier := by
        simp [votes, added]
      rw [flags, still]
      exact tallied.same same
    | some u =>
      obtain ⟨voter, revealable, dispute, counted, next⟩ := vote_some added
      have more : votes d e ((v, t) :: earlier) = u :: votes d e earlier := by
        simp [votes, added]
      -- the flag is what keeps an arbiter from voting twice
      have down : v.panel.revealed e u.arbiter = false := voter ▸ revealable.unrevealed
      rw [next, more]
      simpa using tallied.counted down revealable.valid counted

/-! ### Commitments -/

/-- A transaction that commits `a` on `e`, while registered and in the window of the case. -/
structure Commits (d : Deployment) (e a : Address) (commitment : Bytes32) (k : CaseData)
    (entry : World × Tx) : Prop where
  accepted : Accepted d entry
  call : entry.2.call = .commit e commitment
  sender : entry.2.msg.sender = a
  registered : entry.1.registry.arbiters a = true
  window : k.commitStart.val ≤ entry.2.msg.timestamp ∧
    entry.2.msg.timestamp < k.commitDeadline.val

theorem Commits.sameWindows {a : Address} {commitment : Bytes32} {k k' : CaseData}
    {entry : World × Tx} (commits : Commits d e a commitment k entry) (same : SameWindows k k') :
    Commits d e a commitment k' entry := by
  refine ⟨commits.accepted, commits.call, commits.sender, commits.registered, ?_⟩
  rw [same.commitStart, same.commitDeadline]
  exact commits.window

/-- What a change does to the commitments on a case. -/
theorem Change.commitments (change : Change d w tx w') (e : Address) :
    w'.panel.commitments e = w.panel.commitments e ∨
    ∃ commitment, tx.call = .commit e commitment ∧
      w.registry.arbiters tx.msg.sender = true ∧ (w.panel.cases e).commitDeadline ≠ 0 ∧
      ((w.panel.cases e).commitStart.val ≤ tx.msg.timestamp ∧
        tx.msg.timestamp < (w.panel.cases e).commitDeadline.val) ∧
      w.panel.commitments e tx.msg.sender = 0 ∧ w'.panel.cases = w.panel.cases ∧
      w'.panel.commitments e = update (w.panel.commitments e) tx.msg.sender commitment := by
  cases change with
  | @committed written commitment call arbiter known pending window fresh nonzero =>
    by_cases own : e = written
    · subst own
      exact .inr ⟨commitment, call, arbiter, known, window, fresh, rfl,
        by simp [World.setCommitment]⟩
    · left
      simp [World.setCommitment, own]
  | _ => exact .inl rfl

/-- A commitment is never overwritten. -/
theorem step_commitment (admissible : Admissible d w tx) {a : Address}
    (made : w.panel.commitments e a ≠ 0) :
    (step d w tx).panel.commitments e a = w.panel.commitments e a := by
  obtain ⟨w', change, next⟩ := step_change admissible
  rw [next]
  rcases change.commitments e with same | ⟨commitment, _, _, _, _, fresh, _, written⟩
  · exact congrFun same a
  · -- the sender's own commitment had to be empty
    have other : a ≠ tx.msg.sender := by
      rintro rfl
      exact made fresh
    show w'.panel.commitments e a = _
    rw [written, update_of_ne other]

theorem run_commitment {later : History} (run : Transition.Run (system d) w later w') {a : Address}
    (made : w.panel.commitments e a ≠ 0) :
    w'.panel.commitments e a = w.panel.commitments e a := by
  refine run.invariant (fun v => v.panel.commitments e a = w.panel.commitments e a) rfl ?_
  intro v t same admissible
  exact (step_commitment admissible (same ▸ made)).trans same

/-- Every stored commitment was made by its arbiter. -/
structure Committed (d : Deployment) (e : Address) (history : History) (w : World) (a : Address) :
    Prop where
  known : (w.panel.cases e).commitDeadline ≠ 0
  made : ∃ entry ∈ history, Commits d e a (w.panel.commitments e a) (w.panel.cases e) entry

theorem Run.committed (run : Run d start history w) {a : Address}
    (stored : w.panel.commitments e a ≠ 0) : Committed d e history w a := by
  refine run.run.historyInvariant
    (fun past v => v.panel.commitments e a ≠ 0 → Committed d e past v a) ?_ ?_ stored
  · rw [run.genesis.panel]
    intro nothing
    exact absurd rfl nothing
  · intro earlier v t before committed admissible stored
    change (step d v t).panel.commitments e a ≠ 0 at stored
    show Committed d e _ (step d v t) a
    by_cases old : v.panel.commitments e a ≠ 0
    · -- an earlier commitment and the windows of its case are kept
      obtain ⟨known, entry, member, commits⟩ := committed old
      have windows : SameWindows (v.panel.cases e) ((step d v t).panel.cases e) :=
        (run_case (.step t .refl admissible) known).1
      refine ⟨windows.commitDeadline ▸ known, entry, List.mem_cons_of_mem _ member, ?_⟩
      rw [step_commitment admissible old]
      exact commits.sameWindows windows
    · rcases step_cases admissible with ⟨_, same⟩ | ⟨v', accepted, change, next⟩
      · rw [same] at stored
        exact absurd stored old
      · rw [next] at stored ⊢
        rcases change.commitments e with same | ⟨commitment, call, arbiter, known, window, _,
          cases, written⟩
        · rw [← same] at old
          exact absurd stored old
        · by_cases own : a = t.msg.sender
          · subst own
            refine ⟨?_, (v, t), List.mem_cons_self, ⟨v', accepted⟩, ?_, rfl, arbiter, ?_⟩
            · show (v'.panel.cases e).commitDeadline ≠ 0
              rw [cases]
              exact known
            · show t.call = .commit e (v'.panel.commitments e t.msg.sender)
              rw [written, update_self]
              exact call
            · show (v'.panel.cases e).commitStart.val ≤ _ ∧
                _ < (v'.panel.cases e).commitDeadline.val
              rw [cases]
              exact window
          · have untouched : v'.panel.commitments e a = v.panel.commitments e a := by
              rw [written, update_of_ne own]
            rw [← untouched] at old
            exact absurd stored old

/-- The hash of a vote determines the escrow, the arbiter, the choice and the salt. -/
def Binding (d : Deployment) : Prop :=
  ∀ e a choice salt e' a' choice' salt',
    commitmentHash d e a choice salt = commitmentHash d e' a' choice' salt' →
    e = e' ∧ a = a' ∧ choice = choice' ∧ salt = salt'

/-- A commitment that binds a vote elsewhere cannot be opened. -/
theorem Binding.unrevealable {choice : Uint8} {salt : Bytes32} (binding : Binding d)
    {e' a' : Address} {choice' : Uint8} {salt' : Bytes32}
    (copied : w.panel.commitments e tx.msg.sender = commitmentHash d e' a' choice' salt')
    (foreign : (e, tx.msg.sender) ≠ (e', a')) (call : tx.call = .reveal e choice salt) :
    ¬ Accepted d (w, tx) := by
  rintro ⟨w', success⟩
  have revealed : reveal d tx.msg w e choice salt = .ok w' := by
    simpa only [exec, call] using success
  obtain ⟨revealable, _⟩ := reveal_ok.mp revealed
  obtain ⟨rfl, rfl, _, _⟩ := binding _ _ _ _ _ _ _ _ (revealable.binding.trans copied)
  exact foreign rfl

/-- A vote opens the commitment that its arbiter still has on the case. -/
theorem Run.bound (run : Run d start history w) {newer older : History} {revealing : World × Tx}
    {v : Vote} (happened : history = newer ++ revealing :: older)
    (added : vote d e revealing = some v) :
    w.panel.commitments e v.arbiter = commitmentHash d e v.arbiter v.choice v.salt ∧
    ∃ committing ∈ older, Commits d e v.arbiter
      (commitmentHash d e v.arbiter v.choice v.salt) (w.panel.cases e) committing := by
  subst happened
  obtain ⟨before, admissible, after⟩ := run.run.cut
  obtain ⟨voter, revealable, _⟩ := vote_some added
  -- the commitment that the reveal found is the one that is stored in the end
  have since : Transition.Run (system d) revealing.1 (newer ++ [revealing]) w :=
    Transition.Run.trans (.step revealing.2 .refl admissible) after
  have stored : revealing.1.panel.commitments e v.arbiter ≠ 0 := voter ▸ revealable.committed
  have hash : commitmentHash d e v.arbiter v.choice v.salt =
      revealing.1.panel.commitments e v.arbiter := voter ▸ revealable.binding
  obtain ⟨known, committing, member, commits⟩ := (Run.mk run.genesis before).committed stored
  refine ⟨(run_commitment since stored).trans hash.symm, committing, member, ?_⟩
  rw [hash]
  exact commits.sameWindows (run_case since known).1

/-- The panel's ballots after a run. -/
structure BallotSoundness (d : Deployment) (history : History) (w : World) : Prop where
  /-- The counters of a case add up to the number of raised flags. -/
  tally : ∀ e, (w.panel.cases e).revealCount.val = (w.panel.cases e).releaseVotes.val +
      (w.panel.cases e).refundVotes.val + (w.panel.cases e).splitVotes.val ∧
    (w.panel.cases e).revealCount.val = {a | w.panel.revealed e a = true}.ncard
  /-- The counted votes are the accepted reveals. -/
  counted : ∀ e, Tallied (w.panel.cases e) (w.panel.revealed e) (votes d e history)
  /-- Each vote is of another arbiter. -/
  distinct : ∀ e, ((votes d e history).map Vote.arbiter).Nodup
  /-- Each vote opens what its arbiter committed earlier, registered and in the window. -/
  committed : ∀ e newer revealing older v, history = newer ++ revealing :: older →
    vote d e revealing = some v → ∃ committing ∈ older, Commits d e v.arbiter
      (commitmentHash d e v.arbiter v.choice v.salt) (w.panel.cases e) committing
  /-- A commitment is never overwritten. -/
  kept : ∀ later w', Transition.Run (system d) w later w' → ∀ e a,
    w.panel.commitments e a ≠ 0 → w'.panel.commitments e a = w.panel.commitments e a
  /-- Who stored the commitment of another arbiter or for another escrow never reveals. -/
  uncopied : Binding d → ∀ later w', Transition.Run (system d) w later w' →
    ∀ e a e' a' choice salt, w.panel.commitments e a ≠ 0 → (e, a) ≠ (e', a') →
    w.panel.commitments e a = commitmentHash d e' a' choice salt →
    w'.panel.revealed e a = false ∧ ∀ timestamp choice' salt',
      ¬ Accepted d (w', ⟨⟨a, timestamp⟩, .reveal e choice' salt'⟩)
  /-- A transaction that reverts changes no case. -/
  reverted : ∀ entry ∈ history, ¬ Accepted d entry →
    (step d entry.1 entry.2).panel = entry.1.panel

theorem ballot_soundness (run : Run d start history w) : BallotSoundness d history w := by
  constructor
  · intro e
    have tallied := run.tallied e
    constructor
    · rw [tallied.revealCount, tallied.releaseVotes, tallied.refundVotes, tallied.splitVotes]
      exact length_eq_counts tallied.valid
    · rw [tallied.roll.ncard_eq_length, List.length_map]
      exact tallied.revealCount
  · intro e
    exact run.tallied e
  · intro e
    exact (run.tallied e).roll.nodup
  · intro e newer revealing older v happened added
    exact (run.bound happened added).2
  · intro later w' future e a made
    exact run_commitment future made
  · intro binding later w' future e a e' a' choice salt made foreign copied
    have whole : Run d start (later ++ history) w' := ⟨run.genesis, run.run.trans future⟩
    have kept := run_commitment future made
    constructor
    · by_contra raised
      -- a raised flag is a vote, and that vote opened the commitment that is still stored
      have listed := ((whole.tallied e).roll.mem a).mpr (Bool.eq_true_of_not_eq_false raised)
      obtain ⟨v, member, rfl⟩ := List.mem_map.mp listed
      obtain ⟨revealing, old, added⟩ := List.mem_filterMap.mp member
      obtain ⟨newer, older, happened⟩ := List.append_of_mem old
      obtain ⟨opens, _⟩ := whole.bound happened added
      obtain ⟨rfl, rfl, _, _⟩ := binding _ _ _ _ _ _ _ _ (opens.symm.trans (kept.trans copied))
      exact foreign rfl
    · intro timestamp choice' salt'
      exact binding.unrevealable (kept.trans copied) foreign rfl
  · intro entry member reverted
    obtain ⟨_, _, _, _, admissible, _⟩ := run.run.of_mem member
    rcases step_cases admissible with ⟨_, same⟩ | ⟨w', accepted, _⟩
    · rw [same]
    · exact absurd ⟨w', accepted⟩ reverted

theorem Walkthrough.binding : Binding (Walkthrough.deployment 600 (by decide)) := by
  intro e a choice salt e' a' choice' salt' same
  have fields := Walkthrough.hash_injective same
  simp only [List.cons.injEq, Packed.address.injEq, Packed.uint8.injEq, Packed.bytes32.injEq,
    and_true] at fields
  exact fields

/-- The walkthrough's disputed order, with a hash that binds. -/
theorem ballot_soundness_walkthrough :
    BallotSoundness (Walkthrough.deployment 600 (by decide))
      (Walkthrough.history 600 (by decide) Walkthrough.disputePath)
      (Walkthrough.state 600 (by decide) Walkthrough.disputePath) ∧
    Binding (Walkthrough.deployment 600 (by decide)) :=
  ⟨ballot_soundness (Walkthrough.run 600 (by decide) Walkthrough.disputePath (by decide)),
    Walkthrough.binding⟩

end VapiArc.Escrow
