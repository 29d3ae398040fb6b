import VapiArc.Lib.Transition
import VapiArc.Review.Chain

/-!
# The leases of Telegram updates

A handler of the webhook reserves an update under a random token, and completes or fails it
with that token. A lease that runs out may be taken over while its holder still runs.
-/
namespace VapiArc.Review

open Checked Function Transition

inductive TelegramUpdateStatus where
  | processing
  | processed
  | failed
  deriving DecidableEq, Repr

structure TelegramUpdateRow where
  status : TelegramUpdateStatus
  processingToken : Option Token
  attempts : Nat
  receivedAt : Timestamp
  updatedAt : Timestamp
  processedAt : Option Timestamp
  lastError : Option String
  deriving DecidableEq, Repr

/-- The table `telegram_updates`, by its primary key. -/
abbrev TelegramUpdates := ℤ → Option TelegramUpdateRow

inductive TelegramUpdateReservation where
  | acquired (token : Token)
  | processing
  | processed
  deriving DecidableEq, Repr

def telegramUpdateLeaseMs : Nat := 5 * 60000

namespace TelegramUpdates

variable (updates : TelegramUpdates)

/-- `timestamp` is the text that the row gets; the clock is read once more for the lease. -/
def reserve (updateId : ℤ) (timestamp now : Timestamp) (token : Token) :
    Except Failure (TelegramUpdateReservation × TelegramUpdates) := do
  revertIf (isSafeInteger updateId = false) (.error "Telegram update id must be a safe integer")
  match updates updateId with
  | none =>
    let row : TelegramUpdateRow := {
      status := .processing
      processingToken := some token
      attempts := 1
      receivedAt := timestamp
      updatedAt := timestamp
      processedAt := none
      lastError := none }
    return (.acquired token, update updates updateId (some row))
  | some existing =>
    if existing.status = .processed then return (.processed, updates)
    let leaseExpired :=
      existing.status = .processing ∧ existing.updatedAt + telegramUpdateLeaseMs ≤ now
    if existing.status = .failed ∨ leaseExpired then
      let row := { existing with
        status := .processing
        processingToken := some token
        attempts := existing.attempts + 1
        updatedAt := timestamp
        processedAt := none
        lastError := none }
      return (.acquired token, update updates updateId (some row))
    return (.processing, updates)

/-- The row that a `WHERE` clause on the token selects. -/
def held (updateId : ℤ) (token : Token) : Option TelegramUpdateRow :=
  (updates updateId).filter fun row => row.status = .processing ∧ row.processingToken = some token

def complete (updateId : ℤ) (token : Token) (timestamp : Timestamp) :
    Except Failure TelegramUpdates :=
  match updates.held updateId token with
  | none => .error (.error "Telegram update reservation is no longer active")
  | some row => .ok (update updates updateId (some { row with
      status := .processed
      processingToken := none
      processedAt := some timestamp
      updatedAt := timestamp
      lastError := none }))

def fail (updateId : ℤ) (token : Token) (error : String) (timestamp : Timestamp) : TelegramUpdates :=
  match updates.held updateId token with
  | none => updates
  | some row => update updates updateId (some { row with
      status := .failed
      processingToken := none
      updatedAt := timestamp
      lastError := some error })

/-- How often an update was acquired; an update that never was has no row. -/
def attempts (updateId : ℤ) : Nat := (updates updateId).elim 0 (·.attempts)

end TelegramUpdates

/-- The calls of the webhook's handlers. -/
inductive TelegramUpdateCall where
  | reserve (updateId : ℤ) (timestamp now : Timestamp) (token : Token)
  | complete (updateId : ℤ) (token : Token) (timestamp : Timestamp)
  | fail (updateId : ℤ) (token : Token) (error : String) (timestamp : Timestamp)
  deriving DecidableEq, Repr

/-- The table, the last time that was read and the tokens that were drawn. -/
structure TelegramDesk where
  updates : TelegramUpdates := fun _ => none
  clock : Timestamp := 0
  issued : List Token := []

/-- What a call brings about. -/
inductive TelegramUpdateEffect where
  | acquired (updateId : ℤ) (token : Token) (timestamp : Timestamp)
  | completed (updateId : ℤ) (token : Token)
  | failed (updateId : ℤ) (token : Token)
  | nothing
  deriving DecidableEq, Repr

namespace TelegramDesk

variable (s : TelegramDesk)

/-- The clock does not run backwards, and a random token was not drawn before. -/
def admits : TelegramUpdateCall → Prop
  | .reserve _ timestamp now token => s.clock ≤ timestamp ∧ timestamp ≤ now ∧ token ∉ s.issued
  | .complete _ _ timestamp => s.clock ≤ timestamp
  | .fail _ _ _ timestamp => s.clock ≤ timestamp

/-- The table after a call, and what the call brought about. -/
def run : TelegramUpdateCall → TelegramUpdateEffect × TelegramUpdates
  | .reserve updateId timestamp now token =>
    match s.updates.reserve updateId timestamp now token with
    | .ok (.acquired token, updates) => (.acquired updateId token timestamp, updates)
    | .ok (_, updates) => (.nothing, updates)
    | .error _ => (.nothing, s.updates)
  | .complete updateId token timestamp =>
    match s.updates.complete updateId token timestamp with
    | .ok updates => (.completed updateId token, updates)
    | .error _ => (.nothing, s.updates)
  | .fail updateId token error timestamp =>
    (if (s.updates.held updateId token).isSome then .failed updateId token else .nothing,
      s.updates.fail updateId token error timestamp)

def effect (call : TelegramUpdateCall) : TelegramUpdateEffect := (s.run call).1

def next (call : TelegramUpdateCall) : TelegramDesk where
  updates := (s.run call).2
  clock :=
    match call with
    | .reserve _ _ now _ => now
    | .complete _ _ timestamp => timestamp
    | .fail _ _ _ timestamp => timestamp
  issued :=
    match call with
    | .reserve _ _ _ token => token :: s.issued
    | _ => s.issued

end TelegramDesk

def telegramDesk : System TelegramDesk TelegramUpdateCall := ⟨TelegramDesk.admits, TelegramDesk.next⟩

/-- What happens to the table, by the effect of the call. -/
inductive TelegramDesk.Moves (s : TelegramDesk) (s' : TelegramDesk) : TelegramUpdateEffect → Prop
  | acquired {updateId token timestamp row} (fresh : token ∉ s.issued) (drawn : token ∈ s'.issued)
      (since : s.clock ≤ timestamp)
      (free : ∀ row, s.updates updateId = some row → row.status = .failed ∨
        row.status = .processing ∧ row.updatedAt + telegramUpdateLeaseMs ≤ s'.clock)
      (reserved : row.status = .processing ∧ row.processingToken = some token ∧
        row.updatedAt = timestamp ∧ row.attempts = s.updates.attempts updateId + 1)
      (written : s'.updates = update s.updates updateId (some row)) :
      Moves s s' (.acquired updateId token timestamp)
  | completed {updateId token old row} (held : s.updates.held updateId token = some old)
      (ended : row.status = .processed ∧ row.processingToken = none ∧ row.attempts = old.attempts)
      (written : s'.updates = update s.updates updateId (some row)) :
      Moves s s' (.completed updateId token)
  | failed {updateId token old row} (held : s.updates.held updateId token = some old)
      (ended : row.status = .failed ∧ row.processingToken = none ∧ row.attempts = old.attempts)
      (written : s'.updates = update s.updates updateId (some row)) :
      Moves s s' (.failed updateId token)
  | nothing (same : s'.updates = s.updates) : Moves s s' .nothing

section Calls

variable {updates : TelegramUpdates} {updateId : ℤ} {token : Token}

theorem TelegramUpdates.held_some {row : TelegramUpdateRow} :
    updates.held updateId token = some row ↔
      updates updateId = some row ∧ row.status = .processing ∧ row.processingToken = some token := by
  simp [TelegramUpdates.held, Option.filter_eq_some_iff]

theorem TelegramUpdates.attempts_some {row : TelegramUpdateRow} (found : updates updateId = some row) :
    updates.attempts updateId = row.attempts := by
  simp [TelegramUpdates.attempts, found]

/-- A reservation is granted where the update is new, failed or held under a lease that ran out. -/
theorem TelegramUpdates.reserve_ok {timestamp now : Timestamp} {updates' : TelegramUpdates}
    {reservation : TelegramUpdateReservation}
    (done : updates.reserve updateId timestamp now token = .ok (reservation, updates')) :
    (reservation = .acquired token ∧
      (∀ row, updates updateId = some row → row.status = .failed ∨
        row.status = .processing ∧ row.updatedAt + telegramUpdateLeaseMs ≤ now) ∧
      ∃ row : TelegramUpdateRow, (row.status = .processing ∧ row.processingToken = some token ∧
        row.updatedAt = timestamp ∧ row.attempts = updates.attempts updateId + 1) ∧
        updates' = update updates updateId (some row)) ∨
    ((reservation = .processed ∨ reservation = .processing) ∧ updates' = updates) := by
  simp only [TelegramUpdates.reserve, bind_ok, revertIf_ok, exists_const] at done
  obtain ⟨-, done⟩ := done
  cases found : updates updateId with
  | none =>
    simp only [found, pure_ok, Prod.mk.injEq] at done
    obtain ⟨rfl, rfl⟩ := done
    refine .inl ⟨rfl, fun row present => (by cases present), _, ⟨rfl, rfl, rfl, ?_⟩, rfl⟩
    simp [attempts, found]
  | some existing =>
    simp only [found] at done
    split at done
    next =>
      cases done
      exact .inr ⟨.inl rfl, rfl⟩
    next =>
      split at done
      next free =>
        cases done
        refine .inl ⟨rfl, fun row present => ?_, _, ⟨rfl, rfl, rfl, ?_⟩, rfl⟩
        · cases present
          exact free
        · rw [attempts_some found]
      next =>
        cases done
        exact .inr ⟨.inr rfl, rfl⟩

/-- One call moves the table as its effect says. -/
theorem TelegramDesk.step_moves {s : TelegramDesk} {call : TelegramUpdateCall} (admitted : s.admits call) :
    s.Moves (s.next call) (s.effect call) := by
  cases call with
  | reserve updateId timestamp now token =>
    obtain ⟨since, -, fresh⟩ := admitted
    cases done : s.updates.reserve updateId timestamp now token with
    | error failure =>
      simp only [effect, next, run, done]
      exact .nothing rfl
    | ok pair =>
      obtain ⟨reservation, updates'⟩ := pair
      rcases TelegramUpdates.reserve_ok done with
        ⟨rfl, free, row, reserved, rfl⟩ | ⟨rfl | rfl, rfl⟩
      · simp only [effect, next, run, done]
        exact .acquired fresh List.mem_cons_self since free reserved rfl
      · simp only [effect, next, run, done]
        exact .nothing rfl
      · simp only [effect, next, run, done]
        exact .nothing rfl
  | complete updateId token timestamp =>
    cases held : s.updates.held updateId token with
    | none =>
      simp only [effect, next, run, TelegramUpdates.complete, held]
      exact .nothing rfl
    | some row =>
      simp only [effect, next, run, TelegramUpdates.complete, held]
      refine .completed held ?_ rfl
      exact ⟨rfl, rfl, rfl⟩
  | fail updateId token error timestamp =>
    cases held : s.updates.held updateId token with
    | none =>
      simp only [effect, next, run, TelegramUpdates.fail, held, Option.isSome_none]
      exact .nothing rfl
    | some row =>
      simp only [effect, next, run, TelegramUpdates.fail, held, Option.isSome_some, if_true]
      refine .failed held ?_ rfl
      exact ⟨rfl, rfl, rfl⟩

end Calls

section History

namespace TelegramUpdateEffect

def acquires (updateId : ℤ) : TelegramUpdateEffect → Bool
  | acquired other _ _ => other = updateId
  | _ => false

def completes (updateId : ℤ) : TelegramUpdateEffect → Bool
  | completed other _ => other = updateId
  | _ => false

end TelegramUpdateEffect

abbrev DeskHistory := List (TelegramDesk × TelegramUpdateCall)

/-- What the calls of a history brought about, the newest first. -/
def effects (history : DeskHistory) : List TelegramUpdateEffect :=
  history.map fun entry => entry.1.effect entry.2

namespace TelegramDesk

variable (s : TelegramDesk) (updateId : ℤ) (token : Token)

/-- The token was drawn and the table does not take it any more. -/
def Stale : Prop := token ∈ s.issued ∧ s.updates.held updateId token = none

/-- The token was acquired, nothing ended it and its lease has not run out. -/
def Live (history : DeskHistory) : Prop :=
  ∃ timestamp, .acquired updateId token timestamp ∈ effects history ∧
    .completed updateId token ∉ effects history ∧ .failed updateId token ∉ effects history ∧
    s.clock < timestamp + telegramUpdateLeaseMs

def processed : Bool := (s.updates updateId).any (·.status = .processed)

/-- What the table tells of its history. -/
structure Recounts (history : DeskHistory) : Prop where
  attempts : s.updates.attempts updateId = (effects history).countP (·.acquires updateId)
  completed : (effects history).countP (·.completes updateId) = if s.processed updateId then 1 else 0
  issued : ∀ token timestamp, .acquired updateId token timestamp ∈ effects history → token ∈ s.issued
  current : ∀ token timestamp, .acquired updateId token timestamp ∈ effects history →
    .completed updateId token ∈ effects history ∨ .failed updateId token ∈ effects history ∨
    timestamp + telegramUpdateLeaseMs ≤ s.clock ∨
    ∃ row, s.updates.held updateId token = some row ∧ row.updatedAt = timestamp
  overtaken : ∀ later earlier newer timestamp older since,
    effects history = later ++ .acquired updateId newer timestamp :: earlier →
    .acquired updateId older since ∈ earlier → s.Stale updateId older

end TelegramDesk

variable {s : TelegramDesk} {call : TelegramUpdateCall} {updateId : ℤ} {token : Token}
  {history : DeskHistory}

theorem TelegramDesk.clock_le (admitted : s.admits call) : s.clock ≤ (s.next call).clock := by
  cases call with
  | reserve updateId timestamp now token => exact admitted.1.trans admitted.2.1
  | complete => exact admitted
  | fail => exact admitted

theorem TelegramDesk.issued_next (drawn : token ∈ s.issued) : token ∈ (s.next call).issued := by
  cases call with
  | reserve => exact List.mem_cons_of_mem _ drawn
  | complete => exact drawn
  | fail => exact drawn

/-- A row is held by one token. -/
theorem TelegramUpdates.held_unique {updates : TelegramUpdates} {token' : Token}
    {row row' : TelegramUpdateRow} (held : updates.held updateId token = some row)
    (held' : updates.held updateId token' = some row') : token = token' := by
  obtain ⟨found, -, here⟩ := held_some.mp held
  obtain ⟨found', -, here'⟩ := held_some.mp held'
  cases found.symm.trans found'
  exact Option.some.inj (here.symm.trans here')

/-- A row that is written for one update leaves the others alone. -/
theorem TelegramUpdates.held_other {updates : TelegramUpdates} {other : ℤ} {row : TelegramUpdateRow}
    (apart : updateId ≠ other) :
    held (update updates other (some row)) updateId token = updates.held updateId token := by
  unfold held
  rw [update_of_ne apart]

/-- A row that loses its token is not held. -/
theorem TelegramUpdates.held_ended {updates : TelegramUpdates} {other : ℤ} {row : TelegramUpdateRow}
    (ended : row.processingToken = none) (stale : updates.held updateId token = none) :
    held (update updates other (some row)) updateId token = none := by
  by_cases same : updateId = other
  · subst same
    simp [held, ended]
  · rw [held_other same]
    exact stale

/-- A token that the table does not take is never taken again. -/
theorem TelegramDesk.step_stale (stale : s.Stale updateId token) (admitted : s.admits call) :
    (s.next call).Stale updateId token := by
  refine ⟨issued_next stale.1, ?_⟩
  have moves := step_moves admitted
  generalize s.effect call = effect at moves
  cases moves with
  | @acquired other newer timestamp row fresh _ _ _ reserved written =>
    rw [written]
    by_cases same : updateId = other
    · subst same
      refine Option.eq_none_iff_forall_ne_some.mpr fun row' held => ?_
      obtain ⟨found, -, here⟩ := TelegramUpdates.held_some.mp held
      rw [update_self] at found
      cases found
      cases reserved.2.1.symm.trans here
      exact fresh stale.1
    · rw [TelegramUpdates.held_other same]
      exact stale.2
  | completed held ended written =>
    rw [written]
    exact TelegramUpdates.held_ended ended.2.1 stale.2
  | failed held ended written =>
    rw [written]
    exact TelegramUpdates.held_ended ended.2.1 stale.2
  | nothing same =>
    rw [same]
    exact stale.2

theorem effects_cons : effects ((s, call) :: history) = s.effect call :: effects history := rfl

theorem TelegramUpdates.attempts_update {updates : TelegramUpdates} {other : ℤ} {row : TelegramUpdateRow} :
    attempts (update updates other (some row)) updateId =
      if updateId = other then row.attempts else updates.attempts updateId := by
  unfold attempts
  rw [update_apply]
  split <;> rfl

namespace TelegramDesk

variable {s' : TelegramDesk} {effect : TelegramUpdateEffect}

theorem Moves.attempts (moves : s.Moves s' effect) :
    s'.updates.attempts updateId =
      s.updates.attempts updateId + if effect.acquires updateId then 1 else 0 := by
  cases moves with
  | @acquired other newer timestamp row _ _ _ _ reserved written =>
    rw [written, TelegramUpdates.attempts_update]
    by_cases same : updateId = other
    · subst same
      simp [TelegramUpdateEffect.acquires, reserved.2.2.2]
    · simp [TelegramUpdateEffect.acquires, same, Ne.symm same]
  | @completed other newer old row held ended written =>
    obtain ⟨found, -⟩ := TelegramUpdates.held_some.mp held
    rw [written, TelegramUpdates.attempts_update]
    by_cases same : updateId = other
    · subst same
      simp [TelegramUpdateEffect.acquires, ended.2.2, TelegramUpdates.attempts_some found]
    · simp [TelegramUpdateEffect.acquires, same]
  | @failed other newer old row held ended written =>
    obtain ⟨found, -⟩ := TelegramUpdates.held_some.mp held
    rw [written, TelegramUpdates.attempts_update]
    by_cases same : updateId = other
    · subst same
      simp [TelegramUpdateEffect.acquires, ended.2.2, TelegramUpdates.attempts_some found]
    · simp [TelegramUpdateEffect.acquires, same]
  | nothing same => simp [same, TelegramUpdateEffect.acquires]

/-- A processed row stays as it is. -/
theorem Moves.absorbing (moves : s.Moves s' effect) {row : TelegramUpdateRow}
    (found : s.updates updateId = some row) (ended : row.status = .processed) :
    s'.updates updateId = some row := by
  have kept : ∀ other (row' : TelegramUpdateRow),
      (∀ old, s.updates other = some old → old.status ≠ .processed) →
      update s.updates other (some row') updateId = some row := by
    intro other row' running
    have apart : updateId ≠ other := by
      rintro rfl
      exact running row found ended
    rw [update_of_ne apart, found]
  cases moves with
  | @acquired other newer timestamp row' _ _ _ free _ written =>
    rw [written]
    refine kept other row' fun old present processed => ?_
    rcases free old present with failed | ⟨processing, -⟩
    · cases processed.symm.trans failed
    · cases processed.symm.trans processing
  | @completed other newer old row' held _ written =>
    rw [written]
    obtain ⟨present, processing, -⟩ := TelegramUpdates.held_some.mp held
    refine kept other row' fun old' present' processed => ?_
    cases present.symm.trans present'
    cases processing.symm.trans processed
  | @failed other newer old row' held _ written =>
    rw [written]
    obtain ⟨present, processing, -⟩ := TelegramUpdates.held_some.mp held
    refine kept other row' fun old' present' processed => ?_
    cases present.symm.trans present'
    cases processing.symm.trans processed
  | nothing same => rw [same, found]

theorem processed_held {old : TelegramUpdateRow} (held : s.updates.held updateId token = some old) :
    s.processed updateId = false := by
  obtain ⟨found, processing, -⟩ := TelegramUpdates.held_some.mp held
  simp [processed, found, processing]

/-- A call that writes a row of another status than `processed` to an update that is not
processed leaves the processed ones alone. -/
theorem processed_update {other : ℤ} {row : TelegramUpdateRow}
    (written : s'.updates = update s.updates other (some row)) (running : s.processed other = false)
    (status : row.status ≠ .processed) : s'.processed updateId = s.processed updateId := by
  by_cases same : updateId = other
  · subst same
    rw [running]
    simp [processed, written, status]
  · unfold processed
    rw [written, update_of_ne same]

/-- An update is completed while it is not processed yet, and is processed from then on. -/
theorem Moves.processed (moves : s.Moves s' effect) :
    (effect.completes updateId = true → s.processed updateId = false) ∧
      s'.processed updateId = (s.processed updateId || effect.completes updateId) := by
  cases moves with
  | @acquired other newer timestamp row _ _ _ free reserved written =>
    have running : s.processed other = false := by
      cases found : s.updates other with
      | none => simp [TelegramDesk.processed, found]
      | some old =>
        rcases free old found with failed | ⟨processing, -⟩
        · simp [TelegramDesk.processed, found, failed]
        · simp [TelegramDesk.processed, found, processing]
    refine ⟨fun completes => (by cases completes), ?_⟩
    rw [processed_update written running (by simp [reserved.1])]
    simp [TelegramUpdateEffect.completes]
  | @completed other newer old row held ended written =>
    by_cases same : updateId = other
    · subst same
      refine ⟨fun _ => processed_held held, ?_⟩
      simp [TelegramDesk.processed, written, ended.1, TelegramUpdateEffect.completes]
    · refine ⟨fun completes => ?_, ?_⟩
      · exact absurd (of_decide_eq_true completes).symm same
      · simp [TelegramDesk.processed, written, same, Ne.symm same, TelegramUpdateEffect.completes]
  | @failed other newer old row held ended written =>
    refine ⟨fun completes => (by cases completes), ?_⟩
    rw [processed_update written (processed_held held) (by simp [ended.1])]
    simp [TelegramUpdateEffect.completes]
  | nothing same =>
    refine ⟨fun completes => (by cases completes), ?_⟩
    simp [TelegramDesk.processed, same, TelegramUpdateEffect.completes]

/-- The lease of a token ends with its call, with its time, or with nothing. -/
theorem Moves.held (moves : s.Moves s' effect) {row : TelegramUpdateRow}
    (held : s.updates.held updateId token = some row) :
    effect = .completed updateId token ∨ effect = .failed updateId token ∨
      row.updatedAt + telegramUpdateLeaseMs ≤ s'.clock ∨
      s'.updates.held updateId token = some row := by
  cases moves with
  | @acquired other newer timestamp row' _ _ _ free _ written =>
    by_cases same : updateId = other
    · subst same
      obtain ⟨found, processing, -⟩ := TelegramUpdates.held_some.mp held
      rcases free row found with failed | ⟨-, expired⟩
      · cases processing.symm.trans failed
      · exact .inr (.inr (.inl expired))
    · rw [written, TelegramUpdates.held_other same]
      exact .inr (.inr (.inr held))
  | @completed other newer old row' held' _ written =>
    by_cases same : updateId = other
    · subst same
      cases TelegramUpdates.held_unique held held'
      exact .inl rfl
    · rw [written, TelegramUpdates.held_other same]
      exact .inr (.inr (.inr held))
  | @failed other newer old row' held' _ written =>
    by_cases same : updateId = other
    · subst same
      cases TelegramUpdates.held_unique held held'
      exact .inr (.inl rfl)
    · rw [written, TelegramUpdates.held_other same]
      exact .inr (.inr (.inr held))
  | nothing same =>
    rw [same]
    exact .inr (.inr (.inr held))

/-- A token is held once it is acquired. -/
theorem Moves.acquires {timestamp : Timestamp}
    (moves : s.Moves s' (.acquired updateId token timestamp)) :
    token ∉ s.issued ∧ token ∈ s'.issued ∧
      ∃ row, s'.updates.held updateId token = some row ∧ row.updatedAt = timestamp := by
  cases moves with
  | @acquired _ _ _ row fresh drawn _ _ reserved written =>
    refine ⟨fresh, drawn, row, TelegramUpdates.held_some.mpr ⟨?_, reserved.1, reserved.2.1⟩,
      reserved.2.2.1⟩
    rw [written, update_self]

/-- Whoever acquires an update makes the tokens before stale. -/
theorem Moves.overtakes {timestamp : Timestamp} {older : Token}
    (moves : s.Moves s' (.acquired updateId token timestamp)) (drawn : older ∈ s.issued)
    (kept : older ∈ s'.issued) : s'.Stale updateId older := by
  obtain ⟨fresh, -, row, held, -⟩ := moves.acquires
  refine ⟨kept, Option.eq_none_iff_forall_ne_some.mpr fun row' held' => ?_⟩
  cases TelegramUpdates.held_unique held held'
  exact fresh drawn

theorem recounts_step (kept : s.Recounts updateId history) (admitted : s.admits call) :
    (s.next call).Recounts updateId ((s, call) :: history) := by
  have moves := step_moves admitted
  have later := clock_le admitted
  have drawn : ∀ token, token ∈ s.issued → token ∈ (s.next call).issued := fun _ => issued_next
  refine ⟨?_, ?_, ?_, ?_, ?_⟩
  · rw [moves.attempts, kept.attempts, effects_cons, List.countP_cons]
  · obtain ⟨first, processed⟩ := @Moves.processed _ updateId _ _ moves
    rw [effects_cons, List.countP_cons, kept.completed, processed]
    cases completes : (s.effect call).completes updateId with
    | false => simp
    | true => simp [first completes]
  · intro token timestamp acquired
    rw [effects_cons] at acquired
    rcases List.mem_cons.mp acquired with now | before
    · exact (now ▸ moves).acquires.2.1
    · exact drawn token (kept.issued token timestamp before)
  · intro token timestamp acquired
    rw [effects_cons] at acquired ⊢
    rcases List.mem_cons.mp acquired with now | before
    · exact .inr (.inr (.inr (now ▸ moves).acquires.2.2))
    · rcases kept.current token timestamp before with completed | failed | expired | ⟨row, held, since⟩
      · exact .inl (List.mem_cons_of_mem _ completed)
      · exact .inr (.inl (List.mem_cons_of_mem _ failed))
      · exact .inr (.inr (.inl (expired.trans later)))
      · rcases moves.held held with completed | failed | expired | held
        · exact .inl (completed ▸ List.mem_cons_self)
        · exact .inr (.inl (failed ▸ List.mem_cons_self))
        · exact .inr (.inr (.inl (since ▸ expired)))
        · exact .inr (.inr (.inr ⟨row, held, since⟩))
  · intro newest earlier newer timestamp older since same member
    rw [effects_cons] at same
    cases newest with
    | nil =>
      rw [List.nil_append, List.cons.injEq] at same
      obtain ⟨now, rfl⟩ := same
      have known := kept.issued older since member
      exact (now ▸ moves).overtakes known (drawn older known)
    | cons first rest =>
      rw [List.cons_append, List.cons.injEq] at same
      exact step_stale (kept.overtaken rest earlier newer timestamp older since same.2 member) admitted

theorem recounts_run (run : Transition.Run telegramDesk {} history s) : s.Recounts updateId history := by
  refine run.historyInvariant (fun history s => s.Recounts updateId history) ?_ ?_
  · refine ⟨rfl, rfl, ?_, ?_, ?_⟩
    · intro token timestamp acquired
      cases acquired
    · intro token timestamp acquired
      cases acquired
    · intro later earlier newer timestamp older since same
      have empty := congrArg List.length same
      simp [effects] at empty
  · intro history s call _ kept admitted
    exact recounts_step kept admitted

end TelegramDesk

end History

section Lease

variable {s : TelegramDesk} {history : DeskHistory}

/-- A token whose lease runs is the one that the table takes. -/
theorem TelegramDesk.Live.held {updateId : ℤ} {token : Token} (live : s.Live updateId token history)
    (recounts : s.Recounts updateId history) : (s.updates.held updateId token).isSome = true := by
  obtain ⟨timestamp, acquired, uncompleted, unfailed, running⟩ := live
  rcases recounts.current token timestamp acquired with completed | failed | expired | ⟨row, held, -⟩
  · exact absurd completed uncompleted
  · exact absurd failed unfailed
  · exact absurd running (Nat.not_lt.mpr expired)
  · rw [held]
    rfl

/-- What the table does with a stale token. -/
theorem TelegramDesk.Stale.refused {updateId : ℤ} {token : Token} (stale : s.Stale updateId token) :
    (∀ now, ∃ failure, s.updates.complete updateId token now = .error failure) ∧
      ∀ error now, s.updates.fail updateId token error now = s.updates := by
  constructor
  · intro now
    exact ⟨_, by rw [TelegramUpdates.complete, stale.2]⟩
  · intro error now
    rw [TelegramUpdates.fail, stale.2]

/-- At most one token of an update is taken, and it is the one whose lease runs; a token that
was taken over ends nothing; a processed update stays as it is; an update is completed at
most once, and its attempts are its acquisitions. -/
theorem telegram_lease (run : Run telegramDesk {} history s) (updateId : ℤ) :
    (∀ token, s.Live updateId token history → (s.updates.held updateId token).isSome = true) ∧
    (∀ token token', (s.updates.held updateId token).isSome = true →
      (s.updates.held updateId token').isSome = true → token = token') ∧
    (∀ later earlier newer timestamp older since,
      effects history = later ++ .acquired updateId newer timestamp :: earlier →
      .acquired updateId older since ∈ earlier →
      (∀ now, ∃ failure, s.updates.complete updateId older now = .error failure) ∧
        ∀ error now, s.updates.fail updateId older error now = s.updates) ∧
    (∀ entry ∈ history, ∀ row, entry.1.updates updateId = some row → row.status = .processed →
      s.updates updateId = some row) ∧
    (effects history).countP (·.completes updateId) ≤ 1 ∧
    s.updates.attempts updateId = (effects history).countP (·.acquires updateId) := by
  have recounts : s.Recounts updateId history := TelegramDesk.recounts_run run
  refine ⟨fun token live => live.held recounts, fun token token' held held' => ?_,
    fun later earlier newer timestamp older since same member => ?_,
    fun entry member row found ended => ?_, ?_, recounts.attempts⟩
  · obtain ⟨row, held⟩ := Option.isSome_iff_exists.mp held
    obtain ⟨row', held'⟩ := Option.isSome_iff_exists.mp held'
    exact TelegramUpdates.held_unique held held'
  · exact (recounts.overtaken later earlier newer timestamp older since same member).refused
  · obtain ⟨_, _, _, _, admitted, after⟩ := run.of_mem member
    refine after.invariant (fun s => s.updates updateId = some row) ?_ fun s call found admitted => ?_
    · exact (TelegramDesk.step_moves admitted).absorbing found ended
    · exact (TelegramDesk.step_moves admitted).absorbing found ended
  · rw [recounts.completed]
    split <;> omega

/-- A handler's lease of update 7 runs out, and another one takes over and completes it. -/
theorem telegram_lease_takeover :
    let calls : List TelegramUpdateCall :=
      [.reserve 7 1000 1000 1, .reserve 7 301000 301000 2, .complete 7 2 301500]
    let s := telegramDesk.replay {} calls
    (effects (telegramDesk.record {} [] calls)).countP (·.completes 7) = 1 ∧
      s.updates.attempts 7 = 2 ∧ ∀ error now, s.updates.fail 7 1 error now = s.updates :=
  have lease := telegram_lease (telegramDesk.replay_run (.refl : Run telegramDesk {} [] {})
    [.reserve 7 1000 1000 1, .reserve 7 301000 301000 2, .complete 7 2 301500]
    ⟨⟨by decide, by decide, by decide⟩, ⟨by decide, by decide, by decide⟩,
      (by decide : 301000 ≤ 301500), trivial⟩) 7
  ⟨by decide, lease.2.2.2.2.2.trans (by decide),
    (lease.2.2.1 [.completed 7 2] [.acquired 7 1 1000] 2 301000 1 1000 (by decide) (by decide)).2⟩

end Lease

end VapiArc.Review
