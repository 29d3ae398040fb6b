import Mathlib

/-! Fixed-width unsigned words with checked arithmetic. An operation whose exact
result does not fit fails with the caller's error instead of wrapping. -/

/-- Unsigned words of `n` bits. -/
abbrev Word (n : Nat) : Type := Fin (2 ^ n)

namespace Word

variable {ε : Type} {n : Nat}

/-- Narrow a natural number to a word. -/
def narrow (n : Nat) (e : ε) (x : Nat) : Except ε (Word n) :=
  if h : x < 2 ^ n then .ok ⟨x, h⟩ else .error e

@[simp] theorem narrow_ok (e : ε) (x : Nat) (r : Word n) : narrow n e x = .ok r ↔ x = r.val := by
  unfold narrow
  split
  next fits =>
    rw [Except.ok.injEq, Fin.ext_iff]
  next large =>
    constructor
    · intro h; cases h
    · intro h; exact absurd (h ▸ r.isLt) large

def checkedAdd (e : ε) (a b : Word n) : Except ε (Word n) := narrow n e (a.val + b.val)

def checkedSub (e : ε) (a b : Word n) : Except ε (Word n) :=
  if b.val ≤ a.val then narrow n e (a.val - b.val) else .error e

def increment (e : ε) (a : Word n) : Except ε (Word n) := narrow n e (a.val + 1)

def decrement (e : ε) (a : Word n) : Except ε (Word n) :=
  if 1 ≤ a.val then narrow n e (a.val - 1) else .error e

/-- Full-precision `⌊a * b / denominator⌋`. -/
def mulDiv (e : ε) (a b denominator : Nat) : Except ε (Word n) :=
  if 0 < denominator then narrow n e (a * b / denominator) else .error e

def half (a : Word n) : Word n := ⟨a.val / 2, Nat.lt_of_le_of_lt (Nat.div_le_self _ _) a.isLt⟩

@[simp] theorem checkedAdd_ok (e : ε) (a b r : Word n) :
    checkedAdd e a b = .ok r ↔ a.val + b.val = r.val := by simp [checkedAdd]

@[simp] theorem checkedSub_ok (e : ε) (a b r : Word n) :
    checkedSub e a b = .ok r ↔ b.val + r.val = a.val := by
  unfold checkedSub
  split
  · rw [narrow_ok]; omega
  · constructor
    · intro h; cases h
    · intro h; omega

@[simp] theorem increment_ok (e : ε) (a r : Word n) :
    increment e a = .ok r ↔ a.val + 1 = r.val := by simp [increment]

@[simp] theorem decrement_ok (e : ε) (a r : Word n) :
    decrement e a = .ok r ↔ r.val + 1 = a.val := by
  unfold decrement
  split
  · rw [narrow_ok]; omega
  · constructor
    · intro h; cases h
    · intro h; omega

@[simp] theorem mulDiv_ok (e : ε) (a b denominator : Nat) (r : Word n) :
    mulDiv e a b denominator = .ok r ↔ 0 < denominator ∧ a * b / denominator = r.val := by
  unfold mulDiv
  split <;> simp_all

@[simp] theorem half_val (a : Word n) : (half a).val = a.val / 2 := rfl

/-- A fraction of at most one of a word fits the word again. -/
theorem mulDiv_le {a b denominator : Nat} (proper : b ≤ denominator) :
    a * b / denominator ≤ a := by
  rcases Nat.eq_zero_or_pos denominator with rfl | positive
  · simp
  · exact Nat.div_le_of_le_mul (by rw [Nat.mul_comm]; exact Nat.mul_le_mul_right a proper)

end Word
