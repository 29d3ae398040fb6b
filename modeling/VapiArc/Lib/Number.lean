import Mathlib
import VapiArc.Lib.JsonRoundTrip

/-!
# Numbers of JSON texts

A number is a finite binary64 value. `Number.toString` writes as few digits as tell it from the
other ones, and a decimal literal is read as the value that is nearest to it.
-/
namespace Json

section Rounding

/-- The values of binary64: 53 bits and an exponent. -/
def Representable (q : ℚ) : Prop :=
  ∃ m e : ℤ, |m| < 2 ^ 53 ∧ -1074 ≤ e ∧ e ≤ 971 ∧ q = m * (2 : ℚ) ^ e

/-- The nearest integer; one of two is even. -/
def roundEven (q : ℚ) : ℤ :=
  if 2 * (q - ⌊q⌋) < 1 ∨ 2 * (q - ⌊q⌋) = 1 ∧ 2 ∣ ⌊q⌋ then ⌊q⌋ else ⌊q⌋ + 1

/-- The exponent of the last bit. -/
def lastBit (q : ℚ) : ℤ := max (Int.log 2 q - 52) (-1074)

/-- The nearest value when the exponent is not bounded above. -/
def roundNonneg (q : ℚ) : ℚ := roundEven (q / 2 ^ lastBit q) * 2 ^ lastBit q

theorem roundEven_intCast (n : ℤ) : roundEven n = n := by
  simp [roundEven]

theorem roundEven_le {q : ℚ} {n : ℤ} (le : q ≤ n) : roundEven q ≤ n := by
  have floor : ⌊q⌋ ≤ n := Int.floor_le_iff.mpr (lt_of_le_of_lt le (by linarith))
  unfold roundEven
  split
  next => exact floor
  next up =>
    by_contra above
    have same : ⌊q⌋ = n := by omega
    have : (⌊q⌋ : ℚ) ≤ q := Int.floor_le q
    rw [same] at this up
    have exact_ : q = n := le_antisymm le this
    rw [exact_] at up
    simp at up

theorem le_roundEven {q : ℚ} {n : ℤ} (le : (n : ℚ) ≤ q) : n ≤ roundEven q := by
  have floor : n ≤ ⌊q⌋ := Int.le_floor.mpr le
  unfold roundEven
  split <;> omega

theorem lt_two_zpow_lastBit {q : ℚ} : q < 2 ^ (lastBit q + 53) := by
  refine lt_of_lt_of_le (Int.lt_zpow_succ_log_self (by norm_num : 1 < 2) q) ?_
  refine zpow_le_zpow_right₀ (by norm_num) ?_
  unfold lastBit
  omega

/-- An integer is not more than half of the last bit away. -/
theorem roundEven_error (q : ℚ) : |roundEven q - q| ≤ 1 / 2 := by
  have low := Int.floor_le q
  have high := Int.lt_floor_add_one q
  unfold roundEven
  split
  next down =>
    rw [abs_le]
    constructor <;> rcases down with down | ⟨down, -⟩ <;> linarith
  next up =>
    have half : 1 ≤ 2 * (q - ⌊q⌋) := not_lt.mp fun less => up (.inl less)
    push_cast
    rw [abs_le]
    constructor <;> linarith

theorem roundNonneg_error (q : ℚ) : |roundNonneg q - q| ≤ 2 ^ lastBit q / 2 := by
  have unit : (0 : ℚ) < 2 ^ lastBit q := by positivity
  have error := mul_le_mul_of_nonneg_right (roundEven_error (q / 2 ^ lastBit q)) unit.le
  have scaled : |roundNonneg q - q| =
      |(roundEven (q / 2 ^ lastBit q) : ℚ) - q / 2 ^ lastBit q| * 2 ^ lastBit q := by
    rw [← abs_of_pos unit, ← abs_mul, abs_of_pos unit, sub_mul, div_mul_cancel₀ _ unit.ne']
    rfl
  rw [scaled]
  linarith

theorem lastBit_le {q : ℚ} {e : ℤ} (positive : 0 < q) (below : q < 2 ^ (e + 53)) (low : -1074 ≤ e) :
    lastBit q ≤ e := by
  have log := (Int.lt_zpow_iff_log_lt (by norm_num : 1 < 2) positive).mp (by exact_mod_cast below)
  unfold lastBit
  omega

theorem Representable.neg {q : ℚ} (representable : Representable q) : Representable (-q) := by
  obtain ⟨m, e, small, low, high, rfl⟩ := representable
  exact ⟨-m, e, by rwa [abs_neg], low, high, by push_cast; ring⟩

theorem Representable.lastBit_le {m e : ℤ} (positive : 0 < m) (small : m < 2 ^ 53)
    (low : -1074 ≤ e) : lastBit ((m : ℚ) * 2 ^ e) ≤ e := by
  apply Json.lastBit_le
  · positivity
  · rw [zpow_add₀ (by norm_num), mul_comm]
    have : (m : ℚ) < 2 ^ 53 := by exact_mod_cast small
    exact mul_lt_mul_of_pos_left this (by positivity)
  · exact low

/-- A value is the nearest one to itself. -/
theorem roundNonneg_of_representable {q : ℚ} (nonneg : 0 ≤ q) (representable : Representable q) :
    roundNonneg q = q := by
  obtain ⟨m, e, small, low, -, rfl⟩ := representable
  rcases eq_or_lt_of_le nonneg with zero | positive
  · rw [← zero]
    simp [roundNonneg, roundEven]
  · have positive : 0 < m := by
      by_contra negative
      have : (m : ℚ) ≤ 0 := by exact_mod_cast not_lt.mp negative
      exact absurd positive (not_lt.mpr (mul_nonpos_of_nonpos_of_nonneg this (by positivity)))
    have small : m < 2 ^ 53 := lt_of_abs_lt small
    have last := Representable.lastBit_le positive small low
    -- in units of the last bit the value is an integer
    obtain ⟨d, above⟩ := Int.le.dest last
    have units : (m : ℚ) * 2 ^ e / 2 ^ lastBit ((m : ℚ) * 2 ^ e) = (m * 2 ^ d : ℤ) := by
      have same : e - lastBit ((m : ℚ) * 2 ^ e) = d := by omega
      rw [mul_div_assoc, ← zpow_sub₀ (by norm_num), same, zpow_natCast]
      push_cast
      rfl
    rw [roundNonneg, units, roundEven_intCast, ← units]
    exact div_mul_cancel₀ _ (by positivity)

/-- The nearest value is representable, unless it is too large. -/
theorem representable_roundNonneg {q : ℚ} (nonneg : 0 ≤ q) (finite : roundNonneg q < 2 ^ (1024 : ℤ)) :
    Representable (roundNonneg q) := by
  rcases eq_or_lt_of_le nonneg with zero | positive
  · rw [← zero]
    exact ⟨0, 0, by norm_num, by norm_num, by norm_num, by simp [roundNonneg, roundEven]⟩
  have unit : (0 : ℚ) < 2 ^ lastBit q := by positivity
  have low : -1074 ≤ lastBit q := le_max_right _ _
  have upper : roundEven (q / 2 ^ lastBit q) ≤ 2 ^ 53 := by
    refine roundEven_le ?_
    rw [div_le_iff₀ unit]
    have := le_of_lt (@lt_two_zpow_lastBit q)
    rw [zpow_add₀ (by norm_num), mul_comm] at this
    exact_mod_cast this
  have nonneg' : 0 ≤ roundEven (q / 2 ^ lastBit q) :=
    le_roundEven (by push_cast; positivity)
  have high {m : ℤ} {e : ℤ} (large : 2 ^ 52 ≤ m) (below : (m : ℚ) * 2 ^ e < 2 ^ (1024 : ℤ)) :
      e ≤ 971 := by
    have : (2 : ℚ) ^ (52 + e) < 2 ^ (1024 : ℤ) := by
      refine lt_of_le_of_lt ?_ below
      rw [zpow_add₀ (by norm_num)]
      have large : (2 : ℚ) ^ (52 : ℤ) ≤ m := by exact_mod_cast large
      exact mul_le_mul_of_nonneg_right large (by positivity)
    have := (zpow_lt_zpow_iff_right₀ (by norm_num : (1 : ℚ) < 2)).mp this
    omega
  rcases lt_or_eq_of_le upper with small | full
  · refine ⟨roundEven (q / 2 ^ lastBit q), lastBit q, by rwa [abs_of_nonneg nonneg'], low, ?_, rfl⟩
    by_cases subnormal : lastBit q = -1074
    · omega
    · refine high (le_roundEven ?_) finite
      have exponent : lastBit q = Int.log 2 q - 52 := by
        unfold lastBit at subnormal ⊢
        omega
      rw [le_div_iff₀ unit]
      have := Int.zpow_log_le_self (by norm_num : 1 < 2) positive
      rw [show Int.log 2 q = 52 + lastBit q by omega, zpow_add₀ (by norm_num)] at this
      exact_mod_cast this
  · refine ⟨2 ^ 52, lastBit q + 1, by norm_num, by omega, ?_, ?_⟩
    · refine high (m := 2 ^ 52) (by norm_num) ?_
      refine lt_of_eq_of_lt ?_ finite
      rw [roundNonneg, full, zpow_add₀ (by norm_num)]
      push_cast
      ring
    · rw [roundNonneg, full, zpow_add₀ (by norm_num)]
      push_cast
      ring

theorem representable_intCast {n : ℤ} (small : |n| < 2 ^ 53) : Representable n :=
  ⟨n, 0, small, by norm_num, by norm_num, by simp⟩

/-- The nearest value to an integer is an integer, and up to `2 ^ 54` one of its neighbours. -/
theorem roundNonneg_natCast (n : Nat) :
    ∃ m : Nat, roundNonneg n = m ∧ (n < 2 ^ 53 → m = n) ∧ (n < 2 ^ 54 → m ≤ n + 1 ∧ n ≤ m + 1) := by
  by_cases small : n < 2 ^ 53
  · have representable : Representable (n : ℚ) := by
      have := @representable_intCast n (by rw [Nat.abs_cast]; exact_mod_cast small)
      exact_mod_cast this
    exact ⟨n, roundNonneg_of_representable (Nat.cast_nonneg n) representable, fun _ => rfl,
      fun _ => ⟨Nat.le_succ n, Nat.le_succ n⟩⟩
  · have large : (2 : ℚ) ^ (53 : ℤ) ≤ n := by exact_mod_cast not_lt.mp small
    have positive : (0 : ℚ) < n := lt_of_lt_of_le (by positivity) large
    have log : 53 ≤ Int.log 2 (n : ℚ) :=
      (Int.zpow_le_iff_le_log (by norm_num : 1 < 2) positive).mp (by push_cast; exact large)
    obtain ⟨d, unit⟩ : ∃ d : Nat, lastBit n = d := by
      refine ⟨(lastBit n).toNat, (Int.toNat_of_nonneg ?_).symm⟩
      unfold lastBit
      omega
    have nonneg : 0 ≤ roundEven ((n : ℚ) / 2 ^ lastBit n) := le_roundEven (by push_cast; positivity)
    obtain ⟨k, rounded⟩ := Int.eq_ofNat_of_zero_le nonneg
    have value : roundNonneg n = (k * 2 ^ d : Nat) := by
      rw [roundNonneg, rounded, unit, zpow_natCast]
      push_cast
      rfl
    refine ⟨k * 2 ^ d, value, fun below => absurd below small, fun below => ?_⟩
    have last : lastBit n ≤ 1 := by
      apply lastBit_le positive _ (by norm_num)
      exact_mod_cast below
    have error := roundNonneg_error n
    have step : (2 : ℚ) ^ lastBit (n : ℚ) ≤ 2 ^ (1 : ℤ) := zpow_le_zpow_right₀ (by norm_num) last
    rw [value, abs_le] at error
    constructor
    · have : ((k * 2 ^ d : Nat) : ℚ) ≤ (n + 1 : Nat) := by push_cast at *; linarith
      exact_mod_cast this
    · have : (n : ℚ) ≤ (k * 2 ^ d + 1 : Nat) := by push_cast at *; linarith
      exact_mod_cast this

/-- What is beyond the integers that are all values stays beyond them. -/
theorem le_roundNonneg_natCast {n : Nat} (large : 2 ^ 53 ≤ n) : (2 : ℚ) ^ 53 ≤ roundNonneg n := by
  have large : (2 : ℚ) ^ (53 : ℤ) ≤ n := by exact_mod_cast large
  have positive : (0 : ℚ) < n := lt_of_lt_of_le (by positivity) large
  have log : 53 ≤ Int.log 2 (n : ℚ) :=
    (Int.zpow_le_iff_le_log (by norm_num : 1 < 2) positive).mp (by push_cast; exact large)
  have last : lastBit (n : ℚ) = Int.log 2 (n : ℚ) - 52 := by
    unfold lastBit
    omega
  have unit : (0 : ℚ) < 2 ^ lastBit (n : ℚ) := by positivity
  have leading : (2 : ℚ) ^ (52 : ℤ) * 2 ^ lastBit (n : ℚ) ≤ n := by
    rw [← zpow_add₀ (by norm_num), last, add_sub_cancel]
    exact_mod_cast Int.zpow_log_le_self (by norm_num : 1 < 2) positive
  have bits : 2 ^ 52 ≤ roundEven ((n : ℚ) / 2 ^ lastBit (n : ℚ)) := by
    apply le_roundEven
    rw [le_div_iff₀ unit]
    exact_mod_cast leading
  calc (2 : ℚ) ^ 53 = 2 ^ (52 : ℤ) * 2 ^ (1 : ℤ) := by norm_num
    _ ≤ 2 ^ (52 : ℤ) * 2 ^ lastBit (n : ℚ) := by
      apply mul_le_mul_of_nonneg_left _ (by positivity)
      exact zpow_le_zpow_right₀ (by norm_num) (by omega)
    _ ≤ roundNonneg n := by
      apply mul_le_mul_of_nonneg_right _ unit.le
      exact_mod_cast bits

/-- Integers of 256 bits are far below the largest value. -/
theorem roundNonneg_natCast_lt {n : Nat} (below : n < 2 ^ 256) : roundNonneg n < 2 ^ (1024 : ℤ) := by
  rcases Nat.eq_zero_or_pos n with rfl | positive
  · simp [roundNonneg, roundEven]
  · have below : (n : ℚ) < 2 ^ (256 : ℤ) := by exact_mod_cast below
    have last : lastBit (n : ℚ) ≤ 203 := lastBit_le (by exact_mod_cast positive) below (by norm_num)
    have error := (abs_le.mp (roundNonneg_error n)).2
    have unit : (2 : ℚ) ^ lastBit (n : ℚ) ≤ 2 ^ (256 : ℤ) :=
      zpow_le_zpow_right₀ (by norm_num) (by omega)
    have double : (2 : ℚ) ^ (256 : ℤ) * 2 = 2 ^ (257 : ℤ) := (zpow_add_one₀ (by norm_num) _).symm
    have small : roundNonneg n < 2 ^ (257 : ℤ) := by
      rw [← double]
      generalize (2 : ℚ) ^ lastBit (n : ℚ) = bit at *
      linarith only [error, below, unit]
    exact small.trans (zpow_lt_zpow_right₀ (by norm_num) (by norm_num))

theorem half_lastBit_lt {a d : Nat} (small : a < 2 ^ 53) (positive : 0 < d) (divisor : d < 2 ^ 53) :
    (2 : ℚ) ^ lastBit ((a : ℚ) / d) / 2 < 1 / d := by
  have d_pos : (0 : ℚ) < d := by exact_mod_cast positive
  have a_small : (a : ℚ) < 2 ^ 53 := by exact_mod_cast small
  have d_small : (d : ℚ) < 2 ^ 53 := by exact_mod_cast divisor
  unfold lastBit
  rcases le_total (Int.log 2 ((a : ℚ) / d) - 52) (-1074) with subnormal | normal
  · rw [max_eq_right subnormal]
    have tiny : (2 : ℚ) ^ (-1074 : ℤ) ≤ 2 ^ (-53 : ℤ) :=
      zpow_le_zpow_right₀ (by norm_num) (by norm_num)
    have least : (2 : ℚ) ^ (-53 : ℤ) < 1 / d := by
      rw [zpow_neg, ← one_div]
      exact one_div_lt_one_div_of_lt d_pos (by exact_mod_cast d_small)
    have unit : (0 : ℚ) < 2 ^ (-1074 : ℤ) := by positivity
    exact (half_lt_self unit).trans (lt_of_le_of_lt tiny least)
  · rw [max_eq_left normal]
    rcases Nat.eq_zero_or_pos a with rfl | some_
    · rw [Nat.cast_zero, zero_div, Int.log_zero_right, zero_sub]
      rw [div_lt_div_iff₀ (by norm_num) d_pos, zpow_neg, inv_mul_lt_iff₀ (by positivity)]
      norm_num
      linarith
    have log := Int.zpow_log_le_self (by norm_num : 1 < 2) (div_pos (by exact_mod_cast some_) d_pos :
      (0 : ℚ) < (a : ℚ) / d)
    rw [zpow_sub₀ (by norm_num), div_div, div_lt_iff₀ (by positivity)]
    apply lt_of_le_of_lt (by exact_mod_cast log)
    rw [div_lt_iff₀ d_pos, mul_comm (1 / (d : ℚ)), mul_assoc, one_div_mul_cancel d_pos.ne']
    norm_num
    exact_mod_cast small

/-- The rounded quotient has the exact quotient's ceiling. -/
theorem ceil_roundNonneg_div {a d : Nat} (small : a < 2 ^ 53) (positive : 0 < d) (divisor : d < 2 ^ 53) :
    ⌈roundNonneg ((a : ℚ) / d)⌉ = ((a + d - 1) / d : Nat) := by
  rcases Nat.eq_zero_or_pos a with rfl | some_
  · rw [Nat.cast_zero, zero_div, Nat.zero_add, Nat.div_eq_of_lt (by omega)]
    simp [roundNonneg, roundEven]
  have d_pos : (0 : ℚ) < d := by exact_mod_cast positive
  have q_pos : (0 : ℚ) < (a : ℚ) / d := div_pos (by exact_mod_cast some_) d_pos
  have q_small : (a : ℚ) / d < 2 ^ (0 + 53 : ℤ) := by
    have : (a : ℚ) < 2 ^ 53 := by exact_mod_cast small
    have one : (1 : ℚ) ≤ d := by exact_mod_cast positive
    exact lt_of_le_of_lt (div_le_self (Nat.cast_nonneg a) one) (by exact_mod_cast this)
  -- the quotient is at least one part in `d` above the integer below it
  obtain ⟨n, up⟩ : ∃ n : Nat, n + 1 = (a + d - 1) / d :=
    ⟨(a + d - 1) / d - 1, Nat.sub_add_cancel (Nat.div_pos (by omega) positive)⟩
  have parts := (Nat.div_eq_iff positive).mp up.symm
  have above : (n : ℚ) + 1 / d ≤ (a : ℚ) / d := by
    rw [← sub_nonneg, show (a : ℚ) / d - (n + 1 / d) = (a - (n * d + 1)) / d by field_simp]
    apply div_nonneg _ d_pos.le
    have : ((n * d + 1 : Nat) : ℚ) ≤ a := by
      have : n * d + d ≤ a + d - 1 := by simpa [Nat.succ_mul] using parts.1
      exact_mod_cast (by omega : n * d + 1 ≤ a)
    push_cast at this
    linarith
  have below : (a : ℚ) / d ≤ ((n + 1 : ℤ) : ℚ) := by
    rw [div_le_iff₀ d_pos]
    have : a ≤ (n + 1) * d := by
      have := parts.2
      omega
    exact_mod_cast this
  rw [← up]
  apply Int.ceil_eq_iff.mpr
  constructor
  · -- the error of the rounding is smaller than that part
    have error := (abs_le.mp (roundNonneg_error ((a : ℚ) / d))).1
    have half := half_lastBit_lt small positive divisor
    push_cast
    linarith
  · -- the integer above is a multiple of the last bit
    obtain ⟨e, last⟩ := Int.le.dest (lastBit_le q_pos q_small (by norm_num))
    have whole : ((n + 1 : ℤ) : ℚ) / 2 ^ lastBit ((a : ℚ) / d) = ((n + 1) * 2 ^ e : ℤ) := by
      rw [show lastBit ((a : ℚ) / d) = -(e : ℤ) by omega, zpow_neg, div_inv_eq_mul, zpow_natCast]
      push_cast
      rfl
    have unit : (0 : ℚ) < 2 ^ lastBit ((a : ℚ) / d) := by positivity
    have rounded := roundEven_le (n := (n + 1) * 2 ^ e)
      (whole ▸ div_le_div_of_nonneg_right below unit.le)
    have rounded : (roundEven ((a : ℚ) / d / 2 ^ lastBit ((a : ℚ) / d)) : ℚ) ≤
        ((n + 1) * 2 ^ e : ℤ) := by exact_mod_cast rounded
    rw [← whole, le_div_iff₀ unit] at rounded
    exact_mod_cast rounded

/-- The nearest value, of either sign. -/
def nearest (q : ℚ) : ℚ := if q < 0 then -roundNonneg (-q) else roundNonneg q

theorem nearest_of_nonneg {q : ℚ} (nonneg : 0 ≤ q) : nearest q = roundNonneg q :=
  if_neg (not_lt.mpr nonneg)

theorem nearest_of_representable {q : ℚ} (representable : Representable q) : nearest q = q := by
  unfold nearest
  split
  next negative =>
    rw [roundNonneg_of_representable (by linarith) representable.neg, neg_neg]
  next nonneg => exact roundNonneg_of_representable (not_lt.mp nonneg) representable

theorem nearest_natCast {n : Nat} (small : n < 2 ^ 53) : nearest n = n := by
  apply nearest_of_representable
  have := @representable_intCast n (by rw [Nat.abs_cast]; exact_mod_cast small)
  exact_mod_cast this

theorem ceil_nearest_div {a d : Nat} (small : a < 2 ^ 53) (positive : 0 < d) (divisor : d < 2 ^ 53) :
    ⌈nearest ((a : ℚ) / d)⌉ = ((a + d - 1) / d : Nat) := by
  rw [nearest_of_nonneg (by positivity)]
  exact ceil_roundNonneg_div small positive divisor

end Rounding

section Digits

/-- The power of ten after the leading digit. -/
def pointPosition (x : ℚ) : ℤ := Int.log 10 x + 1

/-- An integer of `k` digits that is read as `x`, the nearest one of two. -/
def candidate (x : ℚ) (k : Nat) : Option ℤ :=
  let unit : ℚ := 10 ^ (pointPosition x - k)
  let low := ⌊x / unit⌋
  let rest := 2 * (x / unit - low)
  if roundNonneg (low * unit) = x ∧
      (roundNonneg ((low + 1 : ℤ) * unit) ≠ x ∨ rest < 1 ∨ rest = 1 ∧ 2 ∣ low) then some low
  else if roundNonneg ((low + 1 : ℤ) * unit) = x then some (low + 1)
  else none

theorem candidate_reads {x : ℚ} {k : Nat} {s : ℤ} (found : candidate x k = some s) :
    roundNonneg (s * 10 ^ (pointPosition x - k)) = x := by
  simp only [candidate] at found
  split at found
  next low =>
    cases found
    exact low.1
  next =>
    split at found
    next high =>
      cases found
      exact high
    next => cases found

theorem candidate_pos {x : ℚ} {k : Nat} {s : ℤ} (positive : 0 < x) (digits : 1 ≤ k)
    (found : candidate x k = some s) : 0 < s := by
  have unit : (0 : ℚ) < 10 ^ (pointPosition x - k) := by positivity
  have low : 1 ≤ ⌊x / 10 ^ (pointPosition x - k)⌋ := by
    refine Int.le_floor.mpr ?_
    rw [le_div_iff₀ unit]
    have log := Int.zpow_log_le_self (by norm_num : 1 < 10) positive
    refine le_trans ?_ log
    push_cast
    rw [one_mul]
    refine zpow_le_zpow_right₀ (by norm_num) ?_
    unfold pointPosition
    omega
  simp only [candidate] at found
  split at found
  next =>
    cases found
    omega
  next =>
    split at found
    next =>
      cases found
      omega
    next => cases found

/-- Enough digits write the value itself. -/
theorem exists_candidate {x : ℚ} (positive : 0 < x) (representable : Representable x) :
    ∃ k, 1 ≤ k ∧ (candidate x k).isSome = true := by
  have whole : ∃ j : Nat, ∃ n : ℤ, x * 10 ^ j = n := by
    obtain ⟨m, e, -, -, -, rfl⟩ := representable
    obtain ⟨j, rfl | rfl⟩ := Int.eq_nat_or_neg e
    · exact ⟨0, m * 2 ^ j, by push_cast; rw [zpow_natCast, pow_zero, mul_one]⟩
    · refine ⟨j, m * 5 ^ j, ?_⟩
      rw [zpow_neg, zpow_natCast, show (10 : ℚ) = 2 * 5 by norm_num, mul_pow]
      push_cast
      field_simp
  obtain ⟨j, n, whole⟩ := whole
  obtain ⟨k, enough⟩ : ∃ k : Nat, 1 ≤ k ∧ j ≤ k - pointPosition x :=
    ⟨1 + j + (pointPosition x).toNat, by omega, by omega⟩
  refine ⟨k, enough.1, ?_⟩
  obtain ⟨d, more⟩ := Int.le.dest enough.2
  have units : x / 10 ^ (pointPosition x - k) = (n * 10 ^ d : ℤ) := by
    rw [← neg_sub, ← more, zpow_neg, div_inv_eq_mul, zpow_add₀ (by norm_num), zpow_natCast,
      zpow_natCast, ← mul_assoc, whole]
    push_cast
    rfl
  have exact_ : ((n * 10 ^ d : ℤ) : ℚ) * 10 ^ (pointPosition x - k) = x := by
    rw [← units]
    exact div_mul_cancel₀ _ (by positivity)
  simp only [candidate, units, Int.floor_intCast, exact_,
    roundNonneg_of_representable positive.le representable, sub_self, mul_zero]
  simp

/-- The fewest digits that are read as `x`, as an integer and the power of ten of its unit. -/
def shortest (x : ℚ) (positive : 0 < x) (representable : Representable x) : ℕ × ℤ :=
  let k := Nat.find (exists_candidate positive representable)
  let s := (candidate x k).getD 0
  if s = 10 ^ k then (10 ^ (k - 1), pointPosition x - k + 1) else (s.toNat, pointPosition x - k)

/-- The fewest digits are found by a search. -/
theorem shortest_eq {x : ℚ} {positive : 0 < x} {representable : Representable x} {k : Nat} {s : ℤ}
    (digits : 1 ≤ k) (fewer : ∀ i < k, 1 ≤ i → candidate x i = none)
    (found : candidate x k = some s) (few : s ≠ 10 ^ k) :
    shortest x positive representable = (s.toNat, pointPosition x - k) := by
  have least : Nat.find (exists_candidate positive representable) = k := by
    rw [Nat.find_eq_iff]
    refine ⟨⟨digits, by rw [found]; rfl⟩, ?_⟩
    rintro i below ⟨some_, there⟩
    rw [fewer i below some_] at there
    cases there
  simp only [shortest, least, found, Option.getD_some]
  rw [if_neg few]

theorem carry {k : Nat} (digits : 1 ≤ k) (e : ℤ) :
    ((10 ^ (k - 1) : ℕ) : ℚ) * 10 ^ (e + 1) = ((10 ^ k : ℤ) : ℚ) * 10 ^ e := by
  obtain ⟨k, rfl⟩ := Nat.exists_eq_add_of_le' digits
  rw [zpow_add₀ (by norm_num), Nat.add_sub_cancel]
  push_cast
  ring

theorem shortest_reads {x : ℚ} (positive : 0 < x) (representable : Representable x) :
    roundNonneg ((shortest x positive representable).1 *
      10 ^ (shortest x positive representable).2) = x ∧
      0 < (shortest x positive representable).1 := by
  obtain ⟨digits, found⟩ := Nat.find_spec (exists_candidate positive representable)
  obtain ⟨s, found⟩ := Option.isSome_iff_exists.mp found
  have reads := candidate_reads found
  have positive' := candidate_pos positive digits found
  unfold shortest
  simp only [found, Option.getD_some]
  split
  next full =>
    refine ⟨?_, by positivity⟩
    rw [full] at reads
    dsimp only
    rw [carry digits]
    exact reads
  next =>
    refine ⟨?_, by omega⟩
    have same : ((s.toNat : ℕ) : ℚ) = s := by
      exact_mod_cast congrArg (fun n : ℤ => (n : ℚ)) (Int.toNat_of_nonneg positive'.le)
    rw [same]
    exact reads

end Digits

section Literals

/-- A decimal literal. -/
structure Literal where
  negative : Bool
  whole : List Char
  fraction : List Char := []
  exponent : Option ℤ := none

namespace Literal

variable (l : Literal)

def magnitude : ℚ :=
  Nat.ofDigitChars 10 (l.whole ++ l.fraction) 0 * 10 ^ (l.exponent.getD 0 - l.fraction.length)

def exponentText : Option ℤ → List Char
  | none => []
  | some e => 'e' :: (if e < 0 then '-' else '+') :: Nat.toDigits 10 e.natAbs

def text : List Char :=
  (if l.negative then ['-'] else []) ++ l.whole ++
    (if l.fraction = [] then [] else '.' :: l.fraction) ++ exponentText l.exponent

/-- Digits, at least one, and what comes after them. -/
def readDigits (input : List Char) : Option (List Char × List Char) :=
  let (digits, rest) := input.span Char.isDigit
  if digits = [] then none else some (digits, rest)

def readFraction : List Char → Option (List Char × List Char)
  | '.' :: rest => readDigits rest
  | rest => some ([], rest)

def readExponent : List Char → Option (Option ℤ)
  | [] => some none
  | c :: rest => do
    guard (c = 'e' ∨ c = 'E')
    let (negative, rest) := match rest with
      | '-' :: rest => (true, rest)
      | '+' :: rest => (false, rest)
      | rest => (false, rest)
    let (digits, rest) ← readDigits rest
    guard (rest = [])
    let e : ℤ := Nat.ofDigitChars 10 digits 0
    return some (if negative then -e else e)

def readSign : List Char → Bool × List Char
  | '-' :: rest => (true, rest)
  | rest => (false, rest)

/-- A whole part starts with no zero that other digits follow. -/
def read (input : List Char) : Option Literal := do
  let (negative, rest) := readSign input
  let (whole, rest) ← readDigits rest
  guard (whole.head? ≠ some '0' ∨ whole = ['0'])
  let (fraction, rest) ← readFraction rest
  let exponent ← readExponent rest
  return { negative, whole, fraction, exponent }

structure WellFormed : Prop where
  whole : ∀ c ∈ l.whole, c.isDigit = true
  nonempty : l.whole ≠ []
  leading : l.whole.head? ≠ some '0' ∨ l.whole = ['0']
  fraction : ∀ c ∈ l.fraction, c.isDigit = true

variable {l}

theorem readDigits_append {digits rest : List Char} (all : ∀ c ∈ digits, c.isDigit = true)
    (nonempty : digits ≠ []) (stop : ∀ c tail, rest = c :: tail → c.isDigit = false) :
    readDigits (digits ++ rest) = some (digits, rest) := by
  have stop : rest.takeWhile Char.isDigit = [] ∧ rest.dropWhile Char.isDigit = rest := by
    cases rest with
    | nil => exact ⟨rfl, rfl⟩
    | cons c rest => simp [stop c rest rfl]
  rw [readDigits, List.span_eq_takeWhile_dropWhile, List.takeWhile_append_of_pos all,
    List.dropWhile_append_of_pos all, stop.1, stop.2, List.append_nil]
  exact if_neg nonempty

theorem digits_toDigits (n : Nat) : ∀ c ∈ Nat.toDigits 10 n, c.isDigit = true :=
  fun _ member => Nat.isDigit_of_mem_toDigits (by decide) (by decide) member

theorem readExponent_text (exponent : Option ℤ) :
    readExponent (exponentText exponent) = some exponent := by
  cases exponent with
  | none => rfl
  | some e =>
    have digits : readDigits (Nat.toDigits 10 e.natAbs ++ []) = some (Nat.toDigits 10 e.natAbs, []) :=
      readDigits_append (digits_toDigits e.natAbs) Nat.toDigits_ne_nil (by simp)
    rw [List.append_nil] at digits
    by_cases negative : e < 0
    · simp [exponentText, negative, readExponent, digits, Nat.ofDigitChars_ten_toDigits,
        abs_of_neg negative]
    · simp [exponentText, negative, readExponent, digits, Nat.ofDigitChars_ten_toDigits,
        abs_of_nonneg (not_lt.mp negative)]

theorem exponentText_stops {exponent : Option ℤ} {c : Char} {tail : List Char}
    (same : exponentText exponent = c :: tail) : c.isDigit = false ∧ c ≠ '.' := by
  cases exponent with
  | none => cases same
  | some e =>
    cases same
    decide

theorem readFraction_text (wellFormed : l.WellFormed) (rest : List Char)
    (stop : ∀ c tail, rest = c :: tail → c.isDigit = false ∧ c ≠ '.') :
    readFraction ((if l.fraction = [] then [] else '.' :: l.fraction) ++ rest) =
      some (l.fraction, rest) := by
  split
  next empty =>
    rw [List.nil_append, empty]
    unfold readFraction
    split
    next rest => exact absurd rfl (stop '.' rest rfl).2
    next => rfl
  next nonempty =>
    exact readDigits_append wellFormed.fraction nonempty fun c tail same => (stop c tail same).1

/-- A literal is read back from its text. -/
theorem read_text (wellFormed : l.WellFormed) : read l.text = some l := by
  have exponent := readExponent_text l.exponent
  have fraction := readFraction_text wellFormed (exponentText l.exponent)
    fun c tail same => exponentText_stops same
  have stops : ∀ c tail, (if l.fraction = [] then [] else '.' :: l.fraction) ++
      exponentText l.exponent = c :: tail → c.isDigit = false := by
    intro c tail same
    split at same
    next => exact (exponentText_stops same).1
    next =>
      cases same
      rfl
  have whole := readDigits_append wellFormed.whole wellFormed.nonempty stops
  have sign : readSign l.text = (l.negative, l.whole ++
      ((if l.fraction = [] then [] else '.' :: l.fraction) ++ exponentText l.exponent)) := by
    unfold text
    cases l.negative with
    | true => simp [readSign]
    | false =>
      cases start : l.whole with
      | nil => exact absurd start wellFormed.nonempty
      | cons c rest =>
        have digit := wellFormed.whole c (by simp [start])
        simp only [Bool.false_eq_true, if_false, List.nil_append, List.cons_append,
          List.append_assoc]
        unfold readSign
        split
        next same =>
          cases same
          cases digit
        next => rfl
  rw [read, sign]
  simp [whole, fraction, exponent, wellFormed.leading]

theorem text_chars (wellFormed : l.WellFormed) :
    l.text ≠ [] ∧ ∀ c ∈ l.text, (c.isDigit || c ∈ ['-', '+', '.', 'e', 'E']) = true := by
  refine ⟨by simp [text, wellFormed.nonempty], fun c member => ?_⟩
  simp only [text, List.mem_append] at member
  rcases member with ((sign | whole) | fraction) | exponent
  · split at sign
    next => simp [List.mem_singleton.mp sign]
    next => cases sign
  · simp [wellFormed.whole c whole]
  · split at fraction
    next => cases fraction
    next =>
      rcases List.mem_cons.mp fraction with rfl | digit
      · decide
      · simp [wellFormed.fraction c digit]
  · cases given : l.exponent with
    | none =>
      rw [given] at exponent
      cases exponent
    | some e =>
      rw [given] at exponent
      rcases List.mem_cons.mp exponent with rfl | rest
      · decide
      rcases List.mem_cons.mp rest with rfl | digit
      · split <;> decide
      · simp [digits_toDigits e.natAbs c digit]

end Literal

/-- How `Number.prototype.toString` writes `s` units of a power of ten. -/
def literal (negative : Bool) (s : Nat) (unit : ℤ) : Literal :=
  let digits := Nat.toDigits 10 s
  let n := unit + digits.length
  if digits.length ≤ n ∧ n ≤ 21 then
    { negative, whole := digits ++ List.replicate unit.toNat '0' }
  else if 0 < n ∧ n ≤ 21 then
    { negative, whole := digits.take n.toNat, fraction := digits.drop n.toNat }
  else if -6 < n ∧ n ≤ 0 then
    { negative, whole := ['0'], fraction := List.replicate (-n).toNat '0' ++ digits }
  else
    { negative, whole := digits.take 1, fraction := digits.drop 1, exponent := some (n - 1) }

theorem toDigits_head_ne_zero {s : Nat} (positive : 0 < s) :
    (Nat.toDigits 10 s).head? ≠ some '0' := by
  induction s using Nat.strong_induction_on with
  | _ s ih =>
    by_cases small : s < 10
    · rw [Nat.toDigits_of_lt_base small]
      interval_cases s <;> decide
    · rw [Nat.toDigits_of_base_le (by decide) (by omega), List.head?_append_of_ne_nil _
        Nat.toDigits_ne_nil]
      exact ih (s / 10) (by omega) (by omega)

theorem head_take {digits : List Char} {n : Nat} (positive : 0 < n) :
    (digits.take n).head? = digits.head? := by
  rw [List.head?_take, if_neg (by omega)]

theorem literal_wellFormed (negative : Bool) {s : Nat} (positive : 0 < s) (unit : ℤ) :
    (literal negative s unit).WellFormed := by
  have digits := Literal.digits_toDigits s
  have leading := toDigits_head_ne_zero positive
  have nonempty : Nat.toDigits 10 s ≠ [] := Nat.toDigits_ne_nil
  have zeros (n : Nat) : ∀ c ∈ List.replicate n '0', c.isDigit = true := by
    intro c member
    rw [List.eq_of_mem_replicate member]
    rfl
  simp only [literal]
  split
  next =>
    refine ⟨?_, by simp [nonempty], .inl ?_, by simp⟩
    · exact List.forall_mem_append.mpr ⟨digits, zeros _⟩
    · rwa [List.head?_append_of_ne_nil _ nonempty]
  split
  next within =>
    refine ⟨fun c member => digits c (List.mem_of_mem_take member), ?_, .inl ?_,
      fun c member => digits c (List.mem_of_mem_drop member)⟩
    · simp [nonempty]
      omega
    · rwa [head_take (by omega)]
  split
  next =>
    refine ⟨by simp, by simp, .inr rfl, ?_⟩
    exact List.forall_mem_append.mpr ⟨zeros _, digits⟩
  next =>
    refine ⟨fun c member => digits c (List.mem_of_mem_take member), by simp [nonempty], .inl ?_,
      fun c member => digits c (List.mem_of_mem_drop member)⟩
    rwa [head_take (by omega)]

theorem literal_negative (negative : Bool) (s : Nat) (unit : ℤ) :
    (literal negative s unit).negative = negative := by
  simp only [literal]
  repeat' split
  all_goals rfl

theorem literal_magnitude (negative : Bool) (s : Nat) (unit : ℤ) :
    (literal negative s unit).magnitude = s * 10 ^ unit := by
  have digits : Nat.ofDigitChars 10 (Nat.toDigits 10 s) 0 = s := Nat.ofDigitChars_ten_toDigits
  simp only [literal]
  split
  next whole =>
    obtain ⟨n, rfl⟩ : ∃ n : Nat, unit = n := ⟨unit.toNat, by omega⟩
    simp [Literal.magnitude, Nat.ofDigitChars_append, digits, mul_comm]
  split
  next within =>
    rw [Literal.magnitude, List.take_append_drop, digits]
    congr 2
    simp only [Option.getD_none, List.length_drop]
    omega
  split
  next below =>
    have value : Nat.ofDigitChars 10 (['0'] ++ (List.replicate
        (-(unit + (Nat.toDigits 10 s).length)).toNat '0' ++ Nat.toDigits 10 s)) 0 = s := by
      simp [Nat.ofDigitChars_cons, Nat.ofDigitChars_append, digits]
    rw [Literal.magnitude, value]
    congr 2
    simp only [Option.getD_none, List.length_append, List.length_replicate]
    omega
  next =>
    have nonempty : 0 < (Nat.toDigits 10 s).length := Nat.length_toDigits_pos
    rw [Literal.magnitude, List.take_append_drop, digits]
    congr 2
    simp only [Option.getD_some, List.length_drop]
    omega

end Literals

section Values

/-- A finite value, whose zero has no sign. -/
structure Binary64 where
  value : ℚ
  finite : Representable value
  deriving DecidableEq

theorem Representable.abs {q : ℚ} (representable : Representable q) : Representable |q| := by
  rcases abs_choice q with same | same
  · rwa [same]
  · rw [same]
    exact representable.neg

namespace Binary64

def ofNat (n : Nat) (small : n < 2 ^ 53) : Binary64 :=
  ⟨n, n, 0, by rw [Nat.abs_cast]; exact_mod_cast small, by norm_num, by norm_num, by simp⟩

/-- `Number(n)` of a bigint of 256 bits. -/
def nearest (n : Nat) (below : n < 2 ^ 256) : Binary64 :=
  ⟨roundNonneg n, representable_roundNonneg (Nat.cast_nonneg n) (roundNonneg_natCast_lt below)⟩

/-- A small integer is below the nearest value of another one where it is below the integer. -/
theorem lt_nearest {m n : Nat} (below : n < 2 ^ 256) (small : m < 2 ^ 53) :
    (m : ℚ) < (nearest n below).value ↔ m < n := by
  change (m : ℚ) < roundNonneg n ↔ m < n
  by_cases safe : n < 2 ^ 53
  · obtain ⟨k, value, same, -⟩ := roundNonneg_natCast n
    rw [value, same safe]
    exact_mod_cast Iff.rfl
  · have large := le_roundNonneg_natCast (not_lt.mp safe)
    have less : (m : ℚ) < 2 ^ 53 := by exact_mod_cast small
    constructor
    · intro _
      omega
    · intro _
      exact less.trans_le large

/-- The nearest value is an integer, and a safe one for safe integers only. -/
theorem nearest_safe {n : Nat} (below : n < 2 ^ 256) :
    ∃ m : Nat, (nearest n below).value = m ∧ (m < 2 ^ 53 ↔ n < 2 ^ 53) := by
  obtain ⟨m, value, same, -⟩ := roundNonneg_natCast n
  refine ⟨m, value, ?_⟩
  constructor
  · intro safe
    by_contra large
    have beyond := le_roundNonneg_natCast (not_lt.mp large)
    rw [value] at beyond
    exact absurd safe (not_lt.mpr (by exact_mod_cast beyond))
  · intro safe
    rwa [same safe]

/-- `Number.prototype.toString` -/
def text (x : Binary64) : List Char :=
  if zero : x.value = 0 then ['0']
  else
    let digits := shortest |x.value| (abs_pos.mpr zero) x.finite.abs
    (literal (x.value < 0) digits.1 digits.2).text

theorem text_eq {x : Binary64} {k : Nat} {s : ℤ} (nonzero : x.value ≠ 0) (digits : 1 ≤ k)
    (fewer : ∀ i < k, 1 ≤ i → candidate |x.value| i = none)
    (found : candidate |x.value| k = some s) (few : s ≠ 10 ^ k) :
    x.text = (literal (x.value < 0) s.toNat (pointPosition |x.value| - k)).text := by
  rw [text, dif_neg nonzero]
  dsimp only
  rw [shortest_eq digits fewer found few]

/-- The value nearest to a literal; there is none beyond the largest ones. -/
def ofLiteral (l : Literal) : Option Binary64 :=
  if large : 0 ≤ l.magnitude ∧ roundNonneg l.magnitude < 2 ^ (1024 : ℤ) then
    let finite := representable_roundNonneg large.1 large.2
    some (if l.negative then ⟨-roundNonneg l.magnitude, finite.neg⟩
      else ⟨roundNonneg l.magnitude, finite⟩)
  else none

theorem value_lt {x : ℚ} (representable : Representable x) : x < 2 ^ (1024 : ℤ) := by
  obtain ⟨m, e, small, -, high, rfl⟩ := representable
  have below : (m : ℚ) < 2 ^ (53 : ℤ) := by exact_mod_cast lt_of_abs_lt small
  calc (m : ℚ) * 2 ^ e < 2 ^ (53 : ℤ) * 2 ^ e := mul_lt_mul_of_pos_right below (by positivity)
    _ = 2 ^ (53 + e) := (zpow_add₀ (by norm_num) _ _).symm
    _ ≤ 2 ^ (1024 : ℤ) := zpow_le_zpow_right₀ (by norm_num) (by omega)

theorem ofLiteral_eq {l : Literal} {x : Binary64} (nonneg : 0 ≤ l.magnitude)
    (reads : roundNonneg l.magnitude = |x.value|) (sign : l.negative = decide (x.value < 0)) :
    ofLiteral l = some x := by
  have finite := value_lt x.finite.abs
  unfold ofLiteral
  rw [dif_pos ⟨nonneg, by rwa [reads]⟩, sign]
  by_cases negative : x.value < 0
  · simp [negative, reads, abs_of_neg]
  · simp [negative, reads, abs_of_nonneg (not_lt.mp negative)]

instance : NumberText Binary64 where
  text := text
  digit c := c.isDigit || c ∈ ['-', '+', '.', 'e', 'E']
  read input := (Literal.read input).bind ofLiteral

theorem read_text (x : Binary64) : (Literal.read x.text).bind ofLiteral = some x := by
  unfold text
  split
  next zero =>
    have magnitude : (⟨false, ['0'], [], none⟩ : Literal).magnitude = 0 := by
      simp [Literal.magnitude, Nat.ofDigitChars_cons]
    have read : Literal.read ['0'] = some ⟨false, ['0'], [], none⟩ := rfl
    rw [read, Option.bind_some]
    refine ofLiteral_eq magnitude.ge ?_ (by simp [zero])
    rw [magnitude, zero]
    simp [roundNonneg, roundEven]
  next nonzero =>
    obtain ⟨reads, positive⟩ := shortest_reads (abs_pos.mpr nonzero) x.finite.abs
    dsimp only
    rw [Literal.read_text (literal_wellFormed _ positive _), Option.bind_some]
    refine ofLiteral_eq ?_ ?_ ?_
    · rw [literal_magnitude]
      positivity
    · rw [literal_magnitude]
      exact reads
    · exact literal_negative _ _ _

theorem text_chars (x : Binary64) :
    x.text ≠ [] ∧ ∀ c ∈ x.text, (c.isDigit || c ∈ ['-', '+', '.', 'e', 'E']) = true := by
  unfold text
  split
  next =>
    refine ⟨List.cons_ne_nil _ _, fun c member => ?_⟩
    rw [List.mem_singleton.mp member]
    rfl
  next nonzero =>
    obtain ⟨-, positive⟩ := shortest_reads (abs_pos.mpr nonzero) x.finite.abs
    exact Literal.text_chars (literal_wellFormed _ positive _)

instance : LawfulNumberText Binary64 where
  ne_nil n := (text_chars n).1
  digits n := (text_chars n).2
  read_text := read_text
  apart c digit member := by
    fin_cases member <;> exact absurd digit (by decide)

end Binary64

/-- A number: the zeros are two, and are written alike. -/
inductive Number where
  | negativeZero
  | of (x : Binary64)
  deriving DecidableEq

def Number.unsigned : Number → Binary64
  | .negativeZero => .ofNat 0 (by norm_num)
  | .of x => x

/-- Numbers are compared by their values. -/
def Number.value (n : Number) : ℚ := n.unsigned.value

def Number.ofLiteral (l : Literal) : Option Number :=
  (Binary64.ofLiteral l).map fun x => if l.negative ∧ x.value = 0 then .negativeZero else .of x

instance : NumberText Number where
  text n := n.unsigned.text
  digit := NumberText.digit (ν := Binary64)
  read input := (Literal.read input).bind Number.ofLiteral

end Values

end Json
