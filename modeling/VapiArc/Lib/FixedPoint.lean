import VapiArc.Lib.Number

/-!
# Fixed-point decimals

An amount counted in units, `10 ^ places` of which make one, is written with as few
fraction digits as it needs.
-/
namespace Json

/-- `String.prototype.padStart` with zeros. -/
def padStart (width : Nat) (digits : List Char) : List Char :=
  List.replicate (width - digits.length) '0' ++ digits

/-- The digits without the zeros at their end. -/
def stripZeros (digits : List Char) : List Char := digits.rdropWhile (· = '0')

/-- The amount as a decimal literal. -/
def fixedPoint (places units : Nat) : Literal :=
  { negative := false
    whole := Nat.toDigits 10 (units / 10 ^ places)
    fraction := stripZeros (padStart places (Nat.toDigits 10 (units % 10 ^ places))) }

section Padding

variable {width : Nat} {digits : List Char}

theorem length_padStart (short : digits.length ≤ width) : (padStart width digits).length = width := by
  rw [padStart, List.length_append, List.length_replicate]
  omega

theorem ofDigitChars_padStart :
    Nat.ofDigitChars 10 (padStart width digits) 0 = Nat.ofDigitChars 10 digits 0 := by
  rw [padStart, Nat.ofDigitChars_append, Nat.ofDigitChars_replicate_zero, Nat.mul_zero]

theorem stripZeros_prefix : stripZeros digits <+: digits := List.rdropWhile_prefix _ _

theorem stripZeros_getLast? : (stripZeros digits).getLast? ≠ some '0' := by
  intro last
  have nonempty : stripZeros digits ≠ [] := by
    rintro empty
    rw [empty] at last
    cases last
  rw [List.getLast?_eq_some_getLast nonempty, Option.some.injEq] at last
  exact List.rdropWhile_last_not _ _ nonempty (decide_eq_true last)

/-- The zeros that are left out scale the value. -/
theorem ofDigitChars_stripZeros : Nat.ofDigitChars 10 digits 0 =
    10 ^ (digits.length - (stripZeros digits).length) *
      Nat.ofDigitChars 10 (stripZeros digits) 0 := by
  have split : stripZeros digits ++ digits.rtakeWhile (· = '0') = digits :=
    List.rdropWhile_append_rtakeWhile
  have zeros : digits.rtakeWhile (· = '0') =
      List.replicate (digits.rtakeWhile (· = '0')).length '0' :=
    List.eq_replicate_of_mem fun c member => by simpa using List.mem_rtakeWhile_imp member
  have count : digits.length - (stripZeros digits).length =
      (digits.rtakeWhile (· = '0')).length := by
    rw [← congrArg List.length split, List.length_append, Nat.add_sub_cancel_left]
  rw [count]
  nth_rewrite 1 [← split]
  rw [zeros, Nat.ofDigitChars_append, Nat.ofDigitChars_replicate_zero, List.length_replicate]

end Padding

variable {places units : Nat}

theorem length_fraction (positive : 0 < places) :
    (Nat.toDigits 10 (units % 10 ^ places)).length ≤ places :=
  (Nat.length_toDigits_le_iff (by decide) positive).mpr (Nat.mod_lt _ (by positivity))

theorem fixedPoint_wellFormed : (fixedPoint places units).WellFormed where
  whole := Literal.digits_toDigits _
  nonempty := Nat.toDigits_ne_nil
  leading := by
    by_cases zero : units / 10 ^ places = 0
    · right
      simp [fixedPoint, zero]
    · left
      exact toDigits_head_ne_zero (Nat.pos_of_ne_zero zero)
  fraction c member := by
    have padded : c ∈ padStart places (Nat.toDigits 10 (units % 10 ^ places)) :=
      stripZeros_prefix.subset member
    rcases List.mem_append.mp padded with zero | digit
    · rw [List.eq_of_mem_replicate zero]
      rfl
    · exact Literal.digits_toDigits _ c digit

theorem fixedPoint_fraction_length (positive : 0 < places) :
    (fixedPoint places units).fraction.length ≤ places := by
  have short : _ ≤ (padStart places (Nat.toDigits 10 (units % 10 ^ places))).length :=
    stripZeros_prefix.length_le
  rwa [length_padStart (length_fraction positive)] at short

/-- The literal stands for the amount, and for nothing else. -/
theorem fixedPoint_magnitude (positive : 0 < places) :
    (fixedPoint places units).magnitude = units / 10 ^ places := by
  have length : (fixedPoint places units).fraction.length ≤ places :=
    fixedPoint_fraction_length positive
  have digits : Nat.ofDigitChars 10 (padStart places (Nat.toDigits 10 (units % 10 ^ places))) 0 =
      units % 10 ^ places := by
    rw [ofDigitChars_padStart, Nat.ofDigitChars_ten_toDigits]
  rw [ofDigitChars_stripZeros, length_padStart (length_fraction positive)] at digits
  obtain ⟨zeros, split⟩ := Nat.exists_eq_add_of_le length
  have rest : 10 ^ zeros * Nat.ofDigitChars 10 (fixedPoint places units).fraction 0 =
      units % 10 ^ places := by
    rw [← digits]
    congr 2
    simp only [fixedPoint] at split ⊢
    omega
  have total : (10 ^ zeros * Nat.ofDigitChars 10
      ((fixedPoint places units).whole ++ (fixedPoint places units).fraction) 0 : Nat) = units := by
    rw [Nat.ofDigitChars_append, Nat.ofDigitChars_eq_ofDigitChars_zero, Nat.mul_add, rest,
      ← Nat.mul_assoc, ← Nat.pow_add, Nat.add_comm zeros, ← split]
    simp only [fixedPoint, Nat.ofDigitChars_ten_toDigits]
    exact Nat.div_add_mod units (10 ^ places)
  have amount : (units : ℚ) = 10 ^ zeros * Nat.ofDigitChars 10
      ((fixedPoint places units).whole ++ (fixedPoint places units).fraction) 0 := by
    exact_mod_cast total.symm
  have power : (10 : ℚ) ^ places = 10 ^ (fixedPoint places units).fraction.length * 10 ^ zeros := by
    rw [← pow_add, ← split]
  have scale : (fixedPoint places units).exponent.getD 0 = 0 := rfl
  rw [Literal.magnitude, scale, zero_sub, zpow_neg, zpow_natCast, eq_div_iff (by positivity), power,
    amount]
  field_simp

/-- The text ends with a digit. -/
theorem fixedPoint_last {c : Char} (last : (fixedPoint places units).text.getLast? = some c) :
    c.isDigit = true := by
  have formed : (fixedPoint places units).WellFormed := fixedPoint_wellFormed
  by_cases integral : (fixedPoint places units).fraction = []
  · have text : (fixedPoint places units).text = (fixedPoint places units).whole := by
      rw [Literal.text, if_pos integral]
      simp [Literal.exponentText, fixedPoint]
    rw [text] at last
    exact formed.whole c (List.mem_of_getLast? last)
  · have text : (fixedPoint places units).text =
        ((fixedPoint places units).whole ++ ['.']) ++ (fixedPoint places units).fraction := by
      rw [Literal.text, if_neg integral]
      simp [Literal.exponentText, fixedPoint]
    rw [text, List.getLast?_append_of_ne_nil _ integral] at last
    exact formed.fraction c (List.mem_of_getLast? last)

end Json
