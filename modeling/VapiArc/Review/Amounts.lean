import VapiArc.Lib.FixedPoint
import VapiArc.Review.Reservations

/-!
# Texts of USDC amounts

An amount is stored as a text of its micro-USDC. Circle is asked for it, the gateway charges
it and the reviewer reads it as a decimal, which three functions write.
-/
namespace VapiArc.Review

open Checked Json

/-- The value of a digit in a base up to 16. -/
def digitIn (base : Nat) (c : Char) : Option Nat :=
  let digit :=
    if c.isDigit then c.toNat - '0'.toNat
    else if 'a' ≤ c ∧ c ≤ 'f' then c.toNat - 'a'.toNat + 10
    else if 'A' ≤ c ∧ c ≤ 'F' then c.toNat - 'A'.toNat + 10
    else base
  if digit < base then some digit else none

def digitsIn (base : Nat) (digits : List Char) : Option Nat :=
  if digits = [] then none
  else digits.foldlM (fun value c => (digitIn base c).map (base * value + ·)) 0

/-- The integer that a text without blanks around it stands for. -/
def readInteger : List Char → Option Int
  | [] => some 0
  | '0' :: 'x' :: digits | '0' :: 'X' :: digits => (digitsIn 16 digits).map (↑)
  | '0' :: 'o' :: digits | '0' :: 'O' :: digits => (digitsIn 8 digits).map (↑)
  | '0' :: 'b' :: digits | '0' :: 'B' :: digits => (digitsIn 2 digits).map (↑)
  | '-' :: digits => (digitsIn 10 digits).map fun value => -value
  | '+' :: digits => (digitsIn 10 digits).map (↑)
  | digits => (digitsIn 10 digits).map (↑)

def bigInt (text : String) : Except Failure Int :=
  demand (.error ("Cannot convert " ++ text ++ " to a BigInt")) (readInteger (trim text).toList)

/-- `/^\d+$/` -/
def isDigits (text : String) : Bool := text ≠ "" && text.toList.all Char.isDigit

/-- What the three functions do with the amount; the division truncates. -/
def decimalText (amount : Int) : String :=
  let whole := amount.tdiv 1000000
  let fraction := stripZeros (padStart 6 (toString (amount.tmod 1000000)).toList)
  toString whole ++ if fraction = [] then "" else "." ++ String.ofList fraction

def usdcUnitsToDecimal (units : String) : Except Failure String := do
  revertIf (isDigits units = false) (.error "USDC amount must be an integer")
  let amount ← bigInt units
  return decimalText amount

def formatUsdc (units : String) : Except Failure String := do
  let value ← bigInt units
  return decimalText value

def toDollarPrice (units : String) : Except Failure String := do
  let value ← bigInt units
  return "$" ++ decimalText value

/-- The number that a text of digits stands for. -/
def unitsValue (units : String) : Nat := Nat.ofDigitChars 10 units.toList 0

/-- The text is the shortest decimal of the micro-USDC: an optional fraction of at most six
digits follows the whole part, and the last of them is not a zero. -/
structure Exactly (text : String) (micros : Nat) : Prop where
  value : ∃ l, Literal.read text.toList = some l ∧ l.negative = false ∧ l.exponent = none ∧
    l.magnitude = micros / 10 ^ 6 ∧ l.fraction.length ≤ 6 ∧ l.fraction.getLast? ≠ some '0'
  dangling : text.toList.getLast? ≠ some '.'

section Reading

theorem digitIn_decimal {c : Char} (digit : c.isDigit = true) :
    digitIn 10 c = some (c.toNat - '0'.toNat) := by
  have upper : c.toNat ≤ '9'.toNat := by
    simp only [Char.isDigit, Bool.and_eq_true, decide_eq_true_eq] at digit
    exact digit.2
  have small : c.toNat - '0'.toNat < 10 := by
    simp at upper ⊢
    omega
  simp only [digitIn, digit, if_true, small]

theorem digitsIn_decimal {digits : List Char} (nonempty : digits ≠ [])
    (all : ∀ c ∈ digits, c.isDigit = true) :
    digitsIn 10 digits = some (Nat.ofDigitChars 10 digits 0) := by
  have fold (value : Nat) : digits.foldlM (fun value c =>
      (digitIn 10 c).map (10 * value + ·)) value = some (Nat.ofDigitChars 10 digits value) := by
    clear nonempty
    induction digits generalizing value with
    | nil => rfl
    | cons c rest ih =>
      rw [List.foldlM_cons, Nat.ofDigitChars_cons, digitIn_decimal (all c List.mem_cons_self)]
      exact ih (fun c member => all c (List.mem_cons_of_mem _ member)) _
  rw [digitsIn, if_neg nonempty, fold]

/-- A digit is not blank. -/
theorem blank_digit {c : Char} (digit : c.isDigit = true) : blank (String.singleton c) = false := by
  simp only [Char.isDigit, Bool.and_eq_true, decide_eq_true_eq] at digit
  have lower : 48 ≤ c.toNat := digit.1
  have upper : c.toNat ≤ 57 := digit.2
  have printed : c.isWhitespace = false := by
    rw [Bool.eq_false_iff]
    intro space
    simp only [Char.isWhitespace, Bool.or_eq_true, decide_eq_true_eq] at space
    rcases space with ((rfl | rfl) | rfl) | rfl <;> simp at lower
  simp [blank, printed]
  omega

theorem trim_digits {text : String} (all : ∀ c ∈ text.toList, c.isDigit = true) :
    trim text = text := by
  have kept (digits : List Char) (all : ∀ c ∈ digits, c.isDigit = true) :
      digits.dropWhile (fun c => blank (String.singleton c)) = digits := by
    cases digits with
    | nil => rfl
    | cons c rest => exact List.dropWhile_cons_of_neg (by simp [blank_digit (all c (by simp))])
  simp only [trim]
  rw [kept _ all, kept _ fun c member => all c (List.mem_reverse.mp member), List.reverse_reverse,
    String.ofList_toList]

theorem isDigits_iff {units : String} : isDigits units = true ↔
    units.toList ≠ [] ∧ ∀ c ∈ units.toList, c.isDigit = true := by
  simp [isDigits, List.all_eq_true]

theorem readInteger_digits {digits : List Char} (nonempty : digits ≠ [])
    (all : ∀ c ∈ digits, c.isDigit = true) :
    readInteger digits = some (Nat.ofDigitChars 10 digits 0 : Nat) := by
  have value := digitsIn_decimal nonempty all
  unfold readInteger
  split
  next => exact absurd rfl nonempty
  -- no sign and no letter is a digit
  iterate 8 next => simp at all
  next =>
    rw [value]
    rfl

theorem bigInt_digits {units : String} (digits : isDigits units = true) :
    bigInt units = .ok (unitsValue units) := by
  obtain ⟨nonempty, all⟩ := isDigits_iff.mp digits
  rw [bigInt, trim_digits all, readInteger_digits nonempty all]
  rfl

end Reading

theorem decimalText_toList (micros : Nat) :
    (decimalText micros).toList = (fixedPoint 6 micros).text := by
  have whole : (micros : Int).tdiv 1000000 = (micros / 1000000 : Nat) := rfl
  have rest : (micros : Int).tmod 1000000 = (micros % 1000000 : Nat) := rfl
  have digits (n : Nat) : (toString (n : Int)).toList = Nat.toDigits 10 n := by
    rw [← Nat.toList_repr]
    rfl
  simp only [decimalText, whole, rest, Literal.text, fixedPoint, String.toList_append, digits]
  split
  next none_ => simp [none_, Literal.exponentText]
  next some_ => simp [some_, Literal.exponentText]

theorem decimalText_exactly (micros : Nat) : Exactly (decimalText micros) micros := by
  have six : 0 < 6 := by decide
  constructor
  · refine ⟨fixedPoint 6 micros, ?_, rfl, rfl, ?_, fixedPoint_fraction_length six,
      stripZeros_getLast?⟩
    · rw [decimalText_toList]
      exact Literal.read_text fixedPoint_wellFormed
    · exact_mod_cast fixedPoint_magnitude six
  · -- the text ends with a digit
    rw [decimalText_toList]
    intro dangling
    cases fixedPoint_last dangling

theorem Exactly.unique {text : String} {micros micros' : Nat} (first : Exactly text micros)
    (second : Exactly text micros') : micros = micros' := by
  obtain ⟨l, read, -, -, value, -, -⟩ := first.value
  obtain ⟨l', read', -, -, value', -, -⟩ := second.value
  cases read.symm.trans read'
  have same : (micros : ℚ) / 10 ^ 6 = micros' / 10 ^ 6 := value.symm.trans value'
  exact_mod_cast (div_left_inj' (by norm_num)).mp same

section Conversions

variable {units units' : String} (digits : isDigits units = true)
include digits

theorem usdcUnitsToDecimal_digits :
    usdcUnitsToDecimal units = .ok (decimalText (unitsValue units)) := by
  simp [usdcUnitsToDecimal, revertIf, digits, bigInt_digits digits, bind, Except.bind, pure,
    Except.pure]

theorem formatUsdc_digits : formatUsdc units = .ok (decimalText (unitsValue units)) := by
  simp [formatUsdc, bigInt_digits digits, bind, Except.bind, pure, Except.pure]

theorem toDollarPrice_digits :
    toDollarPrice units = .ok ("$" ++ decimalText (unitsValue units)) := by
  simp [toDollarPrice, bigInt_digits digits, bind, Except.bind, pure, Except.pure]

end Conversions

theorem decimalText_inj {micros micros' : Nat} :
    decimalText micros = decimalText micros' ↔ micros = micros' := by
  refine ⟨fun same => ?_, fun same => by rw [same]⟩
  exact (decimalText_exactly micros).unique (same ▸ decimalText_exactly micros')

/-- The three texts of an amount are one exact decimal, up to the dollar sign, and two
amounts have a text in common only if they are equal. -/
theorem usdc_exact :
    (∀ units, isDigits units = true → ∃ text, usdcUnitsToDecimal units = .ok text ∧
      formatUsdc units = .ok text ∧ toDollarPrice units = .ok ("$" ++ text) ∧
      Exactly text (unitsValue units)) ∧
    ∀ units units', isDigits units = true → isDigits units' = true →
      (usdcUnitsToDecimal units = usdcUnitsToDecimal units' ↔
        unitsValue units = unitsValue units') ∧
      (formatUsdc units = formatUsdc units' ↔ unitsValue units = unitsValue units') ∧
      (toDollarPrice units = toDollarPrice units' ↔ unitsValue units = unitsValue units') := by
  constructor
  · intro units digits
    exact ⟨_, usdcUnitsToDecimal_digits digits, formatUsdc_digits digits,
      toDollarPrice_digits digits, decimalText_exactly _⟩
  · intro units units' digits digits'
    rw [usdcUnitsToDecimal_digits digits, usdcUnitsToDecimal_digits digits',
      formatUsdc_digits digits, formatUsdc_digits digits', toDollarPrice_digits digits,
      toDollarPrice_digits digits']
    simp [decimalText_inj]

/-- A quarter of a dollar, written with leading zeros, and a dollar and a cent. -/
theorem usdc_exact_quarter :
    ∃ text, usdcUnitsToDecimal "00250000" = .ok text ∧ formatUsdc "00250000" = .ok text ∧
      toDollarPrice "00250000" = .ok ("$" ++ text) ∧ Exactly text (unitsValue "00250000") :=
  usdc_exact.1 "00250000" (by decide)

example : (usdcUnitsToDecimal "1010000").toOption = some "1.01" := by decide

end VapiArc.Review
