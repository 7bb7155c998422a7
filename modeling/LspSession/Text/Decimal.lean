/-!
# `LspSession.Text.Decimal`: numerals in base ten

`digits` writes a natural number with no leading zero. `ofNumeral?` reads a numeral: an optional
single plus sign, then one or more ASCII digits, leading zeros allowed. `ofNumeralUpTo?` also
refuses a number above a given bound, which is how a field of fixed width reads its text.
-/

set_option autoImplicit false

namespace LspSession.Decimal

/-- The character of a digit below ten, by its code. -/
def digitChar (d : Nat) : Char := Char.ofNat (48 + d)

/-- The value of an ASCII digit. Digits of other scripts have none here. -/
def digit? (c : Char) : Option Nat :=
  if '0' ≤ c ∧ c ≤ '9' then some (c.toNat - 48) else none

/-- The digits of a number, most significant first, with no leading zero. Zero has one digit. -/
def digits (n : Nat) : List Char :=
  if n < 10 then [digitChar n] else digits (n / 10) ++ [digitChar (n % 10)]
termination_by n
decreasing_by omega

/-- The number of digits of a number, counted without writing them. -/
def count (n : Nat) : Nat :=
  if n < 10 then 1 else count (n / 10) + 1
termination_by n
decreasing_by omega

/-- A number as text, in its `digits`. -/
def render (n : Nat) : String := String.ofList (digits n)

/-- An integer as text: a minus sign before the digits of a negative one, and no sign before
another. -/
def renderInt (i : Int) : String :=
  if i < 0 then "-" ++ render i.natAbs else render i.natAbs

/-- Reads digits into the number read so far. It fails at the first character that is none. -/
def readDigits? (value : Nat) : List Char → Option Nat
  | [] => some value
  | c :: cs => (digit? c).bind fun d => readDigits? (10 * value + d) cs

/-- Reads a numeral: an optional plus sign and at least one digit. A minus sign makes it none. -/
def ofNumeral? : List Char → Option Nat
  | [] => none
  | '+' :: [] => none
  | '+' :: cs => readDigits? 0 cs
  | cs => readDigits? 0 cs

/-- Reads digits into the number read so far, which stops growing once it is above `bound`. -/
def readDigitsUpTo? (bound value : Nat) : List Char → Option Nat
  | [] => some value
  | c :: cs =>
    -- One above the bound stands for all that is above it, so long numerals cost no more.
    (digit? c).bind fun d => readDigitsUpTo? bound (min (bound + 1) (10 * value + d)) cs

/-- Reads a numeral whose number is at most `bound`, without ever counting further than one above
it. -/
def ofNumeralUpTo? (bound : Nat) : List Char → Option Nat
  | [] => none
  | '+' :: [] => none
  | '+' :: cs => (readDigitsUpTo? bound 0 cs).filter (· ≤ bound)
  | cs => (readDigitsUpTo? bound 0 cs).filter (· ≤ bound)

/-! ### Reading up to a bound -/

/-- A number that has stopped growing is cut down to `bound + 1`, and so is all that is read into
it. -/
theorem readDigitsUpTo?_eq (bound value : Nat) (cs : List Char) :
    readDigitsUpTo? bound (min (bound + 1) value) cs =
      (readDigits? value cs).map (min (bound + 1)) := by
  induction cs generalizing value with
  | nil => rfl
  | cons c cs ih =>
    simp only [readDigitsUpTo?, readDigits?]
    cases digit? c with
    | none => rfl
    | some d =>
      have h : min (bound + 1) (10 * min (bound + 1) value + d) =
          min (bound + 1) (10 * value + d) := by omega
      simp only [Option.bind_some]
      rw [h, ih]

/-- Reading up to a bound is reading and then comparing with it. So `ofNumeral?` is enough to reason
about. -/
theorem ofNumeralUpTo?_eq (bound : Nat) (cs : List Char) :
    ofNumeralUpTo? bound cs = (ofNumeral? cs).filter (· ≤ bound) := by
  have key (ds : List Char) : (readDigitsUpTo? bound 0 ds).filter (· ≤ bound) =
      (readDigits? 0 ds).filter (· ≤ bound) := by
    have h := readDigitsUpTo?_eq bound 0 ds
    rw [Nat.min_eq_right (Nat.zero_le _)] at h
    rw [h]
    cases readDigits? 0 ds with
    | none => rfl
    | some n =>
      simp only [Option.map_some, Option.filter_some, decide_eq_true_eq]
      by_cases hn : n ≤ bound
      · rw [Nat.min_eq_right (by omega)]
      · rw [if_neg hn, if_neg (by omega)]
  unfold ofNumeralUpTo? ofNumeral?
  split
  · rfl
  · rfl
  · exact key _
  · exact key _

/-! ### Reading what was written -/

/-- The character of a digit is read as that digit. -/
theorem digit?_digitChar : ∀ d, d < 10 → digit? (digitChar d) = some d := by
  decide

/-- Digits in a row are read one part after another. -/
theorem readDigits?_append (v : Nat) (xs ys : List Char) :
    readDigits? v (xs ++ ys) = (readDigits? v xs).bind fun w => readDigits? w ys := by
  induction xs generalizing v with
  | nil => rfl
  | cons c cs ih =>
    simp only [List.cons_append, readDigits?]
    cases digit? c with
    | none => rfl
    | some d => simp [ih]

/-- Every number has a digit. -/
theorem digits_ne_nil (n : Nat) : digits n ≠ [] := by
  rw [digits]
  split <;> simp

/-- The digits that are written for a number are read as that number. -/
theorem readDigits?_digits (n : Nat) : readDigits? 0 (digits n) = some n := by
  induction n using Nat.strongRecOn with
  | ind n ih =>
    rw [digits]
    split
    case isTrue h => simp [readDigits?, digit?_digitChar n h]
    case isFalse h =>
      rw [readDigits?_append, ih (n / 10) (by omega)]
      simp [readDigits?, digit?_digitChar (n % 10) (by omega)]
      omega

/-- No digit is taken for the sign in front of a numeral. -/
theorem digitChar_ne_plus : ∀ d, d < 10 → digitChar d ≠ '+' := by
  decide

/-- A written number does not start with a sign. -/
private theorem head?_digits (n : Nat) : (digits n).head? ≠ some '+' := by
  induction n using Nat.strongRecOn with
  | ind n ih =>
    rw [digits]
    split
    case isTrue h => simpa using digitChar_ne_plus n h
    case isFalse h =>
      have hn := digits_ne_nil (n / 10)
      have ih := ih (n / 10) (by omega)
      cases hd : digits (n / 10) with
      | nil => exact absurd hd hn
      | cons c cs => simpa [hd] using ih

/-- A written number reads back as itself, so `digits n` is a numeral for `n`. -/
theorem ofNumeral?_digits (n : Nat) : ofNumeral? (digits n) = some n := by
  have hne := digits_ne_nil n
  have hp := head?_digits n
  have hr := readDigits?_digits n
  unfold ofNumeral?
  split <;> simp_all

end LspSession.Decimal
