import LspSession.Text.Decimal
import Mathlib.Data.Nat.Digits.Defs

/-!
# `LspSession.Proofs.Text.Decimal`: which texts are numerals

`ofNumeral?` reads a numeral character by character. `IsNumeral` says without reading what a numeral
is: a plus sign or none, and then at least one digit, of which the number is made up in base ten.
`ofNumeral?_eq_some_iff` joins the two, and `ofNumeralUpTo?_eq_some_iff` adds the bound. Zeros in
front are allowed, so a number has many numerals; the one that `digits` writes is among them.
-/

set_option autoImplicit false

namespace LspSession.Decimal

/-- A text is a numeral for a number: an optional plus sign and the digits of the number, most
significant first, with any number of zeros in front. There is at least one digit. -/
def IsNumeral (text : List Char) (n : Nat) : Prop :=
  ∃ (sign : List Char) (ds : List Nat), (sign = [] ∨ sign = ['+']) ∧ ds ≠ [] ∧ (∀ d ∈ ds, d < 10) ∧
    text = sign ++ ds.map digitChar ∧ n = Nat.ofDigits 10 ds.reverse

/-- A character is a digit if it is the character of its value, which `digitChar` gives. -/
theorem digit?_eq_some_iff {c : Char} {d : Nat} : digit? c = some d ↔ d < 10 ∧ c = digitChar d := by
  constructor
  · intro h
    unfold digit? at h
    split at h
    · next hrange =>
      obtain ⟨hlow, hhigh⟩ := hrange
      have hlow : 48 ≤ c.toNat := hlow
      have hhigh : c.toNat ≤ 57 := hhigh
      cases h
      refine ⟨by omega, ?_⟩
      rw [digitChar, Nat.add_sub_cancel' hlow, Char.ofNat_toNat]
    · cases h
  · rintro ⟨hd, rfl⟩
    exact digit?_digitChar d hd

/-- Digits read on from the number before them: each makes it ten times as great and adds its own
value. -/
theorem readDigits?_eq_some_iff {value n : Nat} {cs : List Char} :
    readDigits? value cs = some n ↔
      ∃ ds : List Nat, (∀ d ∈ ds, d < 10) ∧ cs = ds.map digitChar ∧
        n = ds.foldl (10 * · + ·) value := by
  induction cs generalizing value with
  | nil =>
    simp only [readDigits?, Option.some.injEq]
    constructor
    · rintro rfl
      exact ⟨[], by simp⟩
    · rintro ⟨ds, -, hmap, rfl⟩
      rw [List.map_eq_nil_iff.mp hmap.symm]
      rfl
  | cons c cs ih =>
    simp only [readDigits?, Option.bind_eq_some_iff, digit?_eq_some_iff, ih]
    constructor
    · rintro ⟨d, ⟨hd, rfl⟩, ds, hds, rfl, rfl⟩
      exact ⟨d :: ds, List.forall_mem_cons.mpr ⟨hd, hds⟩, rfl, rfl⟩
    · rintro ⟨ds, hds, hmap, rfl⟩
      obtain ⟨d, ds, rfl, rfl, rfl⟩ := List.map_eq_cons_iff.mp hmap.symm
      obtain ⟨hd, hds⟩ := List.forall_mem_cons.mp hds
      exact ⟨d, ⟨hd, rfl⟩, ds, hds, rfl, rfl⟩

/-- The number that digits make up, read from the front as `readDigits?` does, is that of
`Nat.ofDigits`, which has the least significant digit first. -/
theorem foldl_eq_ofDigits (ds : List Nat) :
    ds.foldl (10 * · + ·) 0 = Nat.ofDigits 10 ds.reverse := by
  rw [Nat.ofDigits_eq_foldr, List.foldr_reverse]
  simp only [Nat.cast_id, Nat.add_comm]

/-- The texts that read as a number are its numerals, so `ofNumeral?` reads every numeral and
nothing else. -/
theorem ofNumeral?_eq_some_iff {text : List Char} {n : Nat} :
    ofNumeral? text = some n ↔ IsNumeral text n := by
  constructor
  · intro h
    unfold ofNumeral? at h
    -- The empty text and a sign alone are refused, and a sign in front of digits is passed over.
    split at h
    · cases h
    · cases h
    · next cs hcs =>
      obtain ⟨ds, hds, rfl, rfl⟩ := readDigits?_eq_some_iff.mp h
      refine ⟨['+'], ds, Or.inr rfl, ?_, hds, rfl, foldl_eq_ofDigits ds⟩
      rintro rfl
      exact hcs rfl
    · next hne _ _ =>
      obtain ⟨ds, hds, rfl, rfl⟩ := readDigits?_eq_some_iff.mp h
      refine ⟨[], ds, Or.inl rfl, ?_, hds, rfl, foldl_eq_ofDigits ds⟩
      rintro rfl
      exact hne rfl
  · rintro ⟨sign, ds, hsign, hne, hds, rfl, rfl⟩
    have hread : readDigits? 0 (ds.map digitChar) = some (Nat.ofDigits 10 ds.reverse) :=
      readDigits?_eq_some_iff.mpr ⟨ds, hds, rfl, (foldl_eq_ofDigits ds).symm⟩
    obtain ⟨d, ds, rfl⟩ := List.exists_cons_of_ne_nil hne
    rcases hsign with rfl | rfl
    · -- A digit is no plus sign, so that a numeral without a sign is read as digits.
      have hplus := digitChar_ne_plus d (hds d List.mem_cons_self)
      unfold ofNumeral?
      split <;> simp_all
    · exact hread

/-- The texts that read as a number within a bound are the numerals of the numbers up to it. A
numeral beyond the bound is refused, as one that overflows. -/
theorem ofNumeralUpTo?_eq_some_iff {bound n : Nat} {text : List Char} :
    ofNumeralUpTo? bound text = some n ↔ IsNumeral text n ∧ n ≤ bound := by
  rw [ofNumeralUpTo?_eq, Option.filter_eq_some_iff, ofNumeral?_eq_some_iff, decide_eq_true_eq]

/-- The digits of a number make it up, and only zero starts with the digit zero. So `digits n` is a
numeral for `n`, and the only one without a sign and zeros in front. -/
theorem exists_digits (n : Nat) :
    ∃ (d : Nat) (ds : List Nat), digits n = (d :: ds).map digitChar ∧ (∀ e ∈ d :: ds, e < 10) ∧
      (d :: ds).foldl (10 * · + ·) 0 = n ∧ (d = 0 → ds = []) := by
  -- The last digit is written behind those of a tenth of the number, so the induction follows
  -- `digits`.
  induction n using Nat.strongRecOn with
  | ind n ih =>
    rw [digits]
    split
    · next hn => exact ⟨n, [], rfl, by simpa using hn, by simp, fun _ => rfl⟩
    · next hn =>
      obtain ⟨d, ds, hdigits, hds, hvalue, hzero⟩ := ih (n / 10) (by omega)
      refine ⟨d, ds ++ [n % 10], ?_, ?_, ?_, ?_⟩
      · rw [hdigits, ← List.cons_append, List.map_append]
        rfl
      · rw [← List.cons_append]
        intro e he
        rcases List.mem_append.mp he with he | he
        · exact hds e he
        · rw [List.mem_singleton.mp he]
          omega
      · rw [← List.cons_append, List.foldl_append, hvalue]
        show 10 * (n / 10) + n % 10 = n
        omega
      · intro hd
        -- A number of more than one digit that starts with zero would be less than ten.
        rw [hzero hd, hd] at hvalue
        have : n / 10 = 0 := hvalue.symm
        omega

/-- A number is written in digits: `digits n` holds no other characters. -/
theorem mem_digits {n : Nat} {c : Char} (h : c ∈ digits n) : ∃ d < 10, c = digitChar d := by
  obtain ⟨d, ds, hdigits, hds, -, -⟩ := exists_digits n
  rw [hdigits] at h
  obtain ⟨e, he, rfl⟩ := List.mem_map.mp h
  exact ⟨e, hds e he, rfl⟩

end LspSession.Decimal
