import LspSession.Json.Reader
import LspSession.Proofs.Text.Utf8
import LspSession.Proofs.Text.Decimal

/-!
# `LspSession.Proofs.Json.RoundTrip`: a document is read from its compact text

The reader gives back the document that was written, with the members of every object in ascending
order (`ofBytes_render`), if all numbers are integers of 64 bits and no more containers are open at
once than the reader allows (`isIntegral`). A document whose members are in order already is given
back as it is (`ofBytes_render_of_isOrdered`).

The reader is a machine that takes one byte at a time, and what it does with the text of a value
depends on what waits for the value and on nothing else (`Reads`). Strings are read character by
character (`run_text_flatMap`), integers digit by digit (`run_digits`), and containers value by
value (`run_items`, `run_members`). A number is known only at the byte behind it, which in compact
text is a comma or closes a container (`Closes`).
-/

set_option autoImplicit false

namespace LspSession.Json

/-- The bytes of characters in UTF-8. Texts of documents are lists of characters (`Json.chars`), and
the reader takes their bytes. -/
def bytesOf (cs : List Char) : Bytes := cs.flatMap Utf8.encodeChar

@[simp] theorem bytesOf_nil : bytesOf [] = [] := rfl

@[simp] theorem bytesOf_append (cs ds : List Char) :
    bytesOf (cs ++ ds) = bytesOf cs ++ bytesOf ds := List.flatMap_append

theorem bytesOf_cons (c : Char) (cs : List Char) :
    bytesOf (c :: cs) = Utf8.encodeChar c ++ bytesOf cs := List.flatMap_cons

/-! ### Strings -/

variable {stack : List Open} {role : Role}

/-- A byte of a string under way, which `stepText` takes without closing the string. -/
theorem run_text_more {mode mode' : TextMode} {bytes bytes' : Bytes} {b : UInt8} (rest : Bytes)
    (h : stepText mode bytes b = .more mode' bytes') :
    Reading.run ⟨stack, .text role mode bytes⟩ (b :: rest) =
      Reading.run ⟨stack, .text role mode' bytes'⟩ rest := by
  simp only [Reading.run, Reading.step, h]

/-- Bytes that mean themselves in a string are gathered as they are. They must be neither the quote
nor the backslash nor a control character. -/
theorem run_text_append {bs : Bytes} (bytes rest : Bytes)
    (h : ∀ b ∈ bs, b ≠ 0x22 ∧ b ≠ 0x5C ∧ ¬ b < 0x20) :
    Reading.run ⟨stack, .text role .plain bytes⟩ (bs ++ rest) =
      Reading.run ⟨stack, .text role .plain (bs.reverse ++ bytes)⟩ rest := by
  induction bs generalizing bytes with
  | nil => rfl
  | cons b bs ih =>
    obtain ⟨⟨hquote, hslash, hcontrol⟩, hbs⟩ := List.forall_mem_cons.mp h
    have hstep : stepText .plain bytes b = .more .plain (b :: bytes) := by
      simp only [stepText, if_neg hquote, if_neg hslash, if_neg hcontrol]
    rw [List.cons_append, run_text_more _ hstep, ih _ hbs, List.reverse_cons, List.append_assoc]
    rfl

/-- An escape of one letter is gathered as the byte that the letter stands for. The letter `u` is
excluded, since digits follow it. -/
theorem run_text_letter {letter byte : UInt8} (bytes rest : Bytes) (hne : letter ≠ 0x75)
    (h : simpleEscape? letter = some byte) :
    Reading.run ⟨stack, .text role .plain bytes⟩ (0x5C :: letter :: rest) =
      Reading.run ⟨stack, .text role .plain (byte :: bytes)⟩ rest := by
  have hescape : stepText .plain bytes 0x5C = .more .escape bytes := rfl
  have hletter : stepText .escape bytes letter = .more .plain (byte :: bytes) := by
    simp only [stepText, if_neg hne, h]
  rw [run_text_more _ hescape, run_text_more _ hletter]

/-- The digits that a control character is written with spell its code. There are thirty-two of
them, so the statement is decided. -/
theorem unitValue?_control : ∀ n < 0x20,
    unitValue? [UInt8.ofNat (Text.hexChar (n % 16)).toNat,
      UInt8.ofNat (Text.hexChar (n / 16)).toNat, 0x30, 0x30] = some n := by
  decide

/-- The digits of control characters are ASCII characters, one byte each. -/
theorem encodeChar_hexChar : ∀ d < 16,
    Utf8.encodeChar (Text.hexChar d) = [UInt8.ofNat (Text.hexChar d).toNat] := by
  decide

/-- A character that is written as its code, `u` and four digits, is gathered as its own bytes.
Below `0x20` the code is no half of a pair. -/
theorem run_text_control {c : Char} (bytes rest : Bytes) (hc : c.toNat < 0x20) :
    Reading.run ⟨stack, .text role .plain bytes⟩
        (bytesOf ['\\', 'u', '0', '0', Text.hexChar (c.toNat / 16), Text.hexChar (c.toNat % 16)] ++
          rest) =
      Reading.run ⟨stack, .text role .plain ((Utf8.encodeChar c).reverse ++ bytes)⟩ rest := by
  have hhigh := encodeChar_hexChar (c.toNat / 16) (by omega)
  have hlow := encodeChar_hexChar (c.toNat % 16) (by omega)
  have hbytes : bytesOf ['\\', 'u', '0', '0', Text.hexChar (c.toNat / 16),
      Text.hexChar (c.toNat % 16)] =
        [0x5C, 0x75, 0x30, 0x30, UInt8.ofNat (Text.hexChar (c.toNat / 16)).toNat,
          UInt8.ofNat (Text.hexChar (c.toNat % 16)).toNat] := by
    simp only [bytesOf_cons, bytesOf_nil, hhigh, hlow]
    rfl
  have hvalue := unitValue?_control c.toNat hc
  have hunit : finishUnit none c.toNat bytes =
      .more .plain ((Utf8.encodeChar c).reverse ++ bytes) := by
    have hisLow : ¬ 0xDC00 ≤ c.toNat := by omega
    have hisHigh : ¬ (0xD800 ≤ c.toNat ∧ c.toNat ≤ 0xDBFF) := by omega
    simp [finishUnit, hisLow, hisHigh, Char.ofNat_toNat]
  have hslash : stepText .plain bytes 0x5C = .more .escape bytes := rfl
  have hletter : stepText .escape bytes 0x75 = .more (.unit none []) bytes := rfl
  have hdigit {digits : List UInt8} (b : UInt8) (hshort : digits.length < 3) :
      stepText (.unit none digits) bytes b = .more (.unit none (b :: digits)) bytes := by
    simp only [stepText, if_pos hshort]
  have hlast : stepText (.unit none [UInt8.ofNat (Text.hexChar (c.toNat / 16)).toNat, 0x30, 0x30])
      bytes (UInt8.ofNat (Text.hexChar (c.toNat % 16)).toNat) =
        .more .plain ((Utf8.encodeChar c).reverse ++ bytes) := by
    simp only [stepText, hvalue, hunit]
    rfl
  rw [hbytes]
  simp only [List.cons_append, List.nil_append]
  rw [run_text_more _ hslash, run_text_more _ hletter, run_text_more _ (hdigit _ (by decide)),
    run_text_more _ (hdigit _ (by decide)), run_text_more _ (hdigit _ (by decide)),
    run_text_more _ hlast]

/-- A character that means itself in a string is written in bytes that do. Those of a character
beyond ASCII are all `0x80` or more. -/
theorem plain_of_mem_encodeChar {c : Char} {b : UInt8} (hquote : c ≠ '"') (hslash : c ≠ '\\')
    (hcontrol : ¬ c.toNat < 0x20) (hb : b ∈ Utf8.encodeChar c) :
    b ≠ 0x22 ∧ b ≠ 0x5C ∧ ¬ b < 0x20 := by
  have hcode (d : Char) (hne : c ≠ d) : c.toNat ≠ d.toNat := by
    intro heq
    exact hne (by rw [← Char.ofNat_toNat c, heq, Char.ofNat_toNat])
  have hquote : c.toNat ≠ 0x22 := hcode '"' hquote
  have hslash : c.toNat ≠ 0x5C := hcode '\\' hslash
  have hb' : 0x20 ≤ b.toNat ∧ b.toNat ≠ 0x22 ∧ b.toNat ≠ 0x5C := by
    rcases Utf8.encodeChar_cases c with ⟨hascii, hone⟩ | ⟨-, hmore⟩
    · rw [hone, List.mem_singleton] at hb
      have hbyte : b.toNat = c.toNat := by
        rw [hb]
        exact UInt8.toNat_ofNat_of_lt' (show c.toNat < 256 by omega)
      omega
    · have := hmore b hb
      omega
  refine ⟨?_, ?_, ?_⟩
  · rintro rfl
    exact hb'.2.1 rfl
  · rintro rfl
    exact hb'.2.2 rfl
  · rw [UInt8.lt_iff_toNat_lt]
    exact Nat.not_lt.mpr hb'.1

/-- A character of a string, however `escape` writes it, is gathered as its own bytes. -/
theorem run_text_escape (c : Char) (bytes rest : Bytes) :
    Reading.run ⟨stack, .text role .plain bytes⟩ (bytesOf (escape c) ++ rest) =
      Reading.run ⟨stack, .text role .plain ((Utf8.encodeChar c).reverse ++ bytes)⟩ rest := by
  unfold escape
  -- Seven characters have a letter each.
  iterate 7
    split
    · next h =>
      subst h
      exact run_text_letter bytes rest (by decide) rfl
  split
  · next h => exact run_text_control bytes rest h
  · next hquote hslash _ _ _ _ _ hcontrol =>
    rw [bytesOf_cons, bytesOf_nil, List.append_nil]
    exact run_text_append bytes rest fun b hb => plain_of_mem_encodeChar hquote hslash hcontrol hb

/-- The characters of a string are gathered as their bytes, newest first as the reader keeps them.
-/
theorem run_text_flatMap (cs : List Char) (bytes rest : Bytes) :
    Reading.run ⟨stack, .text role .plain bytes⟩ (bytesOf (cs.flatMap escape) ++ rest) =
      Reading.run ⟨stack, .text role .plain ((bytesOf cs).reverse ++ bytes)⟩ rest := by
  induction cs generalizing bytes with
  | nil => rfl
  | cons c cs ih =>
    rw [List.flatMap_cons, bytesOf_append, List.append_assoc, run_text_escape, ih, bytesOf_cons,
      List.reverse_append, List.append_assoc]

/-- The end of a string: the quote behind its characters closes it, and what was gathered is the
UTF-8 of the string that was written. -/
theorem run_text_closed (s : String) (rest : Bytes) :
    Reading.run ⟨stack, .text role .plain []⟩ (bytesOf (s.toList.flatMap escape) ++ 0x22 :: rest) =
      Reading.run (match role with
        | .value => Reading.complete stack (.string s)
        | .name members => ⟨stack, .colon members s⟩) rest := by
  -- What was gathered is the UTF-8 of the string, and decoding it gives the string back.
  have hread : Utf8.decode? (bytesOf s.toList) = some s := Utf8.decode?_encode s
  rw [run_text_flatMap, List.append_nil]
  simp only [Reading.run, Reading.step]
  have hclosed : stepText .plain (bytesOf s.toList).reverse 0x22 = .closed := rfl
  simp only [hclosed, List.reverse_reverse, hread]
  rfl

/-! ### Values -/

/-- Behind a value in compact text the text ends, another value follows, or a container ends. A
number is known to be over only by this. -/
def Closes (rest : Bytes) : Prop := ∀ b ∈ rest.head?, b = 0x2C ∨ b = 0x5D ∨ b = 0x7D

/-- The characters `cs` are read as a document, and then it goes to what waits for it. The first of
their bytes tells that a value starts, which matters where an array may also end. -/
def Reads (stack : List Open) (cs : List Char) (document : Json) : Prop :=
  ∃ b more s, bytesOf cs = b :: more ∧ isSpace b = false ∧ b ≠ 0x5D ∧
    Reading.start? stack b = some s ∧
      ∀ rest, Closes rest → s.run (more ++ rest) = (Reading.complete stack document).run rest

/-- A value where one must follow: behind a comma, behind a colon, or at the start of the text. -/
theorem Reads.run_value {cs : List Char} {document : Json} {rest : Bytes}
    (h : Reads stack cs document) (hrest : Closes rest) :
    Reading.run ⟨stack, .value⟩ (bytesOf cs ++ rest) =
      (Reading.complete stack document).run rest := by
  obtain ⟨b, more, s, hbytes, hspace, -, hstart, hrun⟩ := h
  rw [hbytes, List.cons_append, ← hrun rest hrest]
  simp [Reading.run, Reading.step, Reading.stepBetween, hspace, hstart]

/-- A value that is the first item of an array, where a bracket could have closed the array instead.
-/
theorem Reads.run_firstItem {cs : List Char} {document : Json} {rest : Bytes}
    (h : Reads (.array [] :: stack) cs document) (hrest : Closes rest) :
    Reading.run ⟨stack, .firstItem⟩ (bytesOf cs ++ rest) =
      Reading.run ⟨stack, .afterItem [document]⟩ rest := by
  obtain ⟨b, more, s, hbytes, hspace, hend, hstart, hrun⟩ := h
  have hrun := hrun rest hrest
  rw [hbytes, List.cons_append]
  simp [Reading.run, Reading.step, Reading.stepBetween, hspace, hend, hstart, hrun,
    Reading.complete]

/-! ### Integers -/

/-- A digit as a byte, that of its ASCII character. -/
def digitByte (d : Nat) : UInt8 := UInt8.ofNat (Decimal.digitChar d).toNat

/-- Digits are written as bytes, one for each (`digitByte`). -/
theorem bytesOf_digits {ds : List Nat} (h : ∀ d ∈ ds, d < 10) :
    bytesOf (ds.map Decimal.digitChar) = ds.map digitByte := by
  have hascii : ∀ d < 10, (Decimal.digitChar d).toNat < 0x80 := by decide
  rw [bytesOf, Utf8.flatMap_encodeChar_of_ascii, List.map_map]
  · rfl
  · intro c hc
    obtain ⟨d, hd, rfl⟩ := List.mem_map.mp hc
    exact hascii d (h d hd)

/-- A digit byte has its value and starts nothing but a number. These are the tests that
`Reading.start?` makes before it comes to numbers. -/
theorem digitByte_facts : ∀ d < 10, Numeral.digitOf? (digitByte d) = some d ∧
    isSpace (digitByte d) = false ∧ digitByte d ≠ 0x5D ∧ digitByte d ≠ 0x6E ∧ digitByte d ≠ 0x74 ∧
      digitByte d ≠ 0x66 ∧ digitByte d ≠ 0x22 ∧ digitByte d ≠ 0x5B ∧ digitByte d ≠ 0x7B ∧
        digitByte d ≠ 0x2D := by
  decide

/-- More digits of an integer that does not start with zero are gathered, newest first. -/
theorem run_digits {negative : Bool} {whole ds : List Nat} (rest : Bytes) (hds : ∀ d ∈ ds, d < 10) :
    Reading.run ⟨stack, .number ⟨.whole, negative, whole, [], false, []⟩⟩
        (ds.map digitByte ++ rest) =
      Reading.run ⟨stack, .number ⟨.whole, negative, ds.reverse ++ whole, [], false, []⟩⟩ rest := by
  induction ds generalizing whole with
  | nil => rfl
  | cons d ds ih =>
    obtain ⟨hd, hds⟩ := List.forall_mem_cons.mp hds
    have hdigit := (digitByte_facts d hd).1
    rw [List.map_cons, List.cons_append, List.reverse_cons, List.append_assoc,
      List.singleton_append, ← ih hds]
    simp [Reading.run, Reading.step, Numeral.Scan.step, hdigit]

/-- An integer ends where a value closes. The byte behind it is then taken as one behind a finished
value, and not as part of the number. -/
theorem run_ended {n : Numeral.Scan} {numeral : Numeral} {value : Number} {rest : Bytes}
    (hphase : n.phase = .leadingZero ∨ n.phase = .whole) (hnumeral : n.numeral? = some numeral)
    (hvalue : numeral.value? = some value) (hrest : Closes rest) :
    Reading.run ⟨stack, .number n⟩ rest =
      (Reading.complete stack (.number value)).run rest := by
  cases rest with
  | nil =>
    cases stack with
    | nil => simp [Reading.run, Reading.finish, Reading.complete, hnumeral, hvalue]
    | cons container stack =>
      cases container <;>
        simp [Reading.run, Reading.finish, Reading.complete, hnumeral, hvalue]
  | cons b rest =>
    have hended : n.step b = .ended := by
      rcases hphase with hphase | hphase <;>
        rcases hrest b rfl with rfl | rfl | rfl <;>
        simp only [Numeral.Scan.step, hphase] <;> rfl
    -- Behind the number the byte means what it means behind any value.
    have hbehind : (Reading.complete stack (.number value)).step b =
        Reading.stepBetween (Reading.complete stack (.number value)) b := by
      cases stack with
      | nil => rfl
      | cons container stack => cases container <;> rfl
    have hdigit : Numeral.digitOf? b = none := by
      rcases hrest b rfl with rfl | rfl | rfl <;> rfl
    have hwrong : Reading.wrong ⟨stack, .number n⟩ b =
        Reading.wrong (Reading.complete stack (.number value)) b := by
      rw [Reading.wrong.eq_def ⟨stack, .number n⟩]
      simp only [hended, hnumeral, Option.bind_some, hvalue, hdigit, Option.isSome_none,
        Bool.false_eq_true, and_false, if_false]
      cases stack with
      | nil => rfl
      | cons container stack => cases container <;> rfl
    simp [Reading.run, Reading.step.eq_def ⟨stack, .number n⟩, hended, hnumeral, hvalue, hbehind,
      hwrong]

/-- Digits make up at least what stood before them, so a number that fits has only fronts that fit.
-/
theorem le_foldl_digits (ds : List Nat) (n : Nat) : n ≤ ds.foldl (10 * · + ·) n := by
  induction ds generalizing n with
  | nil => exact Nat.le_refl n
  | cons d ds ih => exact Nat.le_trans (by omega) (ih (10 * n + d))

/-- The digits of a number that fits are all gathered by `Numeral.gather`, and none is left over to
be rounded away. -/
theorem gather_eq {ds : List Nat} {n : Nat}
    (h : ds.foldl (10 * · + ·) n ≤ Numeral.significandLimit) :
    Numeral.gather n ds = (ds.foldl (10 * · + ·) n, []) := by
  induction ds generalizing n with
  | nil => rfl
  | cons d ds ih =>
    rw [List.foldl_cons] at h
    -- No front of the digits is beyond the limit, so no step of the gathering stops.
    have hfits := Nat.le_trans (le_foldl_digits ds (10 * n + d)) h
    rw [Numeral.gather, if_pos hfits, ih h]
    rfl

/-- A numeral of digits alone is an integer, if it fits: as a signed word if it is negative, as an
unsigned one if not. -/
theorem value?_integer {ds : List Nat} {i : Int} (hvalue : ds.foldl (10 * · + ·) 0 = i.natAbs)
    (hlow : -(Nat.pow 2 63 : Int) ≤ i) (hhigh : i < Nat.pow 2 64) :
    Numeral.value? ⟨decide (i < 0), ds, [], none⟩ = some (.integer i) := by
  have hlimit : Numeral.significandLimit = 18446744073709551615 := rfl
  have hpow : Nat.pow 2 63 = 9223372036854775808 := rfl
  have hpow' : Nat.pow 2 64 = 18446744073709551616 := rfl
  rw [hpow] at hlow
  rw [hpow'] at hhigh
  have hgather : Numeral.gather 0 ds = (i.natAbs, []) := by
    rw [gather_eq (by omega), hvalue]
  have hsign : (if decide (i < 0) = true then -(i.natAbs : Int) else i.natAbs) = i := by
    by_cases hneg : i < 0
    · rw [if_pos (decide_eq_true hneg)]
      omega
    · rw [if_neg (by simpa using hneg)]
      omega
  have hadmitted : decide (i < 0) = true → i.natAbs ≠ 0 ∧ i.natAbs ≤ Nat.pow 2 63 := by
    intro hneg
    have := of_decide_eq_true hneg
    rw [hpow]
    omega
  simp only [Numeral.value?, hgather, true_and, hsign]
  rw [if_pos hadmitted]

/-- The digits of an integer behind its first are read up to the byte that closes it. A zero in
front stands alone, as `hzero` says of the digits that `Decimal.digits` writes. -/
theorem run_integer {d : Nat} {ds : List Nat} {i : Int} {rest : Bytes}
    (hds : ∀ e ∈ d :: ds, e < 10) (hzero : d = 0 → ds = [])
    (hvalue : (d :: ds).foldl (10 * · + ·) 0 = i.natAbs)
    (hlow : -(Nat.pow 2 63 : Int) ≤ i) (hhigh : i < Nat.pow 2 64) (hrest : Closes rest) :
    Reading.run ⟨stack, .number ⟨if d = 0 then .leadingZero else .whole, decide (i < 0), [d], [],
        false, []⟩⟩ (ds.map digitByte ++ rest) =
      (Reading.complete stack (.number (.integer i))).run rest := by
  have hread := value?_integer hvalue hlow hhigh
  -- A zero in front stands alone, and any other digit may have more behind it.
  by_cases hd : d = 0
  · rw [hzero hd] at hread ⊢
    rw [if_pos hd]
    exact run_ended (.inl rfl) rfl hread hrest
  · rw [if_neg hd, run_digits rest fun e he => hds e (List.mem_cons_of_mem _ he)]
    refine run_ended (.inr rfl) rfl ?_ hrest
    simpa using hread

/-- The first digit of an integer starts it, with a minus sign in front or without. From here on a
leading zero and any other digit are told apart. -/
theorem start_integer {d : Nat} (hd : d < 10) :
    Reading.start? stack (digitByte d) = some ⟨stack, .number
        ⟨if d = 0 then .leadingZero else .whole, false, [d], [], false, []⟩⟩ ∧
      ∀ rest, Reading.run ⟨stack, .number ⟨.sign, true, [], [], false, []⟩⟩ (digitByte d :: rest) =
        Reading.run ⟨stack, .number
          ⟨if d = 0 then .leadingZero else .whole, true, [d], [], false, []⟩⟩ rest := by
  obtain ⟨hdigit, -, -, hn, ht, hf, hquote, hbracket, hbrace, hminus⟩ := digitByte_facts d hd
  refine ⟨?_, fun rest => ?_⟩
  · simp only [Reading.start?, if_neg hn, if_neg ht, if_neg hf, if_neg hquote, if_neg hbracket,
      if_neg hbrace, Numeral.Scan.start?, if_neg hminus, hdigit, Option.map_some]
  · cases d with
    | zero => rfl
    | succ d => simp [Reading.run, Reading.step, Numeral.Scan.step, hdigit]

/-- An integer of 64 bits, signed or not, is read from its digits. Beyond these bounds the reader
would make it a float. -/
theorem reads_integer {i : Int} (hlow : -(Nat.pow 2 63 : Int) ≤ i) (hhigh : i < Nat.pow 2 64) :
    Reads stack (Json.number (.integer i)).chars (.number (.integer i)) := by
  obtain ⟨d, ds, hdigits, hds, hvalue, hzero⟩ := Decimal.exists_digits i.natAbs
  obtain ⟨hstart, hsign⟩ := @start_integer stack d (hds d List.mem_cons_self)
  obtain ⟨-, hspace, hend, -⟩ := digitByte_facts d (hds d List.mem_cons_self)
  have hbytes : bytesOf (Decimal.digits i.natAbs) = digitByte d :: ds.map digitByte := by
    rw [hdigits, bytesOf_digits hds]
    rfl
  have hrun (rest : Bytes) (hrest : Closes rest) :=
    @run_integer stack d ds i rest hds hzero hvalue hlow hhigh hrest
  by_cases hneg : i < 0
  · have hchars : (Json.number (.integer i)).chars = '-' :: Decimal.digits i.natAbs := by
      simp [chars, Number.render, Decimal.renderInt, Decimal.render, hneg]
    rw [decide_eq_true hneg] at hrun
    refine ⟨0x2D, digitByte d :: ds.map digitByte,
      ⟨stack, .number ⟨.sign, true, [], [], false, []⟩⟩, ?_, rfl, by decide, rfl, ?_⟩
    · rw [hchars, bytesOf_cons, hbytes]
      rfl
    · intro rest hrest
      rw [List.cons_append, hsign, hrun rest hrest]
  · have hchars : (Json.number (.integer i)).chars = Decimal.digits i.natAbs := by
      simp [chars, Number.render, Decimal.renderInt, Decimal.render, hneg]
    rw [decide_eq_false hneg] at hrun
    exact ⟨digitByte d, ds.map digitByte, _, by rw [hchars, hbytes], hspace, hend, hstart, hrun⟩

/-! ### Documents -/

/-- A string as a value is read from its quoted text. -/
theorem reads_string (s : String) : Reads stack (Json.string s).chars (.string s) := by
  refine ⟨0x22, bytesOf (s.toList.flatMap escape) ++ [0x22], ⟨stack, .text .value .plain []⟩,
    ?_, rfl, by decide, rfl, fun rest _ => ?_⟩
  · rw [chars, quoted, bytesOf_append, bytesOf_cons]
    rfl
  · rw [List.append_assoc]
    exact run_text_closed s rest

/-- The word `null` is read letter by letter, and the document goes to what waits at the last. -/
theorem reads_null : Reads stack Json.null.chars .null :=
  ⟨0x6E, [0x75, 0x6C, 0x6C], _, rfl, rfl, by decide, rfl, fun _ _ => rfl⟩

/-- Either of the words `true` and `false` is read as its value. -/
theorem reads_bool (value : Bool) : Reads stack (Json.bool value).chars (.bool value) := by
  cases value with
  | true => exact ⟨0x74, [0x72, 0x75, 0x65], _, rfl, rfl, by decide, rfl, fun _ _ => rfl⟩
  | false => exact ⟨0x66, [0x61, 0x6C, 0x73, 0x65], _, rfl, rfl, by decide, rfl, fun _ _ => rfl⟩

/-- A member, behind the quote that starts its name: the name, the colon and the value are read, and
the member is put before those read so far. -/
theorem run_member {read : List (String × Json)} {name : String} {cs : List Char} {value : Json}
    {rest : Bytes} (h : Reads (.object read name :: stack) cs value) (hrest : Closes rest) :
    Reading.run ⟨stack, .text (.name read) .plain []⟩
        (bytesOf (name.toList.flatMap escape) ++ 0x22 :: 0x3A :: (bytesOf cs ++ rest)) =
      Reading.run ⟨stack, .afterMember ((name, value) :: read)⟩ rest := by
  rw [run_text_closed]
  exact h.run_value hrest

/-- An array starts where there is room for another container, so where fewer than `depthLimit` are
open. -/
theorem start_array (h : stack.length < depthLimit) :
    Reading.start? stack 0x5B = some ⟨stack, .firstItem⟩ := by
  simp [Reading.start?, h]

/-- An object starts where there is room for another container, so where fewer than `depthLimit` are
open. -/
theorem start_object (h : stack.length < depthLimit) :
    Reading.start? stack 0x7B = some ⟨stack, .firstName⟩ := by
  simp [Reading.start?, h]

mutual

/-- Whether a document has no numbers but integers of 64 bits, and no more than `levels` containers
within each other. These documents are read from their own text; a number with a fraction may be
rounded on the way. -/
def isIntegral : Nat → Json → Bool
  | _, .null | _, .bool _ | _, .string _ => true
  | _, .number (.integer i) => decide (-(Nat.pow 2 63 : Int) ≤ i ∧ i < Nat.pow 2 64)
  | _, .number (.float _) => false
  | 0, .array _ | 0, .object _ => false
  | levels + 1, .array items => areIntegral levels items
  | levels + 1, .object members => areIntegralMembers levels members

/-- Whether all items are such documents, with as many `levels` left for each. -/
def areIntegral : Nat → List Json → Bool
  | _, [] => true
  | levels, item :: items => isIntegral levels item && areIntegral levels items

/-- Whether all values are such documents, with as many `levels` left for each. Names may be any
text. -/
def areIntegralMembers : Nat → List (String × Json) → Bool
  | _, [] => true
  | levels, (_, value) :: members => isIntegral levels value && areIntegralMembers levels members

end

/-- The bytes of an array with items: the bracket, the first item, which no comma precedes, the
others and the closing bracket. -/
theorem bytesOf_array (item : Json) (items : List Json) :
    bytesOf (Json.array (item :: items)).chars =
      0x5B :: (bytesOf item.chars ++ (bytesOf (itemChars false items) ++ [0x5D])) := by
  rw [chars, itemChars, if_pos rfl, List.nil_append, List.cons_append, bytesOf_cons,
    bytesOf_append, bytesOf_append, List.append_assoc]
  rfl

/-- The bytes of a further item, with the comma that `itemChars` puts before it. -/
theorem bytesOf_nextItem (item : Json) (items : List Json) :
    bytesOf (itemChars false (item :: items)) =
      0x2C :: (bytesOf item.chars ++ bytesOf (itemChars false items)) := by
  rw [itemChars, if_neg Bool.false_ne_true, List.append_assoc, List.singleton_append,
    bytesOf_cons, bytesOf_append]
  rfl

/-- The bytes of a name with its colon: `quoted` puts the name between quotes, with its characters
escaped. -/
theorem bytesOf_name (name : String) (cs : List Char) :
    bytesOf (quoted name ++ ':' :: cs) =
      0x22 :: (bytesOf (name.toList.flatMap escape) ++ 0x22 :: 0x3A :: bytesOf cs) := by
  rw [quoted, List.cons_append, List.cons_append, bytesOf_cons, List.append_assoc, bytesOf_append,
    List.singleton_append, bytesOf_cons, bytesOf_cons]
  rfl

/-- The bytes of an object with members: the brace, the first member, which no comma precedes, the
others and the closing brace. -/
theorem bytesOf_object (name : String) (value : Json) (members : List (String × Json)) :
    bytesOf (Json.object ((name, value) :: members)).chars =
      0x7B :: 0x22 :: (bytesOf (name.toList.flatMap escape) ++ 0x22 :: 0x3A ::
        (bytesOf value.chars ++ (bytesOf (memberChars false members) ++ [0x7D]))) := by
  rw [chars, memberChars, if_pos rfl, List.nil_append, List.cons_append, bytesOf_cons,
    List.append_assoc, List.append_assoc, List.cons_append, bytesOf_name, bytesOf_append,
    bytesOf_append]
  rfl

/-- The bytes of a further member, with the comma that `memberChars` puts before it. -/
theorem bytesOf_nextMember (name : String) (value : Json) (members : List (String × Json)) :
    bytesOf (memberChars false ((name, value) :: members)) =
      0x2C :: 0x22 :: (bytesOf (name.toList.flatMap escape) ++ 0x22 :: 0x3A ::
        (bytesOf value.chars ++ bytesOf (memberChars false members))) := by
  rw [memberChars, if_neg Bool.false_ne_true, List.append_assoc, List.append_assoc,
    List.singleton_append, bytesOf_cons, List.cons_append, bytesOf_name, bytesOf_append]
  rfl

/-- Behind an item a comma follows or the array ends, so the item is closed (`Closes`). -/
theorem closes_items (items : List Json) (rest : Bytes) :
    Closes (bytesOf (itemChars false items) ++ 0x5D :: rest) := by
  cases items with
  | nil =>
    intro b hb
    cases hb
    exact .inr (.inl rfl)
  | cons item items =>
    intro b hb
    cases hb
    exact .inl rfl

/-- Behind a member a comma follows or the object ends, so its value is closed (`Closes`). -/
theorem closes_members (members : List (String × Json)) (rest : Bytes) :
    Closes (bytesOf (memberChars false members) ++ 0x7D :: rest) := by
  cases members with
  | nil =>
    intro b hb
    cases hb
    exact .inr (.inr rfl)
  | cons member members =>
    intro b hb
    cases hb
    exact .inl rfl

mutual

/-- The text of a document is read as the document in order, where there is room for its containers.
The recursion is over the document, with `run_items` and `run_members` for what it holds. -/
theorem reads_chars {levels : Nat} {stack : List Open} (document : Json)
    (h : isIntegral levels document = true) (hroom : stack.length + levels ≤ depthLimit) :
    Reads stack document.chars document.sorted := by
  -- An empty container closes where its first value could stand. In any other the first value is
  -- read on its own, because no comma stands before it.
  match levels, document with
  | _, .null => exact reads_null
  | _, .bool value => exact reads_bool value
  | _, .string s => exact reads_string s
  | _, .number (.integer i) =>
    rw [isIntegral] at h
    obtain ⟨hlow, hhigh⟩ := of_decide_eq_true h
    exact reads_integer hlow hhigh
  | _, .number (.float _) => simp [isIntegral] at h
  | 0, .array _ | 0, .object _ => simp [isIntegral] at h
  | levels + 1, .array [] =>
    have hstart : Reading.start? stack 0x5B = some ⟨stack, .firstItem⟩ := start_array (by omega)
    exact ⟨0x5B, [0x5D], _, rfl, rfl, by decide, hstart, fun _ _ => rfl⟩
  | levels + 1, .array (item :: items) =>
    have hstart : Reading.start? stack 0x5B = some ⟨stack, .firstItem⟩ := start_array (by omega)
    rw [isIntegral, areIntegral, Bool.and_eq_true] at h
    have hitem : Reads (.array [] :: stack) item.chars item.sorted :=
      reads_chars item h.1 (by rw [List.length_cons]; omega)
    refine ⟨0x5B, _, _, bytesOf_array item items, rfl, by decide, hstart, fun rest _ => ?_⟩
    rw [List.append_assoc, List.append_assoc, List.singleton_append,
      -- The first item is read on its own, and the others behind their commas.
      hitem.run_firstItem (closes_items items rest), run_items items h.2 (by omega)]
    rfl
  | levels + 1, .object [] =>
    have hstart : Reading.start? stack 0x7B = some ⟨stack, .firstName⟩ := start_object (by omega)
    refine ⟨0x7B, [0x7D], _, rfl, rfl, by decide, hstart, fun rest _ => ?_⟩
    have hempty : (Json.object []).sorted = .object [] := by
      simp [sorted, ofMembers, sortedMembers, sortMembers]
    rw [hempty]
    rfl
  | levels + 1, .object ((name, value) :: members) =>
    have hstart : Reading.start? stack 0x7B = some ⟨stack, .firstName⟩ := start_object (by omega)
    rw [isIntegral, areIntegralMembers, Bool.and_eq_true] at h
    have hvalue : Reads (.object [] name :: stack) value.chars value.sorted :=
      reads_chars value h.1 (by rw [List.length_cons]; omega)
    have hquote (more : Bytes) : Reading.run ⟨stack, .firstName⟩ (0x22 :: more) =
        Reading.run ⟨stack, .text (.name []) .plain []⟩ more := rfl
    refine ⟨0x7B, _, _, bytesOf_object name value members, rfl, by decide, hstart,
      fun rest _ => ?_⟩
    simp only [List.cons_append, List.append_assoc, List.nil_append]
    rw [hquote, run_member hvalue (closes_members members rest),
      run_members members h.2 (by omega)]
    rfl

/-- The items of an array that follow others are read, each behind its comma, and the bracket closes
the array around all of them. -/
theorem run_items {levels : Nat} {stack : List Open} {read : List Json} {rest : Bytes}
    (items : List Json) (h : areIntegral levels items = true)
    (hroom : stack.length + 1 + levels ≤ depthLimit) :
    Reading.run ⟨stack, .afterItem read⟩ (bytesOf (itemChars false items) ++ 0x5D :: rest) =
      (Reading.complete stack (.array (read.reverse ++ sortedItems items))).run rest := by
  match items with
  | [] =>
    rw [sortedItems, List.append_nil]
    rfl
  | item :: items =>
    rw [areIntegral, Bool.and_eq_true] at h
    have hitem : Reads (.array read :: stack) item.chars item.sorted :=
      reads_chars item h.1 (by rw [List.length_cons]; omega)
    have hcomma (more : Bytes) : Reading.run ⟨stack, .afterItem read⟩ (0x2C :: more) =
        Reading.run ⟨.array read :: stack, .value⟩ more := rfl
    rw [bytesOf_nextItem, List.cons_append, List.append_assoc, hcomma,
      hitem.run_value (closes_items items rest)]
    show Reading.run ⟨stack, .afterItem (item.sorted :: read)⟩ _ = _
    rw [run_items items h.2 hroom, List.reverse_cons, List.append_assoc]
    rfl

/-- The members of an object that follow others are read, each behind its comma, and the brace
closes the object, whose members are then sorted. -/
theorem run_members {levels : Nat} {stack : List Open} {read : List (String × Json)} {rest : Bytes}
    (members : List (String × Json)) (h : areIntegralMembers levels members = true)
    (hroom : stack.length + 1 + levels ≤ depthLimit) :
    Reading.run ⟨stack, .afterMember read⟩ (bytesOf (memberChars false members) ++ 0x7D :: rest) =
      (Reading.complete stack (ofMembers (read.reverse ++ sortedMembers members))).run rest := by
  match members with
  | [] =>
    rw [sortedMembers, List.append_nil]
    rfl
  | (name, value) :: members =>
    rw [areIntegralMembers, Bool.and_eq_true] at h
    have hvalue : Reads (.object read name :: stack) value.chars value.sorted :=
      reads_chars value h.1 (by rw [List.length_cons]; omega)
    have hcomma (more : Bytes) : Reading.run ⟨stack, .afterMember read⟩ (0x2C :: 0x22 :: more) =
        Reading.run ⟨stack, .text (.name read) .plain []⟩ more := rfl
    rw [bytesOf_nextMember]
    simp only [List.cons_append, List.append_assoc]
    rw [hcomma, run_member hvalue (closes_members members rest), run_members members h.2 hroom,
      List.reverse_cons, List.append_assoc]
    rfl

end

/-- A document of integers is read from its compact text with its members in order. So `ofBytes`
undoes `render` up to the order of members and repeated names. -/
theorem ofBytes_render {document : Json} (h : isIntegral depthLimit document = true) :
    ofBytes (Utf8.encode document.render) = .ok document.sorted := by
  have hbytes : Utf8.encode document.render = bytesOf document.chars ++ [] := by
    rw [Utf8.encode, render, String.toList_ofList, List.append_nil]
    rfl
  have hreads : Reads [] document.chars document.sorted := reads_chars document h (by simp)
  rw [ofBytes, hbytes, hreads.run_value (fun b hb => by cases hb)]
  rfl

/-! ### Documents in order -/

/-- Members that stand in ascending order are sorted already, and no two of them are joined. -/
theorem sortMembers_of_ascending {members : List (String × Json)}
    (h : members.Pairwise fun a b => a.1 < b.1) : sortMembers members = members := by
  have hsorted : members.mergeSort (fun a b => !decide (b.1 < a.1)) = members := by
    apply List.mergeSort_of_pairwise
    refine h.imp fun {a b} hab => ?_
    simpa using String.lt_asymm hab
  rw [sortMembers, hsorted]
  clear hsorted
  induction members with
  | nil => rfl
  | cons member members ih =>
    obtain ⟨hfirst, hrest⟩ := List.pairwise_cons.mp h
    rw [List.foldr_cons, ih hrest]
    cases members with
    | nil => rfl
    | cons next members =>
      have hne : member.1 ≠ next.1 := String.ne_of_lt (hfirst next List.mem_cons_self)
      exact if_neg hne

mutual

/-- Whether the members of every object stand in ascending order of their names, each name once. It
is what `isOrdered_of_ofBytes` finds true of all documents that were read. -/
def isOrdered : Json → Bool
  | .array items => areOrdered items
  | .object members =>
    decide (members.Pairwise fun a b => a.1 < b.1) && areOrderedMembers members
  | _ => true

/-- Whether all items are in order, each with whatever it holds. -/
def areOrdered : List Json → Bool
  | [] => true
  | item :: items => isOrdered item && areOrdered items

/-- Whether all values are in order, each with whatever it holds. The names are compared in
`isOrdered` itself. -/
def areOrderedMembers : List (String × Json) → Bool
  | [] => true
  | (_, value) :: members => isOrdered value && areOrderedMembers members

end

mutual

/-- Sorting leaves a document alone that is in order. The recursion follows that of `Json.sorted`.
-/
theorem sorted_of_isOrdered (document : Json) (h : isOrdered document = true) :
    document.sorted = document := by
  match document with
  | .null | .bool _ | .string _ | .number _ => rfl
  | .array items =>
    rw [isOrdered] at h
    rw [sorted, sortedItems_of_areOrdered items h]
  | .object members =>
    rw [isOrdered, Bool.and_eq_true] at h
    rw [sorted, sortedMembers_of_areOrdered members h.2, ofMembers,
      sortMembers_of_ascending (of_decide_eq_true h.1)]

/-- Sorting leaves items alone that are in order. -/
theorem sortedItems_of_areOrdered (items : List Json) (h : areOrdered items = true) :
    sortedItems items = items := by
  match items with
  | [] => rfl
  | item :: items =>
    rw [areOrdered, Bool.and_eq_true] at h
    rw [sortedItems, sorted_of_isOrdered item h.1, sortedItems_of_areOrdered items h.2]

/-- Sorting leaves the values of members alone that are in order; the members stay where they stand.
-/
theorem sortedMembers_of_areOrdered (members : List (String × Json))
    (h : areOrderedMembers members = true) : sortedMembers members = members := by
  match members with
  | [] => rfl
  | (name, value) :: members =>
    rw [areOrderedMembers, Bool.and_eq_true] at h
    rw [sortedMembers, sorted_of_isOrdered value h.1, sortedMembers_of_areOrdered members h.2]

end

/-- A document of integers whose members are in order is read from its compact text as it is. These
are the documents for which writing and reading lose nothing. -/
theorem ofBytes_render_of_isOrdered {document : Json} (h : isIntegral depthLimit document = true)
    (hordered : isOrdered document = true) :
    ofBytes (Utf8.encode document.render) = .ok document := by
  rw [ofBytes_render h, sorted_of_isOrdered document hordered]

end LspSession.Json
