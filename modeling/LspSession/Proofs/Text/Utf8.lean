import LspSession.Text.Utf8

/-!
# `LspSession.Proofs.Text.Utf8`: reading characters undoes writing them

`decodeChars` walks over bytes and carries at most one unfinished character along. `encodeChar`
writes a character at once. `decodeChars_eq_ok_iff` joins the two: bytes are read as characters
exactly if they are what writing these characters gives. So there is one way to spell a text, and
nothing else is read.

A character above `0x7F` is a lead byte and one to three tail bytes, and each tail byte carries six
bits of its code. The tail is the same for every lead (`decodeFrom_tailBytes` and
`exists_of_decodeFrom_some`). What a lead says of the bits in front and of the first tail byte is
exactly that the code needs so many bytes and is a character (`encodeChar_of_ofLead` and
`exists_ofLead`).
-/

set_option autoImplicit false

namespace LspSession.Utf8

/-! ### Tail bytes -/

/-- The tail byte that carries the six bits of a code above its last `k` times six bits. Its own two
high bits are `10`. -/
def tailByte (n k : Nat) : UInt8 := UInt8.ofNat (0x80 + n / Nat.pow 64 k % 64)

/-- The last tail bytes of a code, as many as the second number says, with the least significant
bits in the last of them. -/
def tailBytes (n : Nat) : Nat → Bytes
  | 0 => []
  | k + 1 => tailByte n k :: tailBytes n k

/-- The value of a tail byte, which is below `0xC0`, so nothing is cut off in making it a byte. -/
theorem toNat_tailByte (n k : Nat) : (tailByte n k).toNat = 0x80 + n / Nat.pow 64 k % 64 := by
  have hlt : n / Nat.pow 64 k % 64 < 64 := Nat.mod_lt _ (by decide)
  have hsize : 0x80 + n / Nat.pow 64 k % 64 < 0x100 := by omega
  exact UInt8.toNat_ofNat_of_lt' hsize

/-- Tail bytes are above the bytes of ASCII characters, so no such character is found inside another
one. -/
theorem le_of_mem_tailBytes {b : UInt8} {n k : Nat} (h : b ∈ tailBytes n k) : 0x80 ≤ b.toNat := by
  induction k with
  | zero => cases h
  | succ k ih =>
    rcases List.mem_cons.mp h with rfl | h
    · rw [toNat_tailByte]
      omega
    · exact ih h

/-- The bits in front of a tail byte and those that it carries are the bits in front of the next
one. This is the step of `decodeFrom` for a tail byte, on the code as a number. -/
theorem div_eq_of_div_succ {n k bits : Nat} (h : n / Nat.pow 64 (k + 1) = bits) :
    bits * 0x40 + n / Nat.pow 64 k % 64 = n / Nat.pow 64 k := by
  have hpow : Nat.pow 64 (k + 1) = Nat.pow 64 k * 64 := rfl
  rw [hpow, ← Nat.div_div_eq_div_mul] at h
  omega

/-- A tail that fits the character under way ends it. Only the first of its bytes may be confined to
a narrower range than the others, so `low` and `high` speak of that one. -/
theorem decodeFrom_tailBytes {n bits owed low high : Nat} (read start : Nat) (done : List Char)
    (rest : Bytes) (hbits : n / Nat.pow 64 (owed + 1) = bits)
    (hlow : low ≤ (tailByte n owed).toNat) (hhigh : (tailByte n owed).toNat ≤ high) :
    ∃ start', decodeFrom (some ⟨bits, read, owed, low, high⟩) start done
        (tailBytes n (owed + 1) ++ rest) =
      decodeFrom none start' (Char.ofNat n :: done) rest := by
  -- Behind the first tail byte the range is the full one, which every tail byte fits.
  induction owed generalizing bits read low high with
  | zero =>
    refine ⟨start + read + 1, ?_⟩
    have hone : n / Nat.pow 64 0 = n := Nat.div_one n
    have hnext := div_eq_of_div_succ hbits
    rw [tailBytes, tailBytes, List.cons_append, List.nil_append, decodeFrom, if_pos ⟨hlow, hhigh⟩]
    rw [hone] at hnext
    simp only [toNat_tailByte, Nat.add_sub_cancel_left, hone, hnext]
  | succ owed ih =>
    have hnext := div_eq_of_div_succ hbits
    have hlt : n / Nat.pow 64 owed % 64 < 64 := Nat.mod_lt _ (by decide)
    rw [tailBytes, List.cons_append, decodeFrom, if_pos ⟨hlow, hhigh⟩]
    simp only [toNat_tailByte, Nat.add_sub_cancel_left, hnext]
    have hlow' : 0x80 ≤ (tailByte n owed).toNat := by
      rw [toNat_tailByte]
      omega
    have hhigh' : (tailByte n owed).toNat ≤ 0xBF := by
      rw [toNat_tailByte]
      omega
    exact ih (read + 1) rfl hlow' hhigh'

/-- A byte within the range of tail bytes carries its distance from `0x80`, the first of them. -/
theorem eq_tailByte {b : UInt8} {n k : Nat} (hlow : 0x80 ≤ b.toNat)
    (hbits : n / Nat.pow 64 k % 64 = b.toNat - 0x80) : b = tailByte n k := by
  apply UInt8.toNat_inj.mp
  rw [toNat_tailByte, hbits]
  omega

/-- What is read on from a character under way starts with a tail that fits it. This is the converse
of `decodeFrom_tailBytes`. -/
theorem exists_of_decodeFrom_some {bits read owed low high start : Nat} {done cs : List Char}
    {bytes : Bytes} (hlow : 0x80 ≤ low) (hhigh : high ≤ 0xBF)
    (h : decodeFrom (some ⟨bits, read, owed, low, high⟩) start done bytes = .ok cs) :
    ∃ n rest start', n / Nat.pow 64 (owed + 1) = bits ∧
      low ≤ (tailByte n owed).toNat ∧ (tailByte n owed).toNat ≤ high ∧
      bytes = tailBytes n (owed + 1) ++ rest ∧
      decodeFrom none start' (Char.ofNat n :: done) rest = .ok cs := by
  induction owed generalizing bits read low high bytes with
  | zero =>
    cases bytes with
    | nil => cases h
    | cons b rest =>
      rw [decodeFrom] at h
      split at h
      · next hin =>
        simp only at hin h
        obtain ⟨hin₁, hin₂⟩ := hin
        have hone : Nat.pow 64 0 = 1 := rfl
        have hbyte : b = tailByte (bits * 0x40 + (b.toNat - 0x80)) 0 :=
          eq_tailByte (by omega) (by rw [hone]; omega)
        refine ⟨bits * 0x40 + (b.toNat - 0x80), rest, _, ?_, ?_, ?_, ?_, h⟩
        · show (bits * 0x40 + (b.toNat - 0x80)) / 64 = bits
          omega
        · rw [← hbyte]
          exact hin₁
        · rw [← hbyte]
          exact hin₂
        · rw [tailBytes, tailBytes, ← hbyte]
          rfl
      · cases h
  | succ owed ih =>
    cases bytes with
    | nil => cases h
    | cons b rest =>
      rw [decodeFrom] at h
      split at h
      · next hin =>
        simp only at hin h
        obtain ⟨hin₁, hin₂⟩ := hin
        obtain ⟨n, rest', start', hbits, -, -, hrest, hcs⟩ := ih (by decide) (by decide) h
        -- The bits that the rest leaves in front are those so far and those of this byte.
        have hbyte : b = tailByte n (owed + 1) :=
          eq_tailByte (by omega) (by rw [hbits]; omega)
        refine ⟨n, rest', start', ?_, ?_, ?_, ?_, hcs⟩
        · show n / (Nat.pow 64 (owed + 1) * 64) = bits
          rw [← Nat.div_div_eq_div_mul, hbits]
          omega
        · rw [← hbyte]
          exact hin₁
        · rw [← hbyte]
          exact hin₂
        · rw [tailBytes, ← hbyte, hrest]
          rfl
      · cases h

/-! ### Lead bytes -/

/-- The lead of two bytes, `110xxxxx`. The first two leads of this form are missing, since the codes
under them need one byte only. -/
theorem ofLead_two : ∀ x < 32, 2 ≤ x →
    Unfinished.ofLead (0xC0 + x) = some ⟨x, 1, 0, 0x80, 0xBF⟩ := by
  decide

/-- The lead of three bytes, `1110xxxx`. The narrower ranges of the first tail byte leave out codes
that need fewer bytes, and surrogates. -/
theorem ofLead_three : ∀ x < 16, Unfinished.ofLead (0xE0 + x) =
    some ⟨x, 1, 1, if x = 0 then 0xA0 else 0x80, if x = 0xD then 0x9F else 0xBF⟩ := by
  decide

/-- The lead of four bytes, `11110xxx`. The narrower ranges of the first tail byte leave out codes
that need fewer bytes, and those beyond the last. -/
theorem ofLead_four : ∀ x < 5, Unfinished.ofLead (0xF0 + x) =
    some ⟨x, 1, 2, if x = 0 then 0x90 else 0x80, if x = 4 then 0x8F else 0xBF⟩ := by
  decide

/-- There are no other leads than those of `ofLead_two`, `ofLead_three` and `ofLead_four`. -/
theorem lead_cases {m : Nat} {u : Unfinished} (h : Unfinished.ofLead m = some u) :
    (∃ x, m = 0xC0 + x ∧ x < 32 ∧ 2 ≤ x) ∨ (∃ x, m = 0xE0 + x ∧ x < 16) ∨
      ∃ x, m = 0xF0 + x ∧ x < 5 := by
  have hrange : 0xC2 ≤ m ∧ m ≤ 0xF4 := by
    unfold Unfinished.ofLead at h
    repeat' split at h
    all_goals first | omega | cases h
  rcases Nat.lt_or_ge m 0xE0 with h₁ | h₁
  · exact Or.inl ⟨m - 0xC0, by omega, by omega, by omega⟩
  · rcases Nat.lt_or_ge m 0xF0 with h₂ | h₂
    · exact Or.inr (Or.inl ⟨m - 0xE0, by omega, by omega⟩)
    · exact Or.inr (Or.inr ⟨m - 0xF0, by omega, by omega⟩)

/-- A code that is a character is the code of its character, so `Char.ofNat` does not fall back on
another one. -/
theorem toNat_ofNat {n : Nat} (h : n < 0xD800 ∨ 0xDFFF < n ∧ n < 0x110000) :
    (Char.ofNat n).toNat = n := by
  rw [Char.ofNat, dif_pos h]
  rfl

/-- The code of a character is no surrogate and not beyond the last. -/
theorem toNat_range (c : Char) : c.toNat < 0xD800 ∨ 0xDFFF < c.toNat ∧ c.toNat < 0x110000 :=
  c.valid

/-- A character of one byte, which is its code. -/
theorem encodeChar_one {c : Char} (h : c.toNat < 0x80) : encodeChar c = [UInt8.ofNat c.toNat] := by
  unfold encodeChar
  rw [if_pos h]

/-- A text of ASCII characters is written with one byte for each, so places in the text are places
in the bytes. -/
theorem flatMap_encodeChar_of_ascii {cs : List Char} (h : ∀ c ∈ cs, c.toNat < 0x80) :
    cs.flatMap encodeChar = cs.map fun c => UInt8.ofNat c.toNat := by
  induction cs with
  | nil => rfl
  | cons c cs ih =>
    obtain ⟨hc, hcs⟩ := List.forall_mem_cons.mp h
    rw [List.flatMap_cons, encodeChar_one hc, ih hcs]
    rfl

/-- A character of two bytes: the bits of the lead and one tail byte. -/
theorem encodeChar_two {c : Char} (hlow : 0x80 ≤ c.toNat) (hhigh : c.toNat < 0x800) :
    encodeChar c = UInt8.ofNat (0xC0 + c.toNat / 0x40) :: tailBytes c.toNat 1 := by
  unfold encodeChar
  rw [if_neg (by omega), if_pos hhigh]
  simp only [tailBytes, tailByte, Nat.pow_eq, Nat.pow_zero, Nat.div_one]

/-- A character of three bytes: the bits of the lead and two tail bytes. -/
theorem encodeChar_three {c : Char} (hlow : 0x800 ≤ c.toNat) (hhigh : c.toNat < 0x10000) :
    encodeChar c = UInt8.ofNat (0xE0 + c.toNat / 0x1000) :: tailBytes c.toNat 2 := by
  unfold encodeChar
  rw [if_neg (by omega), if_neg (by omega), if_pos hhigh]
  simp only [tailBytes, tailByte, Nat.pow_eq, Nat.pow_zero, Nat.div_one, Nat.pow_one]

/-- A character of four bytes: the bits of the lead and three tail bytes. -/
theorem encodeChar_four {c : Char} (hlow : 0x10000 ≤ c.toNat) :
    encodeChar c = UInt8.ofNat (0xF0 + c.toNat / 0x40000) :: tailBytes c.toNat 3 := by
  unfold encodeChar
  rw [if_neg (by omega), if_neg (by omega), if_neg (by omega)]
  simp only [tailBytes, tailByte, Nat.pow_eq, Nat.pow_zero, Nat.div_one, Nat.pow_one]

/-- A lead byte and a tail that fits it are a character, and `encodeChar` writes it with just these
bytes. That is where the narrower ranges are needed. -/
theorem encodeChar_of_ofLead {b : UInt8} {n bits read owed low high : Nat}
    (hlead : Unfinished.ofLead b.toNat = some ⟨bits, read, owed, low, high⟩)
    (hbits : n / Nat.pow 64 (owed + 1) = bits)
    (hlow : low ≤ (tailByte n owed).toNat) (hhigh : (tailByte n owed).toNat ≤ high) :
    encodeChar (Char.ofNat n) = b :: tailBytes n (owed + 1) := by
  have hpow₁ : Nat.pow 64 1 = 64 := rfl
  have hpow₂ : Nat.pow 64 2 = 4096 := rfl
  have hpow₃ : Nat.pow 64 3 = 262144 := rfl
  have hb {m : Nat} (h : b.toNat = m) : UInt8.ofNat m = b := by
    rw [← h, UInt8.ofNat_toNat]
  rw [toNat_tailByte] at hlow hhigh
  -- For each number of bytes the ranges keep the code within what that number is for.
  rcases lead_cases hlead with ⟨x, hx, hlt, hge⟩ | ⟨x, hx, hlt⟩ | ⟨x, hx, hlt⟩
  · rw [hx, ofLead_two x hlt hge] at hlead
    cases hlead
    rw [Nat.zero_add, hpow₁] at hbits
    have hn : (Char.ofNat n).toNat = n := toNat_ofNat (by omega)
    rw [encodeChar_two (by omega) (by omega), hn, hb (by omega)]
  · rw [hx, ofLead_three x hlt] at hlead
    cases hlead
    rw [hpow₂] at hbits
    rw [hpow₁] at hlow hhigh
    have hn : (Char.ofNat n).toNat = n := toNat_ofNat (by split at hhigh <;> omega)
    rw [encodeChar_three (by split at hlow <;> omega) (by omega), hn, hb (by omega)]
  · rw [hx, ofLead_four x hlt] at hlead
    cases hlead
    rw [hpow₃] at hbits
    rw [hpow₂] at hlow hhigh
    have hge : 0x10000 ≤ n := by split at hlow <;> omega
    have hn : (Char.ofNat n).toNat = n := toNat_ofNat (by split at hhigh <;> omega)
    rw [encodeChar_four (by omega), hn, hb (by omega)]

/-- A character of more than one byte is a lead byte and a tail that fits it. The lead says how many
tail bytes are owed, and in which range the first of them lies. -/
theorem exists_ofLead (c : Char) (hc : 0x80 ≤ c.toNat) :
    ∃ (b : UInt8) (bits owed low high : Nat), 0x80 ≤ b.toNat ∧
      Unfinished.ofLead b.toNat = some ⟨bits, 1, owed, low, high⟩ ∧
      c.toNat / Nat.pow 64 (owed + 1) = bits ∧ low ≤ (tailByte c.toNat owed).toNat ∧
      (tailByte c.toNat owed).toNat ≤ high ∧
      encodeChar c = b :: tailBytes c.toNat (owed + 1) := by
  have hpow₁ : Nat.pow 64 1 = 64 := rfl
  have hpow₂ : Nat.pow 64 2 = 4096 := rfl
  have hrange := toNat_range c
  have hb (m : Nat) (h : m < 0x100) : (UInt8.ofNat m).toNat = m := UInt8.toNat_ofNat_of_lt' h
  simp only [toNat_tailByte]
  -- The number of bytes depends on the code, and the range of the first tail byte on the lead.
  rcases Nat.lt_or_ge c.toNat 0x800 with h₂ | h₂
  · have hbyte := hb (0xC0 + c.toNat / 0x40) (by omega)
    have hlead := ofLead_two (c.toNat / 0x40) (by omega) (by omega)
    rw [← hbyte] at hlead
    exact ⟨_, _, 0, _, _, by omega, hlead, rfl, by omega, by omega, encodeChar_two hc h₂⟩
  · rcases Nat.lt_or_ge c.toNat 0x10000 with h₃ | h₃
    · have hbyte := hb (0xE0 + c.toNat / 0x1000) (by omega)
      have hlead := ofLead_three (c.toNat / 0x1000) (by omega)
      rw [← hbyte] at hlead
      refine ⟨_, _, 1, _, _, by omega, hlead, rfl, ?_, ?_, encodeChar_three h₂ h₃⟩
      · rw [hpow₁]
        split <;> omega
      · rw [hpow₁]
        split <;> omega
    · have hbyte := hb (0xF0 + c.toNat / 0x40000) (by omega)
      have hlead := ofLead_four (c.toNat / 0x40000) (by omega)
      rw [← hbyte] at hlead
      refine ⟨_, _, 2, _, _, by omega, hlead, rfl, ?_, ?_, encodeChar_four h₃⟩
      · rw [hpow₂]
        split <;> omega
      · rw [hpow₂]
        split <;> omega

/-! ### Whole texts -/

/-- A written character is read, and reading goes on behind it with no character under way. -/
theorem decodeFrom_encodeChar (c : Char) (start : Nat) (done : List Char) (rest : Bytes) :
    ∃ start', decodeFrom none start done (encodeChar c ++ rest) =
      decodeFrom none start' (c :: done) rest := by
  rcases Nat.lt_or_ge c.toNat 0x80 with hone | hmore
  · have hcode : (UInt8.ofNat c.toNat).toNat = c.toNat := UInt8.toNat_ofNat_of_lt' (by
      show c.toNat < 0x100
      omega)
    have hlt : UInt8.ofNat c.toNat < 0x80 := by
      rw [UInt8.lt_iff_toNat_lt, hcode]
      exact hone
    refine ⟨start + 1, ?_⟩
    rw [encodeChar_one hone, List.cons_append, List.nil_append, decodeFrom, if_pos hlt, hcode,
      Char.ofNat_toNat]
  · obtain ⟨b, bits, owed, low, high, hb, hlead, hbits, hlow, hhigh, hbytes⟩ :=
      exists_ofLead c hmore
    obtain ⟨start', htail⟩ := decodeFrom_tailBytes 1 start done rest hbits hlow hhigh
    refine ⟨start', ?_⟩
    have hge : ¬ b < 0x80 := by
      rw [UInt8.lt_iff_toNat_lt]
      exact Nat.not_lt.mpr hb
    rw [hbytes, List.cons_append, decodeFrom, if_neg hge, hlead]
    simp only [htail, Char.ofNat_toNat]

/-- Bytes that are read start with a written character, unless there are none. This is the converse
of `decodeFrom_encodeChar`. -/
theorem exists_of_decodeFrom_none {start : Nat} {done cs : List Char} {bytes : Bytes}
    (h : decodeFrom none start done bytes = .ok cs) :
    (bytes = [] ∧ cs = done.reverse) ∨
      ∃ c rest start', bytes = encodeChar c ++ rest ∧
        decodeFrom none start' (c :: done) rest = .ok cs := by
  cases bytes with
  | nil =>
    cases h
    exact Or.inl ⟨rfl, rfl⟩
  | cons b rest =>
    right
    rw [decodeFrom] at h
    split at h
    · next hlt =>
      have hone : b.toNat < 0x80 := UInt8.lt_iff_toNat_lt.mp hlt
      have hcode : (Char.ofNat b.toNat).toNat = b.toNat := toNat_ofNat (by omega)
      refine ⟨Char.ofNat b.toNat, rest, _, ?_, h⟩
      rw [encodeChar_one (by omega), hcode, UInt8.ofNat_toNat]
      rfl
    · split at h
      · next u hlead =>
        obtain ⟨bits, read, owed, low, high⟩ := u
        have hrange : 0x80 ≤ low ∧ high ≤ 0xBF := by
          rcases lead_cases hlead with ⟨x, hx, hlt, hge⟩ | ⟨x, hx, hlt⟩ | ⟨x, hx, hlt⟩
          · rw [hx, ofLead_two x hlt hge] at hlead
            cases hlead
            decide
          · rw [hx, ofLead_three x hlt] at hlead
            cases hlead
            constructor <;> split <;> omega
          · rw [hx, ofLead_four x hlt] at hlead
            cases hlead
            constructor <;> split <;> omega
        obtain ⟨n, rest', start', hbits, hlow, hhigh, rfl, hcs⟩ :=
          exists_of_decodeFrom_some hrange.1 hrange.2 h
        refine ⟨Char.ofNat n, rest', start', ?_, hcs⟩
        rw [encodeChar_of_ofLead hlead hbits hlow hhigh]
        rfl
      · cases h

/-- Written characters are read, one after another, behind those that are `done`. -/
theorem decodeFrom_flatMap (cs : List Char) (start : Nat) (done : List Char) :
    decodeFrom none start done (cs.flatMap encodeChar) = .ok (done.reverse ++ cs) := by
  induction cs generalizing start done with
  | nil => rw [List.flatMap_nil, decodeFrom, List.append_nil]
  | cons c cs ih =>
    obtain ⟨start', hc⟩ := decodeFrom_encodeChar c start done (cs.flatMap encodeChar)
    rw [List.flatMap_cons, hc, ih, List.reverse_cons, List.append_assoc]
    rfl

/-- A character is written as one byte at least, so reading a character leaves fewer bytes. -/
theorem encodeChar_ne_nil (c : Char) : encodeChar c ≠ [] := by
  rcases Nat.lt_or_ge c.toNat 0x80 with hone | hmore
  · rw [encodeChar_one hone]
    exact List.cons_ne_nil _ _
  · obtain ⟨b, bits, owed, low, high, -, -, -, -, -, hbytes⟩ := exists_ofLead c hmore
    rw [hbytes]
    exact List.cons_ne_nil _ _

/-- Bytes that are read are written characters. The induction is on the number of bytes left, which
every character makes smaller. -/
theorem eq_flatMap_of_decodeFrom {start : Nat} {done cs : List Char} {bytes : Bytes}
    (h : decodeFrom none start done bytes = .ok cs) :
    ∃ more, cs = done.reverse ++ more ∧ bytes = more.flatMap encodeChar := by
  induction hlen : bytes.length using Nat.strongRecOn generalizing start done bytes with
  | ind length ih =>
    rcases exists_of_decodeFrom_none h with ⟨rfl, rfl⟩ | ⟨c, rest, start', rfl, hrest⟩
    · exact ⟨[], (List.append_nil _).symm, rfl⟩
    · have hpos := List.length_pos_iff.mpr (encodeChar_ne_nil c)
      rw [List.length_append] at hlen
      obtain ⟨more, hcs, hmore⟩ := ih rest.length (by omega) hrest rfl
      refine ⟨c :: more, ?_, ?_⟩
      · rw [hcs, List.reverse_cons, List.append_assoc]
        rfl
      · rw [hmore, List.flatMap_cons]

/-- Bytes are read as characters exactly if writing the characters gives the bytes. So `decodeChars`
inverts `encodeChar` and refuses whatever it does not write. -/
theorem decodeChars_eq_ok_iff {bytes : Bytes} {cs : List Char} :
    decodeChars bytes = .ok cs ↔ bytes = cs.flatMap encodeChar := by
  unfold decodeChars
  constructor
  · intro h
    obtain ⟨more, rfl, hbytes⟩ := eq_flatMap_of_decodeFrom h
    exact hbytes
  · rintro rfl
    exact decodeFrom_flatMap cs 0 []

/-- A text is read from what it is written as: `decode?` undoes `encode`. -/
theorem decode?_encode (s : String) : decode? (encode s) = some s := by
  have hread : decodeChars (encode s) = .ok s.toList := decodeChars_eq_ok_iff.mpr rfl
  rw [decode?, decode, hread]
  exact congrArg some (String.ofList_toList)

/-- The bytes of a character are its code, or all of them are above those of ASCII characters. So a
byte below `0x80` is always a character of its own. -/
theorem encodeChar_cases (c : Char) :
    (c.toNat < 0x80 ∧ encodeChar c = [UInt8.ofNat c.toNat]) ∨
      (0x80 ≤ c.toNat ∧ ∀ b ∈ encodeChar c, 0x80 ≤ b.toNat) := by
  rcases Nat.lt_or_ge c.toNat 0x80 with hone | hmore
  · exact Or.inl ⟨hone, encodeChar_one hone⟩
  · refine Or.inr ⟨hmore, fun b hb => ?_⟩
    obtain ⟨lead, bits, owed, low, high, hlead, -, -, -, -, hbytes⟩ := exists_ofLead c hmore
    rw [hbytes] at hb
    rcases List.mem_cons.mp hb with rfl | hb
    · exact hlead
    · exact le_of_mem_tailBytes hb

end LspSession.Utf8
