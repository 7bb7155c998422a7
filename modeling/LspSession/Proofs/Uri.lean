import LspSession.Uri
import LspSession.Proofs.Outcome

/-!
# `LspSession.Proofs.Uri`: which path the address of a file denotes

The address of a file is the scheme `file`, an empty authority and a path. A component of a URI is
spelled with the characters that it may hold, and with percent signs that two hexadecimal digits
follow. `scan` takes as much of a component as is `Spelled` so, no more and no less
(`scan_of_spelled` and `eq_append_of_scan`).

`denotesFile_iff` says which path an address denotes that was made by writing a path behind
`file://` as it is. It denotes one if the path spells a component, and then the one that the
spelling stands for. That is the path itself exactly if the path holds nothing but characters of a
component (`denotesFile_self_iff`): every percent sign of a spelling stands in front of three bytes
of the path and for one of what is denoted.
-/

set_option autoImplicit false

namespace LspSession.Uri

variable {allowed : UInt8 → Bool}

/-- The text of a URI reference is read as that reference, because `Uri` carries the proof that it
is one. -/
theorem ofText_text (uri : Uri) : ofText uri.text = .ok uri := by
  unfold ofText
  split
  · rfl
  · next fault hread =>
    have hvalid := uri.valid
    rw [isReference, hread] at hvalid
    cases hvalid

/-! ### Spellings -/

/-- Bytes that spell a component: characters that it may hold (`allowed`), and percent signs that
two hexadecimal digits follow. -/
inductive Spelled (allowed : UInt8 → Bool) : Bytes → Prop where
  | nil : Spelled allowed []
  | char {c : UInt8} {rest : Bytes} (hc : allowed c = true) (hplain : c ≠ 0x25)
      (h : Spelled allowed rest) :
    Spelled allowed (c :: rest)
  | octet {a b : UInt8} {rest : Bytes} (ha : isHexDigit a = true) (hb : isHexDigit b = true)
      (h : Spelled allowed rest) :
    Spelled allowed (0x25 :: a :: b :: rest)

/-- A character that is no percent sign is taken if it is allowed, and ends the run if not. A run
that ends is no error of `scan`. -/
theorem scan_cons {c : UInt8} (hplain : c ≠ 0x25) (index : Nat) (rest : Bytes) :
    scan allowed index (c :: rest) =
      if allowed c then
        (scan allowed (index + 1) rest).map fun (taken, rest) => (c :: taken, rest)
      else .ok ([], c :: rest) := by
  rw [scan.eq_def]
  split
  · next h => cases h
  · next h =>
    cases h
    exact absurd rfl hplain
  · next h =>
    cases h
    rw [if_neg hplain]

/-- What spells a component is taken whole by `scan`, up to a character that it may not hold or to
the end of the text. -/
theorem scan_of_spelled {run rest : Bytes} (h : Spelled allowed run)
    (hrest : ∀ b ∈ rest.head?, b ≠ 0x25 ∧ allowed b = false) (index : Nat) :
    scan allowed index (run ++ rest) = .ok (run, rest) := by
  induction h generalizing index with
  | nil =>
    cases rest with
    | nil => rfl
    | cons b rest =>
      obtain ⟨hplain, hb⟩ := hrest b rfl
      rw [List.nil_append, scan_cons hplain, hb]
      rfl
  | char hc hplain _ ih =>
    rw [List.cons_append, scan_cons hplain, if_pos hc, ih]
    rfl
  | octet ha hb _ ih =>
    rw [List.cons_append, List.cons_append, List.cons_append, scan, ha, hb, ih]
    rfl

/-- What `scan` takes stands in front of what it leaves, and spells a component. -/
theorem eq_append_of_scan {index : Nat} {text run rest : Bytes}
    (h : scan allowed index text = .ok (run, rest)) :
    text = run ++ rest ∧ Spelled allowed run := by
  fun_induction scan allowed index text generalizing run rest with
  | case1 =>
    cases h
    exact ⟨rfl, .nil⟩
  | case2 index a b text hdigits ih =>
    obtain ⟨ha, hb⟩ := Bool.and_eq_true_iff.mp hdigits
    cases htaken : scan allowed (index + 3) text with
    | error e =>
      rw [htaken] at h
      cases h
    | ok result =>
      rw [htaken] at h
      cases h
      obtain ⟨htext, hspelled⟩ := ih htaken
      exact ⟨by rw [htext]; rfl, .octet ha hb hspelled⟩
  | case3 => cases h
  | case4 => cases h
  | case5 index c text _ hplain hc ih =>
    cases htaken : scan allowed (index + 1) text with
    | error e =>
      rw [htaken] at h
      cases h
    | ok result =>
      rw [htaken] at h
      cases h
      obtain ⟨htext, hspelled⟩ := ih htaken
      exact ⟨by rw [htext]; rfl, .char hc hplain hspelled⟩
  | case6 index c text _ hplain hc =>
    cases h
    exact ⟨rfl, .nil⟩

/-! ### What a spelling stands for -/

/-- A byte that is no percent sign stands for itself, and `percentDecode` goes on behind it. -/
theorem percentDecode_cons {c : UInt8} (hplain : c ≠ 0x25) (rest : Bytes) :
    percentDecode (c :: rest) = c :: percentDecode rest := by
  rw [percentDecode.eq_def]
  split
  · next h =>
    cases h
    exact absurd rfl hplain
  · next h =>
    cases h
    rfl
  · next h => cases h

/-- A spelling is no shorter than what it stands for: an octet has three bytes and stands for one.
-/
theorem length_percentDecode_le (text : Bytes) : (percentDecode text).length ≤ text.length := by
  fun_induction percentDecode text with
  | case1 a b rest value ih =>
    simp only [List.length_cons]
    omega
  | case2 c rest _ ih =>
    simp only [List.length_cons]
    omega
  | case3 => exact Nat.le_refl 0

/-- A spelling stands for itself exactly if it is made of characters of the component, provided that
the percent sign is none of these. -/
theorem Spelled.percentDecode_eq_self_iff {text : Bytes} (h : Spelled allowed text)
    (hpercent : allowed 0x25 = false) :
    percentDecode text = text ↔ ∀ b ∈ text, allowed b = true := by
  induction h with
  | nil => exact iff_of_true rfl fun b hb => nomatch hb
  | char hc hplain _ ih =>
    rw [percentDecode_cons hplain, List.cons_inj_right, ih, List.forall_mem_cons, hc]
    exact (and_iff_right rfl).symm
  | @octet a b rest _ _ _ _ =>
    -- Three bytes stand for one, so the spelling is longer than what it stands for.
    refine iff_of_false (fun heq => ?_) fun hall => ?_
    · have hlength := congrArg List.length heq
      have hle := length_percentDecode_le rest
      simp only [percentDecode, List.length_cons] at hlength
      omega
    · rw [hall _ List.mem_cons_self] at hpercent
      cases hpercent

/-- Characters of a component spell it, and stand for themselves, as `allowed` does not hold of the
percent sign. -/
theorem spelled_of_forall {text : Bytes} (hpercent : allowed 0x25 = false)
    (h : ∀ b ∈ text, allowed b = true) : Spelled allowed text := by
  induction text with
  | nil => exact .nil
  | cons c rest ih =>
    obtain ⟨hc, hrest⟩ := List.forall_mem_cons.mp h
    refine .char hc (fun heq => ?_) (ih hrest)
    rw [heq, hpercent] at hc
    cases hc

/-! ### Addresses of files -/

/-- The text is the address of a file: a URI whose scheme is `file` and whose authority is empty,
without query and fragment. Its path stands for the given one. -/
def DenotesFile (text : String) (path : Bytes) : Prop :=
  ∃ spelling, components (Utf8.encode text) =
      .ok ⟨some (Utf8.encode "file"), some [], spelling, none, none⟩ ∧
    percentDecode spelling = path

/-- A component that is not there leaves the text as it is: `readMarked` takes nothing unless the
mark stands in front. -/
theorem eq_of_readMarked_none {mark : UInt8} {index : Nat} {text rest : Bytes}
    (h : readMarked mark index text = .ok (none, rest)) : rest = text := by
  cases text with
  | nil =>
    cases h
    rfl
  | cons b text =>
    rw [readMarked] at h
    split at h
    · cases hscan : scan isQueryChar (index + 1) text <;>
        · rw [hscan] at h
          cases h
    · cases h
      rfl

/-- There is neither query nor fragment exactly if the text is at its end. Anything else behind a
path is one of the two, or an error. -/
theorem readTail_eq_none_iff {index : Nat} {text : Bytes} :
    readTail index text = .ok (none, none) ↔ text = [] := by
  constructor
  · intro h
    simp only [readTail, bind_eq_ok_iff] at h
    obtain ⟨⟨query, rest⟩, hquery, ⟨fragment, left⟩, hfragment, h⟩ := h
    split at h
    · next hend =>
      cases h
      have hrest := eq_of_readMarked_none hfragment
      have htext := eq_of_readMarked_none hquery
      exact htext.symm.trans (hrest.symm.trans hend)
    · cases h
  · rintro rfl
    rfl

/-- An absolute path behind `file://` is read as the path of the address, with what follows it. The
scheme ends at its colon, and the authority at the slash of the path before it has begun. -/
theorem components_file (rest : Bytes) :
    components (Utf8.encode "file://" ++ 0x2F :: rest) =
      (do
        let (path, rest) ← scan isPathChar 7 (0x2F :: rest)
        if path ≠ [] ∧ path.head? ≠ some 0x2F then .error (.unexpectedCharacter 7)
        else
          let (query, fragment) ← readTail (7 + path.length) rest
          return ⟨some (Utf8.encode "file"), some [], path, query, fragment⟩) := by
  let after : Bytes := 0x2F :: 0x2F :: 0x2F :: rest
  have htext : Utf8.encode "file://" ++ 0x2F :: rest = Utf8.encode "file" ++ 0x3A :: after := by
    have hfront : Utf8.encode "file://" = Utf8.encode "file" ++ [0x3A, 0x2F, 0x2F] := by
      decide +kernel
    rw [hfront, List.append_assoc]
    rfl
  have hscheme : ∀ b ∈ Utf8.encode "file", isSchemeChar b = true := by decide +kernel
  have hcolon : ¬ isSchemeChar 0x3A = true := by decide +kernel
  have hstart : (Utf8.encode "file" ++ 0x3A :: after).takeWhile isSchemeChar =
      Utf8.encode "file" := by
    rw [List.takeWhile_append_of_pos hscheme, List.takeWhile_cons_of_neg hcolon, List.append_nil]
  have hrest : (Utf8.encode "file" ++ 0x3A :: after).dropWhile isSchemeChar = 0x3A :: after := by
    rw [List.dropWhile_append_of_pos hscheme, List.dropWhile_cons_of_neg hcolon]
  have hletter : ((Utf8.encode "file").head?.map isLetter).getD false = true := by decide +kernel
  -- A slash ends the authority before it has begun.
  have hauthority : readAuthority 7 (0x2F :: rest) = .ok ([], 0x2F :: rest) := by
    have hscan : scan isAuthorityChar 7 (0x2F :: rest) = .ok ([], 0x2F :: rest) := by
      rw [scan_cons (by decide), show isAuthorityChar 0x2F = false by decide +kernel]
      rfl
    rw [readAuthority, hscan]
    rfl
  have hlength : (Utf8.encode "file").length = 4 := by decide +kernel
  have hread : components (Utf8.encode "file" ++ 0x3A :: after) =
      readAfterAuthority (some (Utf8.encode "file")) 7 (0x2F :: rest) := by
    simp only [components, hstart, hrest, hletter, hlength, after, if_true]
  rw [htext, hread, readAfterAuthority, hauthority]
  rfl

/-- An absolute path that is written behind `file://` makes an address exactly if it spells a
component, and the address denotes what the spelling stands for. -/
theorem denotesFile_iff {path : String} {rest target : Bytes}
    (h : Utf8.encode path = 0x2F :: rest) :
    DenotesFile ("file://" ++ path) target ↔
      Spelled isPathChar (Utf8.encode path) ∧ percentDecode (Utf8.encode path) = target := by
  unfold DenotesFile
  rw [Utf8.encode_append, h, components_file]
  constructor
  · rintro ⟨spelling, hread, rfl⟩
    obtain ⟨⟨found, left⟩, hscan, hread⟩ := bind_eq_ok_iff.mp hread
    simp only at hread
    split at hread
    · cases hread
    · obtain ⟨⟨query, fragment⟩, htail, hread⟩ := bind_eq_ok_iff.mp hread
      cases hread
      -- Without query and fragment nothing follows the path, so all of it was taken.
      obtain ⟨htext, hspelled⟩ := eq_append_of_scan hscan
      rw [readTail_eq_none_iff.mp htail, List.append_nil] at htext
      rw [htext]
      exact ⟨hspelled, rfl⟩
  · rintro ⟨hspelled, rfl⟩
    have hend : ∀ b ∈ ([] : Bytes).head?, b ≠ 0x25 ∧ isPathChar b = false := nofun
    have hscan := scan_of_spelled hspelled hend 7
    rw [List.append_nil] at hscan
    refine ⟨0x2F :: rest, ?_, rfl⟩
    rw [hscan]
    rfl

/-- A path of characters of a component is what its address denotes, and nothing else is. Such a
path needs no percent signs. -/
theorem denotesFile_iff_of_forall {path : String} {rest target : Bytes}
    (h : Utf8.encode path = 0x2F :: rest) (hall : ∀ b ∈ Utf8.encode path, isPathChar b = true) :
    DenotesFile ("file://" ++ path) target ↔ Utf8.encode path = target := by
  have hpercent : isPathChar 0x25 = false := by decide +kernel
  have hspelled := spelled_of_forall hpercent hall
  rw [denotesFile_iff h, (hspelled.percentDecode_eq_self_iff hpercent).mpr hall]
  exact and_iff_right hspelled

/-- The address denotes the path itself exactly if the path holds nothing but characters of a
component. A path with a percent sign in it denotes another one, or makes no address. -/
theorem denotesFile_self_iff {path : String} {rest : Bytes} (h : Utf8.encode path = 0x2F :: rest) :
    DenotesFile ("file://" ++ path) (Utf8.encode path) ↔
      ∀ b ∈ Utf8.encode path, isPathChar b = true := by
  have hpercent : isPathChar 0x25 = false := by decide +kernel
  constructor
  · intro hdenotes
    obtain ⟨hspelled, hself⟩ := (denotesFile_iff h).mp hdenotes
    exact (hspelled.percentDecode_eq_self_iff hpercent).mp hself
  · intro hall
    exact (denotesFile_iff_of_forall h hall).mpr rfl

end LspSession.Uri
