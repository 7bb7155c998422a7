import LspSession.Frame.Decode
import LspSession.Proofs.Text.Utf8
import LspSession.Proofs.Text.Blank
import LspSession.Proofs.Text.Decimal
import Mathlib.Data.List.Forall2
import Mathlib.Data.List.ReduceOption

/-!
# `LspSession.Proofs.Frame.Header`: which headers declare which length

`declaredLength` decodes a header, cuts it at line ends, cuts each line at its first colon, trims
both sides and reads a numeral. `Declares` says without any of these steps what a header is that
declares a length, and `declaredLength_eq_ok_iff` joins the two. Each step has its relation:
`HasLines` for the lines of a text, `IsField` for a line's name and value, `LineGives` for the
length that a line gives or does not give. The last length given is the one declared.
-/

set_option autoImplicit false

namespace LspSession.Frame

/-! ### Lines -/

/-- What ends a line of a header, a carriage return and a line feed. Either of the two alone is a
character of the line like any other. -/
def lineEnd : List Char := ['\r', '\n']

/-- A text is made of `lines`, at least one, with a `lineEnd` between any two and none within a
line. So a text that ends with a line end has an empty last line. -/
structure HasLines (text : List Char) (lines : List (List Char)) : Prop where
  nonempty : lines ≠ []
  joined : text = lineEnd.intercalate lines
  cut : ∀ line ∈ lines, ¬ lineEnd <:+: line

/-- A text without a line end goes into the line under way of `splitLinesFrom`, unless what follows
it completes a line end with its last character. The line under way is kept newest first, so the
text stands there in reverse. -/
theorem splitLinesFrom_append {text : List Char} (line : List Char) (lines : List (List Char))
    {rest : List Char} (h : ¬ lineEnd <:+: text) (hrest : rest.head? ≠ some '\n') :
    splitLinesFrom line lines (text ++ rest) =
      splitLinesFrom (text.reverse ++ line) lines rest := by
  induction text generalizing line with
  | nil => rfl
  | cons c text ih =>
    rw [List.infix_cons_iff, not_or] at h
    obtain ⟨hhere, hlater⟩ := h
    -- A line end that starts here is all in the text, or its second half is what follows the text.
    have hno : ∀ tail, c = '\r' → text ++ rest = '\n' :: tail → False := by
      rintro tail rfl heq
      cases text with
      | nil =>
        rw [List.nil_append] at heq
        exact hrest (by rw [heq]; rfl)
      | cons d text =>
        injection heq with hd
        exact hhere ⟨text, by rw [hd]; rfl⟩
    rw [List.cons_append, splitLinesFrom, ih _ hlater, List.reverse_cons, List.append_assoc]
    · rfl
    · exact hno

/-- Lines with a `lineEnd` between them are cut by `splitLinesFrom` where these stand. With `lines`
as they were before, newest first, the induction can go on behind a cut. -/
theorem splitLinesFrom_intercalate (lines : List (List Char)) {line : List Char}
    {more : List (List Char)} (h : ∀ l ∈ line :: more, ¬ lineEnd <:+: l) :
    splitLinesFrom [] lines (lineEnd.intercalate (line :: more)) =
      lines.reverse ++ line :: more := by
  induction more generalizing lines line with
  | nil =>
    -- The last line ends with the text, and nothing can complete a line end there.
    have hline := h line List.mem_cons_self
    rw [List.intercalate_singleton, ← List.append_nil line,
      splitLinesFrom_append [] lines hline (by simp)]
    simp [splitLinesFrom]
  | cons next more ih =>
    obtain ⟨hline, hmore⟩ := List.forall_mem_cons.mp h
    rw [List.intercalate_cons_cons, List.append_assoc,
      splitLinesFrom_append [] lines hline (by simp [lineEnd]), lineEnd, List.cons_append,
      List.cons_append, List.nil_append, splitLinesFrom, ← lineEnd, ih _ hmore]
    simp

/-- A line end in front of lines starts another, which is empty. It is one of the three steps in
which `splitLinesFrom` walks over a text. -/
theorem HasLines.of_lineEnd {rest : List Char} {lines : List (List Char)}
    (h : HasLines rest lines) : HasLines ('\r' :: '\n' :: rest) ([] :: lines) := by
  obtain ⟨hne, rfl, hcut⟩ := h
  obtain ⟨line, lines, rfl⟩ := List.exists_cons_of_ne_nil hne
  refine ⟨List.cons_ne_nil _ _, rfl, List.forall_mem_cons.mpr ⟨?_, hcut⟩⟩
  simp [lineEnd]

/-- A character in front of lines belongs to the first of them, unless it completes a line end
there, which would cut the text once more. -/
theorem HasLines.cons {c : Char} {rest line : List Char} {lines : List (List Char)}
    (h : HasLines rest (line :: lines)) (hno : ∀ tail, c = '\r' → rest = '\n' :: tail → False) :
    HasLines (c :: rest) ((c :: line) :: lines) := by
  obtain ⟨-, rfl, hcut⟩ := h
  obtain ⟨hline, hlines⟩ := List.forall_mem_cons.mp hcut
  refine ⟨List.cons_ne_nil _ _, List.intercalate_cons_cons_left.symm, ?_⟩
  refine List.forall_mem_cons.mpr ⟨?_, hlines⟩
  rw [List.infix_cons_iff, not_or]
  refine ⟨?_, hline⟩
  rintro ⟨tail, htail⟩
  injection htail with hc hrest
  refine hno (lineEnd.intercalate (tail :: lines)) hc.symm ?_
  rw [← hrest]
  exact List.intercalate_cons_cons_left

/-- Every text is made of lines: at the least of itself as the one line. The proof follows the walk
of `splitLinesFrom` and builds the lines on the way. -/
theorem exists_hasLines (text : List Char) : ∃ lines, HasLines text lines := by
  -- The cases are those of the cutting: no character, a line end, or a character of a line.
  refine splitLinesFrom.induct (fun _ _ text => ∃ lines, HasLines text lines)
    ?nothing ?lineEnd ?character [] [] text
  case nothing =>
    exact fun _ _ => ⟨[[]], List.cons_ne_nil _ _, rfl, by simp [lineEnd]⟩
  case lineEnd =>
    rintro - - rest ⟨lines, hlines⟩
    exact ⟨[] :: lines, hlines.of_lineEnd⟩
  case character =>
    rintro - - c rest hno ⟨lines, hlines⟩
    obtain ⟨line, lines, rfl⟩ := List.exists_cons_of_ne_nil hlines.nonempty
    exact ⟨(c :: line) :: lines, hlines.cons hno⟩

/-- The lines that `splitLines` cuts a text into are those it is made of, and there is no other way
to make it of lines. That is, `HasLines` is the graph of the function. -/
theorem splitLines_eq_iff {text : List Char} {lines : List (List Char)} :
    splitLines text = lines ↔ HasLines text lines := by
  have hcut {lines : List (List Char)} (h : HasLines text lines) : splitLines text = lines := by
    obtain ⟨hne, rfl, hcut⟩ := h
    obtain ⟨line, lines, rfl⟩ := List.exists_cons_of_ne_nil hne
    exact splitLinesFrom_intercalate [] hcut
  -- The lines the text is made of are those cut, so cutting gives lines it is made of.
  obtain ⟨made, hmade⟩ := exists_hasLines text
  refine ⟨?_, hcut⟩
  rintro rfl
  rwa [hcut hmade]

/-! ### Names and values -/

/-- A line is a name without a colon, a colon, and a value, which may have colons of its own. So the
cut is at the first colon, as `splitColon?` makes it. -/
def IsField (line name value : List Char) : Prop := line = name ++ ':' :: value ∧ ':' ∉ name

instance (line name value : List Char) : Decidable (IsField line name value) :=
  inferInstanceAs (Decidable (_ ∧ _))

/-- A line is cut by `splitColon?` at its first colon: into a name and a value exactly if it is the
two with a colon between them and none in the name. -/
theorem splitColon?_eq_some_iff {line name value : List Char} :
    splitColon? line = some (name, value) ↔ IsField line name value := by
  constructor
  · intro h
    unfold splitColon? at h
    split at h
    · cases h
    · next c rest hdrop =>
      cases h
      -- What is left over by `dropWhile` starts with the character that stopped it.
      have hc := List.head?_dropWhile_not (· ≠ ':') line
      rw [hdrop] at hc
      have hcolon : c = ':' := by simpa using hc
      subst hcolon
      refine ⟨?_, fun hmem => ?_⟩
      · rw [← hdrop]
        exact List.takeWhile_append_dropWhile.symm
      · simpa using List.all_eq_true.mp List.all_takeWhile _ hmem
  · rintro ⟨rfl, hname⟩
    have hall : ∀ c ∈ name, decide (c ≠ ':') = true := by
      intro c hc
      rw [decide_eq_true_eq]
      rintro rfl
      exact hname hc
    unfold splitColon?
    rw [List.dropWhile_append_of_pos hall, List.takeWhile_append_of_pos hall]
    simp

/-- A name, blanks around it apart, is that of the length in letters of either case. The comparison
is of ASCII letters only, as `Char.toLower` makes it. -/
def NamesLength (name : List Char) : Prop :=
  ∃ core, Text.Trims name core ∧ core.map Char.toLower = lengthName.toList.map Char.toLower

/-- The test `isLengthName` decides `NamesLength`: what is left of a name when it is trimmed is the
only `core` that there is to compare. -/
theorem isLengthName_iff {name : List Char} : isLengthName name = true ↔ NamesLength name := by
  unfold isLengthName equalsIgnoringCase
  rw [beq_iff_eq]
  constructor
  · intro h
    exact ⟨Text.trim name, Text.trims_trim name, h⟩
  · rintro ⟨core, htrims, hcore⟩
    rw [htrims.trim_eq, hcore]

instance (name : List Char) : Decidable (NamesLength name) :=
  decidable_of_iff (isLengthName name = true) isLengthName_iff

/-- A line gives a length, or it has another name and gives none. In the first case its value,
blanks around it apart, is a numeral of a number that a word holds. A line that is in neither case
is at fault (`LineFails`). -/
inductive LineGives : List Char → Option Nat → Prop
  | length {line name value numeral : List Char} {n : Nat} (field : IsField line name value)
      (named : NamesLength name) (trimmed : Text.Trims value numeral)
      (number : Decimal.IsNumeral numeral n) (fits : n ≤ sizeBound) : LineGives line (some n)
  | other {line name value : List Char} (field : IsField line name value)
      (unnamed : ¬ NamesLength name) : LineGives line none

/-- A line is read by `lineLength?` without a fault exactly if `LineGives` relates it to what was
read, and this is the one length, or none, that it gives. -/
theorem lineLength?_eq_ok_iff {line : List Char} {given : Option Nat} :
    lineLength? line = .ok given ↔ LineGives line given := by
  constructor
  · intro h
    unfold lineLength? at h
    split at h
    · cases h
    · next name value hfield =>
      have hfield := splitColon?_eq_some_iff.mp hfield
      split at h
      · next hname =>
        split at h
        · next n hn =>
          cases h
          obtain ⟨hnumber, hfits⟩ := Decimal.ofNumeralUpTo?_eq_some_iff.mp hn
          exact .length hfield (isLengthName_iff.mp hname) (Text.trims_trim value) hnumber hfits
        · cases h
      · next hname =>
        cases h
        exact .other hfield fun hnames => hname (isLengthName_iff.mpr hnames)
  · intro h
    cases h with
    | length field named trimmed number fits =>
      have hnumber := Decimal.ofNumeralUpTo?_eq_some_iff.mpr ⟨number, fits⟩
      simp only [lineLength?, splitColon?_eq_some_iff.mpr field, isLengthName_iff.mpr named,
        trimmed.trim_eq, hnumber, if_true]
    | other field unnamed =>
      have hname : isLengthName _ ≠ true := fun hname => unnamed (isLengthName_iff.mp hname)
      simp only [lineLength?, splitColon?_eq_some_iff.mpr field, if_neg hname]

/-! ### The length of a header -/

/-- The last length is found by `lastLength?` after every line was read. It is the last of the
lengths given, or the one `found` before these lines if they give none. -/
theorem lastLength?_eq_ok_iff {found last : Option Nat} {lines : List (List Char)} :
    lastLength? found lines = .ok last ↔
      ∃ given, List.Forall₂ LineGives lines given ∧
        last = given.reduceOption.getLast?.or found := by
  induction lines generalizing found with
  | nil =>
    simp only [lastLength?, List.forall₂_nil_left_iff, Except.ok.injEq, exists_eq_left]
    exact eq_comm
  | cons line lines ih =>
    -- A length given by this line holds unless a later line gives one, and it then holds over
    -- those found before.
    have hstep (g : Option Nat) (given : List (Option Nat)) :
        (g :: given).reduceOption.getLast?.or found =
          given.reduceOption.getLast?.or (g.or found) := by
      cases g with
      | none => rfl
      | some n =>
        rw [List.reduceOption_cons_of_some, List.getLast?_cons]
        cases given.reduceOption.getLast? <;> rfl
    constructor
    · intro h
      rw [lastLength?] at h
      split at h
      · cases h
      · next g hg =>
        obtain ⟨given, hgiven, rfl⟩ := ih.mp h
        exact ⟨g :: given, .cons (lineLength?_eq_ok_iff.mp hg) hgiven, (hstep g given).symm⟩
    · rintro ⟨given, hgiven, rfl⟩
      cases hgiven with
      | cons hg hgiven =>
        simp only [lastLength?, lineLength?_eq_ok_iff.mpr hg]
        exact ih.mpr ⟨_, hgiven, hstep _ _⟩

/-- A header declares a length: it is the UTF-8 text of lines that each have a colon, and the last
of the lengths that they give is that length. Nothing is asked of the other lines but the colon. -/
def Declares (header : Bytes) (length : Nat) : Prop :=
  ∃ text lines given, header = text.flatMap Utf8.encodeChar ∧ HasLines text lines ∧
    List.Forall₂ LineGives lines given ∧ given.reduceOption.getLast? = some length

/-- The length that `declaredLength` reads from the bytes of a header is the one that it declares.
So a header declares at most one length, since the function gives at most one. -/
theorem declaredLength_eq_ok_iff {header : Bytes} {length : Nat} :
    declaredLength header = .ok length ↔ Declares header length := by
  constructor
  · intro h
    unfold declaredLength at h
    split at h
    · cases h
    · next text htext =>
      unfold contentLength at h
      split at h
      · cases h
      · cases h
      · next n hn =>
        cases h
        -- The search starts with no length found, so the one found is given by a line.
        obtain ⟨given, hgiven, hlast⟩ := lastLength?_eq_ok_iff.mp hn
        rw [Option.or_none] at hlast
        exact ⟨text, _, given, Utf8.decodeChars_eq_ok_iff.mp htext, splitLines_eq_iff.mp rfl,
          hgiven, hlast.symm⟩
  · rintro ⟨text, lines, given, hheader, hlines, hgiven, hlast⟩
    have hread : lastLength? none lines = .ok (some length) :=
      lastLength?_eq_ok_iff.mpr ⟨given, hgiven, by rw [hlast]; rfl⟩
    simp only [declaredLength, Utf8.decodeChars_eq_ok_iff.mpr hheader, contentLength,
      splitLines_eq_iff.mpr hlines, hread]

end LspSession.Frame
