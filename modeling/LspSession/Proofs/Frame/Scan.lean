import LspSession.Proofs.Frame.Header
import Mathlib.Logic.Relation

/-!
# `LspSession.Proofs.Frame.Scan`: what a header comes to, line by line

`Declares` says which headers declare a length. `Scans` says of every header what it comes to: the
error of its first bad line, the last length that its lines give, or that there is none. A line is
bad when it has no colon, or when it has the name of the length and its value is no numeral, or one
beyond what memory can count (`LineFails`).

So the lines of other names do not count where a header is read at all, and of the others only the
order of their values does. An `Edit` touches the rest: it puts in, takes out, rewrites or moves a
line of another name, or spells a name in letters of the other case and with other blanks around it
and around the value. `contentLength_scan` says that no number of edits changes the length that is
read.
-/

set_option autoImplicit false

namespace LspSession.Frame

/-! ### Bad lines -/

/-- A line is bad: it has no colon, or it has the name of the length and its value is no numeral of
a number that memory can count to. The error quotes the line, or the trimmed value. -/
inductive LineFails : List Char → FrameError → Prop
  | noColon {line : List Char} (colon : ':' ∉ line) :
    LineFails line (.lineWithoutColon (String.ofList line))
  | badLength {line name value core : List Char} (field : IsField line name value)
      (named : NamesLength name) (trimmed : Text.Trims value core)
      (number : ∀ n, Decimal.IsNumeral core n → sizeBound < n) :
    LineFails line (.badLength (String.ofList core))

/-- A line is not cut by `splitColon?` exactly if it has no colon. -/
theorem splitColon?_eq_none_iff {line : List Char} : splitColon? line = none ↔ ':' ∉ line := by
  constructor
  · intro h hmem
    obtain ⟨name, value, hline, hname⟩ := List.eq_append_cons_of_mem hmem
    rw [splitColon?_eq_some_iff.mpr ⟨hline, hname⟩] at h
    cases h
  · intro h
    cases hcut : splitColon? line with
    | none => rfl
    | some cut =>
      obtain ⟨name, value⟩ := cut
      obtain ⟨rfl, -⟩ := splitColon?_eq_some_iff.mp hcut
      exact absurd (List.mem_append_right name List.mem_cons_self) h

/-- A line is not read by `lineLength?` exactly if it is bad, and `LineFails` names the error.
Together with `lineLength?_eq_ok_iff` every line is in one of the two relations. -/
theorem lineLength?_eq_error_iff {line : List Char} {e : FrameError} :
    lineLength? line = .error e ↔ LineFails line e := by
  constructor
  · intro h
    unfold lineLength? at h
    split at h
    · next hcut =>
      cases h
      exact .noColon (splitColon?_eq_none_iff.mp hcut)
    · next name value hcut =>
      have hfield := splitColon?_eq_some_iff.mp hcut
      split at h
      · next hname =>
        split at h
        · cases h
        · next hnone =>
          cases h
          refine .badLength hfield (isLengthName_iff.mp hname) (Text.trims_trim value) ?_
          intro n hn
          -- A number that a word holds would have been read.
          by_contra hle
          have hsome := Decimal.ofNumeralUpTo?_eq_some_iff.mpr ⟨hn, Nat.le_of_not_lt hle⟩
          rw [hnone] at hsome
          cases hsome
      · cases h
  · intro h
    cases h with
    | noColon colon => simp only [lineLength?, splitColon?_eq_none_iff.mpr colon]
    | @badLength name value core field named trimmed number =>
      have hnone : Decimal.ofNumeralUpTo? sizeBound core = none := by
        rw [Option.eq_none_iff_forall_ne_some]
        intro n hn
        obtain ⟨hnumeral, hle⟩ := Decimal.ofNumeralUpTo?_eq_some_iff.mp hn
        exact absurd hle (Nat.not_le_of_lt (number n hnumeral))
      simp only [lineLength?, splitColon?_eq_some_iff.mpr field, isLengthName_iff.mpr named,
        trimmed.trim_eq, hnone, if_true]

/-! ### Headers -/

/-- What lines come to when they are read in order: the error of the first bad one, the last length
given, or the error that none was given. -/
inductive Scans : List (List Char) → Except FrameError Nat → Prop
  /-- The first bad line decides the error. -/
  | fault {early late : List (List Char)} {line : List Char} {given : List (Option Nat)}
      {e : FrameError} (before : List.Forall₂ LineGives early given) (fails : LineFails line e) :
    Scans (early ++ line :: late) (.error e)
  /-- The last length given is the one that holds. -/
  | length {lines : List (List Char)} {given : List (Option Nat)} {n : Nat}
      (gives : List.Forall₂ LineGives lines given)
      (last : given.reduceOption.getLast? = some n) : Scans lines (.ok n)
  /-- No line gives a length. -/
  | missing {lines : List (List Char)} {given : List (Option Nat)}
      (gives : List.Forall₂ LineGives lines given)
      (none : given.reduceOption = []) : Scans lines (.error .missingLength)

/-- Lines are not read by `lastLength?` exactly if one of them is bad, and the error is that of the
first one. The lines behind it are not looked at. -/
theorem lastLength?_eq_error_iff {found : Option Nat} {lines : List (List Char)} {e : FrameError} :
    lastLength? found lines = .error e ↔
      ∃ early line late given, lines = early ++ line :: late ∧
        List.Forall₂ LineGives early given ∧ LineFails line e := by
  induction lines generalizing found with
  | nil =>
    constructor
    · intro h
      cases h
    · rintro ⟨early, line, late, given, h, -⟩
      cases early <;> cases h
  | cons line lines ih =>
    constructor
    · intro h
      rw [lastLength?] at h
      split at h
      · next e' hline =>
        cases h
        exact ⟨[], line, lines, [], rfl, .nil, lineLength?_eq_error_iff.mp hline⟩
      · next g hg =>
        -- The bad line is behind this one, which is one more that was read before it.
        obtain ⟨early, bad, late, given, rfl, hearly, hbad⟩ := ih.mp h
        exact ⟨line :: early, bad, late, g :: given, rfl,
          .cons (lineLength?_eq_ok_iff.mp hg) hearly, hbad⟩
    · rintro ⟨early, bad, late, given, hlines, hearly, hbad⟩
      cases hearly with
      | nil =>
        cases hlines
        rw [lastLength?, lineLength?_eq_error_iff.mpr hbad]
      | cons hg hearly =>
        cases hlines
        rw [lastLength?, lineLength?_eq_ok_iff.mpr hg]
        exact ih.mpr ⟨_, bad, late, _, rfl, hearly, hbad⟩

/-- What `contentLength` reads from a header is what its lines come to. Since a text is made of
lines in one way, `Scans` decides the outcome for every text. -/
theorem contentLength_eq_iff {text : List Char} {r : Except FrameError Nat} :
    contentLength text = r ↔ ∃ lines, HasLines text lines ∧ Scans lines r := by
  constructor
  · rintro rfl
    refine ⟨splitLines text, splitLines_eq_iff.mp rfl, ?_⟩
    unfold contentLength
    cases hlast : lastLength? none (splitLines text) with
    | error e =>
      obtain ⟨early, line, late, given, hlines, hearly, hline⟩ := lastLength?_eq_error_iff.mp hlast
      rw [hlines]
      exact .fault hearly hline
    | ok last =>
      obtain ⟨given, hgiven, hlength⟩ := lastLength?_eq_ok_iff.mp hlast
      rw [Option.or_none] at hlength
      cases last with
      | none => exact .missing hgiven (List.getLast?_eq_none_iff.mp hlength.symm)
      | some n => exact .length hgiven hlength.symm
  · rintro ⟨lines, hlines, hscans⟩
    unfold contentLength
    -- A text is made of lines in one way, so the lines given are those that are cut.
    rw [splitLines_eq_iff.mpr hlines]
    cases hscans with
    | fault before fails =>
      rw [lastLength?_eq_error_iff.mpr ⟨_, _, _, _, rfl, before, fails⟩]
    | @length _ given n gives last =>
      have hlast : lastLength? none lines = .ok (some n) :=
        lastLength?_eq_ok_iff.mpr ⟨given, gives, by rw [last]; rfl⟩
      rw [hlast]
    | @missing _ given gives none =>
      have hlast : lastLength? .none lines = .ok .none :=
        lastLength?_eq_ok_iff.mpr ⟨given, gives, by rw [none]; rfl⟩
      rw [hlast]

/-! ### Edits -/

/-- A line of another name than that of the length. It has a colon, so that reading it is no error,
and no line end that would make two lines of it. -/
structure OtherLine (line : List Char) : Prop where
  field : ∃ name value, IsField line name value ∧ ¬ NamesLength name
  cut : ¬ lineEnd <:+: line

/-- A line has the same name and value as another, but for the case of the letters of the name and
for the blanks around both. The blanks may be of any kind, but a line end among them would make two
lines of it. -/
inductive Respells : List Char → List Char → Prop
  | intro {line other name name' core core' value value' kept : List Char}
      (field : IsField line name value) (field' : IsField other name' value')
      (named : Text.Trims name core) (named' : Text.Trims name' core')
      (letters : core'.map Char.toLower = core.map Char.toLower)
      (valued : Text.Trims value kept) (valued' : Text.Trims value' kept)
      (cut : ¬ lineEnd <:+: other) : Respells line other

/-- One edit of the lines of a header that leaves the length alone: another line is put in, taken
out, rewritten or moved, or a line is spelt anew (`Respells`). -/
inductive Edit : List (List Char) → List (List Char) → Prop
  | insert {line : List Char} {rest : List (List Char)} (h : OtherLine line) :
    Edit rest (line :: rest)
  | delete {line : List Char} {rest : List (List Char)} (h : OtherLine line) :
    Edit (line :: rest) rest
  | rewrite {line new : List Char} {rest : List (List Char)} (h : OtherLine line)
      (h' : OtherLine new) : Edit (line :: rest) (new :: rest)
  | swap {line next : List Char} {rest : List (List Char)} (h : OtherLine line ∨ OtherLine next) :
    Edit (line :: next :: rest) (next :: line :: rest)
  | respell {line new : List Char} {rest : List (List Char)} (h : Respells line new) :
    Edit (line :: rest) (new :: rest)
  /-- The edit is behind a line that stays. -/
  | later {line : List Char} {lines edited : List (List Char)} (h : Edit lines edited) :
    Edit (line :: lines) (line :: edited)

/-- A line has one name and one value, because `splitColon?` cuts it at its first colon and nowhere
else. -/
theorem IsField.unique {line name name' value value' : List Char} (h : IsField line name value)
    (h' : IsField line name' value') : name = name' ∧ value = value' := by
  have hcut := splitColon?_eq_some_iff.mpr h
  rw [splitColon?_eq_some_iff.mpr h'] at hcut
  exact ⟨(congrArg Prod.fst (Option.some.inj hcut)).symm,
    (congrArg Prod.snd (Option.some.inj hcut)).symm⟩

/-- Whether a name is that of the length (`NamesLength`) is decided by what is between its blanks,
in letters of either case. -/
theorem namesLength_congr {name name' core core' : List Char} (h : Text.Trims name core)
    (h' : Text.Trims name' core') (hletters : core'.map Char.toLower = core.map Char.toLower) :
    NamesLength name' ↔ NamesLength name := by
  rw [← isLengthName_iff, ← isLengthName_iff, isLengthName, isLengthName, equalsIgnoringCase,
    equalsIgnoringCase, h.trim_eq, h'.trim_eq, hletters]

/-- A line of another name gives no length, and that is all it gives: `LineGives` relates it to
`none` only. -/
theorem OtherLine.lineGives_iff {line : List Char} (h : OtherLine line) {g : Option Nat} :
    LineGives line g ↔ g = none := by
  obtain ⟨⟨name, value, hfield, hname⟩, -⟩ := h
  constructor
  · intro hgives
    cases hgives with
    | length field named trimmed number fits =>
      obtain ⟨rfl, -⟩ := field.unique hfield
      exact absurd named hname
    | other => rfl
  · rintro rfl
    exact .other hfield hname

/-- A line that is spelt anew gives what it gave. The name is compared without regard to what a
`Respells` may change, and the value is trimmed before it is read. -/
theorem Respells.lineGives {line other : List Char} (h : Respells line other) {g : Option Nat}
    (hgives : LineGives line g) : LineGives other g := by
  cases h with
  | intro field field' named named' letters valued valued' cut =>
    have hname := namesLength_congr named named' letters
    cases hgives with
    | length found hnamed trimmed number fits =>
      obtain ⟨rfl, rfl⟩ := found.unique field
      -- Both names for the trimmed value are what `Text.trim` leaves of it.
      have hkept := trimmed.trim_eq.symm.trans valued.trim_eq
      subst hkept
      exact .length field' (hname.mpr hnamed) valued' number fits
    | other found unnamed =>
      obtain ⟨rfl, rfl⟩ := found.unique field
      exact .other field' fun hnamed => unnamed (hname.mp hnamed)

/-- An `Edit` changes none of the lengths that lines give. The induction is on the lines in front of
the edit. It carries all the lengths in their order, since the last one may stand in front or
behind. -/
theorem Edit.gives {lines edited : List (List Char)} (h : Edit lines edited)
    {given : List (Option Nat)} (hgiven : List.Forall₂ LineGives lines given) :
    ∃ given', List.Forall₂ LineGives edited given' ∧
      given'.reduceOption = given.reduceOption := by
  induction h generalizing given with
  | insert h => exact ⟨none :: given, .cons (h.lineGives_iff.mpr rfl) hgiven, rfl⟩
  | delete h =>
    cases hgiven with
    | cons hline hrest =>
      rw [h.lineGives_iff.mp hline]
      exact ⟨_, hrest, rfl⟩
  | rewrite h h' =>
    cases hgiven with
    | cons hline hrest =>
      rw [h.lineGives_iff.mp hline]
      exact ⟨_, .cons (h'.lineGives_iff.mpr rfl) hrest, rfl⟩
  | swap h =>
    cases hgiven with
    | @cons _ g _ _ hline hrest =>
      cases hrest with
      | @cons _ g' _ more hnext hmore =>
        refine ⟨g' :: g :: more, .cons hnext (.cons hline hmore), ?_⟩
        -- One of the two gives no length.
        rcases h with h | h
        · rw [h.lineGives_iff.mp hline]
          cases g' <;> rfl
        · rw [h.lineGives_iff.mp hnext]
          cases g <;> rfl
  | respell h =>
    cases hgiven with
    | cons hline hrest => exact ⟨_, .cons (h.lineGives hline) hrest, rfl⟩
  | later h ih =>
    cases hgiven with
    | @cons _ g _ _ hline hrest =>
      obtain ⟨given', hgiven', hsame⟩ := ih hrest
      refine ⟨g :: given', .cons hline hgiven', ?_⟩
      cases g with
      | none => exact hsame
      | some n => rw [List.reduceOption_cons_of_some, List.reduceOption_cons_of_some, hsame]

/-- An `Edit` puts no line end into a line, so the edited lines are lines of a text again
(`HasLines.cut`). -/
theorem Edit.cut {lines edited : List (List Char)} (h : Edit lines edited)
    (hcut : ∀ line ∈ lines, ¬ lineEnd <:+: line) : ∀ line ∈ edited, ¬ lineEnd <:+: line := by
  induction h with
  | insert h => exact List.forall_mem_cons.mpr ⟨h.cut, hcut⟩
  | delete => exact (List.forall_mem_cons.mp hcut).2
  | rewrite _ h' => exact List.forall_mem_cons.mpr ⟨h'.cut, (List.forall_mem_cons.mp hcut).2⟩
  | swap =>
    obtain ⟨hline, hcut⟩ := List.forall_mem_cons.mp hcut
    obtain ⟨hnext, hcut⟩ := List.forall_mem_cons.mp hcut
    exact List.forall_mem_cons.mpr ⟨hnext, List.forall_mem_cons.mpr ⟨hline, hcut⟩⟩
  | respell h =>
    cases h with
    | intro _ _ _ _ _ _ _ hother =>
      exact List.forall_mem_cons.mpr ⟨hother, (List.forall_mem_cons.mp hcut).2⟩
  | later _ ih =>
    obtain ⟨hline, hcut⟩ := List.forall_mem_cons.mp hcut
    exact List.forall_mem_cons.mpr ⟨hline, ih hcut⟩

/-- Lines that are edited any number of times give the lengths that they gave, and they stay lines.
Both are needed to apply `Edit.gives` again after an edit. -/
theorem gives_of_edits {lines edited : List (List Char)}
    (h : Relation.ReflTransGen Edit lines edited) {given : List (Option Nat)}
    (hgiven : List.Forall₂ LineGives lines given) (hcut : ∀ line ∈ lines, ¬ lineEnd <:+: line) :
    (∃ given', List.Forall₂ LineGives edited given' ∧ given'.reduceOption = given.reduceOption) ∧
      ∀ line ∈ edited, ¬ lineEnd <:+: line := by
  induction h with
  | refl => exact ⟨⟨given, hgiven, rfl⟩, hcut⟩
  | tail _ hedit ih =>
    -- The lines before an edit are again lines of a header that is read.
    obtain ⟨⟨between, hbetween, hsame⟩, hcut⟩ := ih
    obtain ⟨given', hgiven', hsame'⟩ := hedit.gives hbetween
    exact ⟨⟨given', hgiven', hsame'.trans hsame⟩, hedit.cut hcut⟩

/-- A header comes to what its lines come to in order (`Scans`): to the error of the first bad line;
if none is bad, to the last length that they give; and if they give none, to the error that says so.
Where a length is read, it is read as well after any number of edits of the lines. -/
theorem contentLength_scan (text : List Char) :
    (∀ r, contentLength text = r ↔ ∃ lines, HasLines text lines ∧ Scans lines r) ∧
      ∀ lines edited n, HasLines text lines → contentLength text = .ok n →
        Relation.ReflTransGen Edit lines edited →
          HasLines (lineEnd.intercalate edited) edited ∧
            contentLength (lineEnd.intercalate edited) = .ok n := by
  refine ⟨fun r => contentLength_eq_iff, fun lines edited n hlines hread hedits => ?_⟩
  obtain ⟨found, hfound, hscans⟩ := contentLength_eq_iff.mp hread
  obtain rfl : found = lines := by
    rw [← splitLines_eq_iff.mpr hfound, splitLines_eq_iff.mpr hlines]
  cases hscans with
  | length gives last =>
    obtain ⟨⟨given, hgiven, hsame⟩, hcut⟩ := gives_of_edits hedits gives hlines.cut
    rw [← hsame] at last
    -- A length is given, so the edits have left a line to give it.
    have hne : edited ≠ [] := by
      rintro rfl
      cases hgiven
      cases last
    have hedited : HasLines (lineEnd.intercalate edited) edited := ⟨hne, rfl, hcut⟩
    exact ⟨hedited, contentLength_eq_iff.mpr ⟨edited, hedited, .length hgiven last⟩⟩

/-- A line that gives a length, as `header` would write it. -/
private def sized : List Char := "Content-Length: 7".toList

/-- The line `sized` in other letters, and with other blanks: a `Respells` of it. -/
private def resized : List Char := " content-LENGTH\t:7 ".toList

/-- A line of another name, one that is known to be sent beside the length. -/
private def typed : List Char := "Content-Type: text".toList

/-- A line of a third name, with an empty value. -/
private def hosted : List Char := "Host:".toList

/-- A length is read from a line between others, and is read as well when the lines are edited:
`typed` and `sized` change places, `sized` is spelt anew, and `hosted` is put in. -/
theorem contentLength_edited :
    contentLength (lineEnd.intercalate [typed, sized]) = .ok 7 ∧
      Relation.ReflTransGen Edit [typed, sized] [resized, hosted, typed] ∧
      contentLength (lineEnd.intercalate [resized, hosted, typed]) = .ok 7 := by
  have htyped : OtherLine typed :=
    ⟨⟨"Content-Type".toList, " text".toList, by decide +kernel, by decide +kernel⟩,
      by decide +kernel⟩
  have hhosted : OtherLine hosted :=
    ⟨⟨"Host".toList, [], by decide +kernel, by decide +kernel⟩, by decide +kernel⟩
  have hresized : Respells sized resized := by
    have hname : Text.Trims "Content-Length".toList "Content-Length".toList := by decide +kernel
    have hname' : Text.Trims " content-LENGTH\t".toList "content-LENGTH".toList := by
      decide +kernel
    have hletters : "content-LENGTH".toList.map Char.toLower =
        "Content-Length".toList.map Char.toLower := by decide +kernel
    have hvalue : Text.Trims " 7".toList "7".toList := by decide +kernel
    have hvalue' : Text.Trims "7 ".toList "7".toList := by decide +kernel
    exact .intro (by decide +kernel) (by decide +kernel) hname hname' hletters hvalue hvalue'
      (by decide +kernel)
  have hread : contentLength (lineEnd.intercalate [typed, sized]) = .ok 7 := by decide +kernel
  have hlines : HasLines (lineEnd.intercalate [typed, sized]) [typed, sized] :=
    splitLines_eq_iff.mp (by decide +kernel)
  have hedits : Relation.ReflTransGen Edit [typed, sized] [resized, hosted, typed] := by
    refine .tail (.tail (.single (.swap (Or.inl htyped))) (.respell hresized)) ?_
    exact .later (.insert hhosted)
  exact ⟨hread, hedits, ((contentLength_scan _).2 _ _ 7 hlines hread hedits).2⟩

end LspSession.Frame
