import LspSession.Path
import Mathlib.Data.List.DropRight

/-!
# `LspSession.Proofs.Path`: a file name is replaced where it stands

A path is worked on as a text: `parent` cuts it off, and `child` puts a name behind it. Here stands
what this does to the parts that say something (`names`) and to what says where the path starts.
`parent` takes the last name away and `child` puts a name there, and neither changes the start. So a
file name can be replaced, and the path still leads to the same directory (`parent_child_parent`).

The start of a path can be read off its text only because of how the rest goes on: behind a dot it
is empty or goes on with a slash, and behind nothing it does not look like a start itself. `Starts`
says this of the parts of the rest. It still holds when parts at the end are dropped or added.

The file name itself is cut at its last dot. `Splits` says so without looking for the dot.
-/

set_option autoImplicit false

namespace LspSession.Path

/-! ### Parts -/

/-- The `parts` of a text are what splitting it at its slashes gives, so the lemmas of the library
on `List.splitOn` apply to them. -/
theorem parts_eq_splitOn (text : List Char) : parts text = text.splitOn '/' := by
  induction text with
  | nil => rfl
  | cons c text ih =>
    obtain ⟨part, more, hsplit⟩ := List.exists_cons_of_ne_nil (List.splitOn_ne_nil '/' text)
    rw [parts, ih, List.splitOn_cons_eq_if_modifyHead, hsplit]
    by_cases hc : c = '/' <;> simp [hc]

/-- A part in front of parts, with the slash that `join` puts behind it. A last part has none. -/
theorem join_cons (part : List Char) {ps : List (List Char)} (hne : ps ≠ []) :
    join (part :: ps) = part ++ '/' :: join ps := by
  rw [join]
  exact hne

/-- Joining parts by `join` is putting slashes between them. -/
theorem join_eq_intercalate (ps : List (List Char)) : join ps = ['/'].intercalate ps := by
  induction ps with
  | nil => rfl
  | cons part ps ih =>
    cases ps with
    | nil => rw [List.intercalate_singleton, join]
    | cons next ps =>
      rw [List.intercalate_cons_cons, join_cons part (List.cons_ne_nil next ps), ih,
        List.append_assoc, List.singleton_append]

/-- There is always a part: that of the empty text is empty. -/
theorem parts_ne_nil (text : List Char) : parts text ≠ [] := by
  rw [parts_eq_splitOn]
  exact List.splitOn_ne_nil '/' text

/-- A slash ends a part, so the `parts` of two texts with a slash between them are those of the one
and those of the other. -/
theorem parts_append_slash (front back : List Char) :
    parts (front ++ '/' :: back) = parts front ++ parts back := by
  simp only [parts_eq_splitOn, List.splitOn_append_cons_self]

/-- A text without a slash is one part, which is the text itself. -/
theorem parts_of_not_mem {text : List Char} (h : '/' ∉ text) : parts text = [text] := by
  rw [parts_eq_splitOn, List.splitOn_eq_singleton h]

/-- Parts with slashes between them are the parts of the text, if there are any and none of them
holds a slash. -/
theorem parts_join {ps : List (List Char)} (hne : ps ≠ []) (h : ∀ part ∈ ps, '/' ∉ part) :
    parts (join ps) = ps := by
  rw [parts_eq_splitOn, join_eq_intercalate, List.splitOn_intercalate '/' h hne]

/-- A text is its parts with slashes between them, so nothing is lost by `parts`. -/
theorem join_parts (text : List Char) : join (parts text) = text := by
  rw [parts_eq_splitOn, join_eq_intercalate, List.intercalate_splitOn]

/-- A text is its first part alone, or that part and a slash stand in front of it. With this the
shape of a text is read off its `parts`. -/
theorem eq_or_exists_of_parts {text part : List Char} {ps : List (List Char)}
    (h : parts text = part :: ps) :
    (text = part ∧ ps = []) ∨ ∃ rest, text = part ++ '/' :: rest := by
  rw [← join_parts text, h]
  cases ps with
  | nil => exact Or.inl ⟨rfl, rfl⟩
  | cons next ps => exact Or.inr ⟨join (next :: ps), join_cons part (List.cons_ne_nil next ps)⟩

/-- No part holds a slash, since every slash of the text ends one. -/
theorem slash_not_mem_of_mem_parts {text part : List Char} (h : part ∈ parts text) :
    '/' ∉ part := by
  rw [parts_eq_splitOn] at h
  induction text generalizing part with
  | nil =>
    rw [List.mem_singleton.mp h]
    exact List.not_mem_nil
  | cons c text ih =>
    obtain ⟨first, more, hsplit⟩ := List.exists_cons_of_ne_nil (List.splitOn_ne_nil '/' text)
    rw [hsplit] at ih
    rw [List.splitOn_cons_eq_if_modifyHead, hsplit] at h
    split at h
    · rcases List.mem_cons.mp h with rfl | hmem
      · exact List.not_mem_nil
      · exact ih hmem
    · next hc =>
      rcases List.mem_cons.mp h with rfl | hmem
      · rw [List.mem_cons, not_or]
        exact ⟨fun heq => hc (beq_iff_eq.mpr heq.symm), ih List.mem_cons_self⟩
      · exact ih (List.mem_cons_of_mem first hmem)

/-! ### Where a path starts -/

/-- A part says nothing exactly if it is empty or a single dot. -/
theorem isIdle_iff {part : List Char} : isIdle part = true ↔ part = [] ∨ part = ['.'] := by
  simp [isIdle]

/-- What says where a path starts, in front of the parts of the rest: a slash; a dot, where the rest
is empty or goes on with a slash; or nothing, where the path is empty or its first part says
something. -/
inductive Starts : List Char → List (List Char) → Prop where
  | root (ps : List (List Char)) : Starts ['/'] ps
  | here (ps : List (List Char)) : Starts ['.'] ([] :: ps)
  | nowhere : Starts [] [[]]
  | name {part : List Char} (ps : List (List Char)) (h : isIdle part = false) :
    Starts [] (part :: ps)

/-- What `splitStart` cuts a path into is a start of the parts of the rest, and both make up the
path. -/
theorem starts_splitStart (path : List Char) :
    path = (splitStart path).1 ++ (splitStart path).2 ∧
      Starts (splitStart path).1 (parts (splitStart path).2) := by
  unfold splitStart
  split
  · exact ⟨rfl, .root _⟩
  · exact ⟨rfl, .here []⟩
  · next rest =>
    refine ⟨rfl, ?_⟩
    have hparts : parts ('/' :: rest) = [] :: parts rest := parts_append_slash [] rest
    rw [hparts]
    exact .here _
  · next hslash hdot hdotSlash =>
    refine ⟨rfl, ?_⟩
    obtain ⟨part, ps, hparts⟩ := List.exists_cons_of_ne_nil (parts_ne_nil path)
    rw [hparts]
    cases hidle : isIdle part with
    | false => exact .name ps hidle
    | true =>
      -- A first part that says nothing makes the path empty or one that starts somewhere.
      rcases isIdle_iff.mp hidle with rfl | rfl
      · rcases eq_or_exists_of_parts hparts with ⟨-, rfl⟩ | ⟨rest, hrest⟩
        · exact .nowhere
        · exact absurd hrest (hslash rest)
      · rcases eq_or_exists_of_parts hparts with ⟨hall, -⟩ | ⟨rest, hrest⟩
        · exact absurd hall hdot
        · exact absurd hrest (hdotSlash rest)

/-- A path is cut by `splitStart` where its start ends: if a text and a rest make up the path and
the one starts the other, then these are what it is cut into. -/
theorem splitStart_eq_iff {path start rest : List Char} :
    splitStart path = (start, rest) ↔ path = start ++ rest ∧ Starts start (parts rest) := by
  constructor
  · intro h
    have hstarts := starts_splitStart path
    rw [h] at hstarts
    exact hstarts
  · rintro ⟨rfl, hstarts⟩
    generalize hparts : parts rest = ps at hstarts
    cases hstarts with
    | root => rfl
    | here =>
      rcases eq_or_exists_of_parts hparts with ⟨rfl, -⟩ | ⟨more, rfl⟩ <;> rfl
    | nowhere =>
      rcases eq_or_exists_of_parts hparts with ⟨rfl, -⟩ | ⟨more, rfl⟩
      · rfl
      · rw [parts_append_slash] at hparts
        exact absurd (List.append_eq_singleton_iff.mp hparts) (by simp [parts_ne_nil])
    | @name part ps hname =>
      -- In each other way to cut the text its first part would say nothing.
      show splitStart rest = ([], rest)
      unfold splitStart
      split
      · next more =>
        obtain ⟨rfl, -⟩ := List.cons.inj ((parts_append_slash [] more).symm.trans hparts)
        cases hname
      · obtain ⟨rfl, -⟩ := List.cons.inj hparts
        cases hname
      · next more =>
        obtain ⟨rfl, -⟩ := List.cons.inj ((parts_append_slash ['.'] more).symm.trans hparts)
        cases hname
      · rfl

/-! ### Names -/

/-- The parts of a path that say something, in their order. A double dot is among them, as it leads
to another directory. -/
def names (path : List Char) : List (List Char) :=
  (parts (splitStart path).2).filter fun part => !isIdle part

/-- Parts that say nothing do not count among the names, wherever they stand. So it does not matter
that `reversedParts` drops those at the end. -/
theorem filter_dropWhile_isIdle (ps : List (List Char)) :
    (ps.dropWhile isIdle).filter (fun part => !isIdle part) =
      ps.filter fun part => !isIdle part := by
  induction ps with
  | nil => rfl
  | cons part ps ih =>
    cases hidle : isIdle part with
    | true => simp [hidle, ih]
    | false => simp [hidle]

/-- The names are those of the parts that a path is cut to by `reversedParts`, which has the last
one first. -/
theorem names_eq (path : List Char) :
    names path = (reversedParts path).reverse.filter fun part => !isIdle part := by
  rw [names, reversedParts, List.filter_reverse, filter_dropWhile_isIdle, List.filter_reverse,
    List.reverse_reverse]

/-- The last part that a path is cut to is a name, because those behind it that say nothing were
dropped. -/
theorem isIdle_of_reversedParts {path part : List Char} {ps : List (List Char)}
    (h : reversedParts path = part :: ps) : isIdle part = false := by
  have hnot := List.head?_dropWhile_not isIdle (parts (splitStart path).2).reverse
  rw [reversedParts] at h
  rw [h] at hnot
  exact hnot

/-- The file name is the last name, unless that is a double dot. A path without names has no file
name. -/
theorem fileName?_eq (path : List Char) :
    fileName? path = (names path).getLast?.filter (· ≠ ['.', '.']) := by
  rw [fileName?, names_eq, List.filter_reverse, List.getLast?_reverse]
  cases hparts : reversedParts path with
  | nil => rfl
  | cons part ps =>
    simp [isIdle_of_reversedParts hparts]

/-! ### The path up to its file name -/

/-- The start of a path is that of the empty rest too, which is what is left when all parts are
dropped. -/
theorem Starts.nil {start : List Char} {ps : List (List Char)} (h : Starts start ps) :
    Starts start [[]] := by
  cases h with
  | root => exact .root _
  | here => exact .here []
  | nowhere | name => exact .nowhere

/-- The start of a path is that of the first parts of the rest, so parts may be dropped at the end
as long as one is left. -/
theorem Starts.of_prefix {start : List Char} {front ps : List (List Char)} (h : Starts start ps)
    (hfront : front <+: ps) (hne : front ≠ []) : Starts start front := by
  obtain ⟨part, front, rfl⟩ := List.exists_cons_of_ne_nil hne
  obtain ⟨back, rfl⟩ := hfront
  generalize hps : part :: front ++ back = ps at h
  cases h with
  | root => exact .root _
  | here =>
    obtain ⟨rfl, -⟩ := List.cons.inj hps
    exact .here front
  | nowhere =>
    obtain ⟨rfl, hnil⟩ := List.cons.inj hps
    rw [(List.append_eq_nil_iff.mp hnil).1]
    exact .nowhere
  | name _ hname =>
    obtain ⟨rfl, -⟩ := List.cons.inj hps
    exact .name front hname

/-- The path up to the last name starts as the path does, and its parts are those in front of that
name, without the ones at their end that say nothing. -/
theorem splitStart_parent (path : List Char) :
    (splitStart (parent path)).1 = (splitStart path).1 ∧
      reversedParts (parent path) = (reversedParts path).tail.dropWhile isIdle := by
  obtain ⟨-, hstarts⟩ := starts_splitStart path
  have hsuffix : (reversedParts path).tail.dropWhile isIdle <:+
      (parts (splitStart path).2).reverse :=
    (List.dropWhile_suffix isIdle).trans
      ((List.tail_suffix _).trans (List.dropWhile_suffix isIdle))
  generalize hleft : (reversedParts path).tail.dropWhile isIdle = left at hsuffix
  -- What is left ends with a name, so dropping once more changes nothing.
  have hidem : left.dropWhile isIdle = left := by rw [← hleft, List.dropWhile_idempotent]
  have hfront : left.reverse <+: parts (splitStart path).2 := by
    rw [← List.reverse_reverse (parts (splitStart path).2)]
    exact List.reverse_prefix.mpr hsuffix
  have hparent : parent path = (splitStart path).1 ++ join left.reverse := by rw [parent, hleft]
  by_cases hne : left.reverse = []
  · have hcut : splitStart (parent path) = ((splitStart path).1, []) :=
      splitStart_eq_iff.mpr ⟨by rw [hparent, hne]; rfl, hstarts.nil⟩
    rw [reversedParts, hcut, List.reverse_eq_nil_iff.mp hne]
    exact ⟨rfl, rfl⟩
  · have hparts : parts (join left.reverse) = left.reverse :=
      parts_join hne fun part hpart => slash_not_mem_of_mem_parts (hfront.subset hpart)
    have hcut : splitStart (parent path) = ((splitStart path).1, join left.reverse) :=
      splitStart_eq_iff.mpr ⟨hparent, by rw [hparts]; exact hstarts.of_prefix hfront hne⟩
    rw [reversedParts, hcut, hparts, List.reverse_reverse, hidem]
    exact ⟨rfl, rfl⟩

/-- The names of `parent path` are those of the path but the last. A path without names keeps none.
-/
theorem names_parent (path : List Char) : names (parent path) = (names path).dropLast := by
  rw [names_eq, (splitStart_parent path).2, names_eq, List.filter_reverse, filter_dropWhile_isIdle,
    List.filter_reverse]
  cases hparts : reversedParts path with
  | nil => rfl
  | cons part ps =>
    simp [isIdle_of_reversedParts hparts]

/-! ### A name behind a path -/

/-- A text that can be the name of a file: it says something, does not lead upwards, and holds no
slash. -/
structure IsName (name : List Char) : Prop where
  notIdle : isIdle name = false
  notUpwards : name ≠ ['.', '.']
  noSlash : '/' ∉ name

/-- The start of a path does not change when other parts follow the first ones, unless the path is
empty. For an empty path a name put behind it would be the first part. -/
theorem Starts.replace {start : List Char} {front back : List (List Char)}
    (h : Starts start (front ++ back)) (hne : front ≠ [])
    (hsome : start = [] → front ++ back ≠ [[]]) (back' : List (List Char)) :
    Starts start (front ++ back') := by
  obtain ⟨part, front, rfl⟩ := List.exists_cons_of_ne_nil hne
  generalize hps : part :: front ++ back = ps at h hsome
  cases h with
  | root => exact .root _
  | here =>
    obtain ⟨rfl, -⟩ := List.cons.inj hps
    exact .here _
  | nowhere => exact absurd rfl (hsome rfl)
  | name _ hname =>
    obtain ⟨rfl, -⟩ := List.cons.inj hps
    exact .name _ hname

/-- A text that is empty or ends in a slash has an empty part at its end, and a name put behind the
text takes the place of that part. -/
theorem exists_front_of_room {text : List Char} (h : text = [] ∨ text.getLast? = some '/') :
    ∃ front, parts text = front ++ [[]] ∧
      ∀ name, '/' ∉ name → parts (text ++ name) = front ++ [name] := by
  rcases h with rfl | h
  · exact ⟨[], rfl, fun name hname => parts_of_not_mem hname⟩
  · obtain ⟨before, rfl⟩ := List.getLast?_eq_some_iff.mp h
    refine ⟨parts before, parts_append_slash before [], fun name hname => ?_⟩
    rw [List.append_assoc, List.singleton_append, parts_append_slash, parts_of_not_mem hname]

/-- A path with one more part is cut where the path is cut, and its parts are those of the path and
then the name. A part at the end of the path that says nothing may have made room for the name. -/
theorem exists_splitStart_child (directory : List Char) {name : List Char} (hname : IsName name) :
    ∃ rest front, splitStart (child directory name) = ((splitStart directory).1, rest) ∧
      parts rest = front ++ [name] ∧ front.reverse.dropWhile isIdle = reversedParts directory := by
  obtain ⟨hdirectory, hstarts⟩ := starts_splitStart directory
  rw [reversedParts, child]
  generalize splitStart directory = cut at hdirectory hstarts ⊢
  obtain ⟨start, rest⟩ := cut
  dsimp only at hdirectory hstarts ⊢
  split
  · next hroom =>
    have hrest : rest = [] ∨ rest.getLast? = some '/' := by
      by_cases hnil : rest = []
      · exact Or.inl hnil
      · rw [hdirectory, List.getLast?_append_of_ne_nil _ hnil] at hroom
        exact Or.inr (hroom.resolve_left (by simp [hnil]))
    obtain ⟨front, hparts, hwith⟩ := exists_front_of_room hrest
    refine ⟨rest ++ name, front, splitStart_eq_iff.mpr ⟨?_, ?_⟩, hwith name hname.noSlash, ?_⟩
    · rw [hdirectory, List.append_assoc]
    · rw [hwith name hname.noSlash]
      rw [hparts] at hstarts
      by_cases hne : front = []
      · -- Only the start of the path is there, and it is a slash or nothing.
        subst hne
        have hnil : rest = [] := by rw [← join_parts rest, hparts]; rfl
        cases hstarts with
        | root => exact .root _
        | here =>
          rw [hdirectory, hnil] at hroom
          simp at hroom
        | nowhere | name => exact .name [] hname.notIdle
      · exact hstarts.replace hne (fun _ => by simpa using hne) _
    · rw [hparts, List.reverse_append]
      rfl
  · next hfull =>
    have hparts : parts (rest ++ '/' :: name) = parts rest ++ [name] := by
      rw [parts_append_slash, parts_of_not_mem hname.noSlash]
    refine ⟨rest ++ '/' :: name, parts rest, splitStart_eq_iff.mpr ⟨?_, ?_⟩, hparts, rfl⟩
    · rw [hdirectory, List.append_assoc]
    · rw [hparts]
      rw [← List.append_nil (parts rest)] at hstarts
      -- The parts of the directory all stay, and the name is one more behind them.
      refine hstarts.replace (parts_ne_nil rest) ?_ _
      rintro rfl hempty
      rw [List.append_nil] at hempty
      have hnil : rest = [] := by rw [← join_parts rest, hempty]; rfl
      exact hfull (Or.inl (by rw [hdirectory, hnil]; rfl))

/-- The path up to a name that was put behind a directory is the directory, without the parts at its
end that say nothing. -/
theorem parent_child (directory : List Char) {name : List Char} (hname : IsName name) :
    parent (child directory name) =
      (splitStart directory).1 ++ join (reversedParts directory).reverse := by
  obtain ⟨rest, front, hcut, hparts, hfront⟩ := exists_splitStart_child directory hname
  have hreversed : reversedParts (child directory name) = name :: front.reverse := by
    rw [reversedParts, hcut, hparts, List.reverse_append]
    exact List.dropWhile_cons_of_neg (by rw [hname.notIdle]; exact Bool.false_ne_true)
  rw [parent, hreversed, hcut, List.tail_cons, hfront]

/-- Where the file name of a path is replaced, the path up to it stays: `parent` has cut off what
says nothing already. -/
theorem parent_child_parent (path : List Char) {name : List Char} (hname : IsName name) :
    parent (child (parent path) name) = parent path := by
  obtain ⟨hstart, hreversed⟩ := splitStart_parent path
  rw [parent_child _ hname, hstart, hreversed, ← parent]

/-- The start of `child directory name` is that of the directory that the name was put behind. -/
theorem start_child (directory : List Char) {name : List Char} (hname : IsName name) :
    (splitStart (child directory name)).1 = (splitStart directory).1 := by
  obtain ⟨rest, front, hcut, -, -⟩ := exists_splitStart_child directory hname
  rw [hcut]

/-- The names of `child directory name` are those of the directory and then the name that was put
behind it. -/
theorem names_child (directory : List Char) {name : List Char} (hname : IsName name) :
    names (child directory name) = names directory ++ [name] := by
  obtain ⟨rest, front, hcut, hparts, hfront⟩ := exists_splitStart_child directory hname
  rw [names_eq directory, ← hfront, List.filter_reverse, filter_dropWhile_isIdle,
    List.filter_reverse, List.reverse_reverse, names, hcut, hparts, List.filter_append]
  simp [hname.notIdle]

/-- The file name of `child directory name` is the name that was put behind the directory. -/
theorem fileName?_child (directory : List Char) {name : List Char} (hname : IsName name) :
    fileName? (child directory name) = some name := by
  rw [fileName?_eq, names_child directory hname, List.getLast?_concat]
  simp [hname.notUpwards]

/-- A file name can be the name of a file (`IsName`), so it can be cut and put together anew. -/
theorem isName_of_fileName? {path name : List Char} (h : fileName? path = some name) :
    IsName name := by
  rw [fileName?_eq, Option.filter_eq_some_iff] at h
  obtain ⟨hlast, hupwards⟩ := h
  obtain ⟨hmem, hidle⟩ := List.mem_filter.mp (List.mem_of_getLast? hlast)
  exact ⟨by simpa using hidle, by simpa using hupwards, slash_not_mem_of_mem_parts hmem⟩

/-! ### Stems and extensions -/

/-- A file name is a stem alone, or a stem, a dot and an extension without a dot. A dot in front of
the name belongs to the stem, so a hidden file has no empty stem. -/
inductive Splits : List Char → List Char → Option (List Char) → Prop where
  | whole {name : List Char} (h : '.' ∉ name.tail) : Splits name name none
  | atDot {stem ext : List Char} (hstem : stem ≠ []) (hext : '.' ∉ ext) :
    Splits (stem ++ '.' :: ext) stem (some ext)

/-- The stem and the extension are parts of the name, and there is no dot in the extension. So
neither holds a slash if the name does not. -/
theorem Splits.parts_subset {name stem : List Char} {ext : Option (List Char)}
    (h : Splits name stem ext) :
    stem ⊆ name ∧ ext.getD [] ⊆ name ∧ '.' ∉ ext.getD [] := by
  cases h with
  | whole => exact ⟨List.Subset.refl _, List.nil_subset _, List.not_mem_nil⟩
  | atDot _ hext =>
    exact ⟨List.subset_append_left _ _,
      fun c hc => List.mem_append_right _ (List.mem_cons_of_mem '.' hc), hext⟩

/-- A file name is cut by `splitName` at its last dot, unless that is in front of it. -/
theorem splits_splitName (name : List Char) :
    Splits name (splitName name).1 (splitName name).2 := by
  have hname : name =
      (name.reverse.dropWhile (· ≠ '.')).reverse ++ (name.reverse.takeWhile (· ≠ '.')).reverse := by
    rw [← List.reverse_append, List.takeWhile_append_dropWhile, List.reverse_reverse]
  have hback : '.' ∉ (name.reverse.takeWhile (· ≠ '.')).reverse := fun hdot => by
    simpa using List.all_eq_true.mp List.all_takeWhile _ (List.mem_reverse.mp hdot)
  -- What is left over from the end starts with a dot, the last one of the name.
  have hfirst := List.head?_dropWhile_not (· ≠ '.') name.reverse
  rw [splitName]
  generalize name.reverse.dropWhile (· ≠ '.') = front at hname hfirst
  generalize (name.reverse.takeWhile (· ≠ '.')).reverse = back at hname hback
  split
  · rw [List.reverse_nil, List.nil_append] at hname
    exact .whole fun hdot => hback (hname ▸ List.mem_of_mem_tail hdot)
  · refine .whole fun hdot => hback ?_
    rw [hname] at hdot
    exact hdot
  · next dot stem hstem =>
    obtain rfl : dot = '.' := by simpa using hfirst
    rw [hname, List.reverse_cons, List.append_assoc, List.singleton_append]
    refine .atDot ?_ hback
    rw [Ne, List.reverse_eq_nil_iff]
    rintro rfl
    exact hstem rfl

/-- What a file name is cut into is what it is made of: `Splits` is the graph of `splitName`. -/
theorem splitName_eq_iff {name stem : List Char} {ext : Option (List Char)} :
    splitName name = (stem, ext) ↔ Splits name stem ext := by
  constructor
  · intro h
    have hsplits := splits_splitName name
    rw [h] at hsplits
    exact hsplits
  · have hpass {text : List Char} (h : '.' ∉ text) (rest : List Char) :
        (text.reverse ++ rest).dropWhile (· ≠ '.') = rest.dropWhile (· ≠ '.') ∧
          (text.reverse ++ rest).takeWhile (· ≠ '.') =
            text.reverse ++ rest.takeWhile (· ≠ '.') := by
      have hall : ∀ c ∈ text.reverse, decide (c ≠ '.') = true := by
        intro c hc
        rw [decide_eq_true_eq]
        rintro rfl
        exact h (List.mem_reverse.mp hc)
      exact ⟨List.dropWhile_append_of_pos hall, List.takeWhile_append_of_pos hall⟩
    rintro (⟨h⟩ | @⟨stem, ext, hstem, hext⟩)
    · cases name with
      | nil => rfl
      | cons c rest =>
        have hrest : '.' ∉ rest := h
        rw [splitName, List.reverse_cons, (hpass hrest [c]).1]
        by_cases hc : c = '.' <;> simp [hc]
    · obtain ⟨c, rest, hrest⟩ := List.exists_cons_of_ne_nil (List.reverse_ne_nil_iff.mpr hstem)
      have hreverse : (stem ++ '.' :: ext).reverse = ext.reverse ++ '.' :: c :: rest := by
        rw [List.reverse_append, List.reverse_cons, List.append_assoc, hrest, List.singleton_append]
      rw [splitName, hreverse, (hpass hext _).1, (hpass hext _).2]
      show ((c :: rest).reverse, some (ext.reverse ++ []).reverse) = (stem, some ext)
      rw [← hrest, List.reverse_reverse, List.append_nil, List.reverse_reverse]

end LspSession.Path
