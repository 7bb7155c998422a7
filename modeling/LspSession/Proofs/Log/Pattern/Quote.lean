import LspSession.Log.Pattern.Usable
import LspSession.Proofs.Log.Pattern.Steps

/-!
# `LspSession.Proofs.Log.Pattern.Quote`: patterns for single texts

Whoever wants a field to have one certain value writes that value as a pattern. Some characters mean
something else there, so `quote` puts a backslash before each of the `operators`. The theorems:

* `Reader.body_letter` and `Reader.body_operator`: one character, bare or behind a backslash, is
  read as itself. Together they are one step of a quoted text, and `Reader.body_quote` is all of
  them.
* `Node.ofText?_quote`: a quoted text is read as the row of its characters, and as nothing else.
* `isUsable_quote`: every quoted text can be used, however long it is. A row is nested only once,
  and characters need none of the flags that are refused.
-/

set_option autoImplicit false

namespace LspSession.Log.Pattern

/-- The characters that mean something else than themselves in some place of a pattern: between its
parts, in a set, or where blanks and comments are skipped. -/
def operators : List Char :=
  ['\\', '.', '+', '*', '?', '(', ')', '|', '[', ']', '\x7b', '\x7d', '^', '$', '#', '&', '-', '~']

/-- The pattern for one text: each of the `operators` stands behind a backslash, and all other
characters stand for themselves. -/
def quote (text : List Char) : List Char :=
  text.flatMap fun c => if c ∈ operators then ['\\', c] else [c]

/-- Quoting adds no character but the backslash. So a text that is cut at another one, as the field
of a rule is cut at its equals sign, is cut in the same places once it is quoted. -/
theorem not_mem_quote {text : List Char} {c : Char} (h : c ∉ text) (hslash : c ≠ '\\') :
    c ∉ quote text := by
  intro hmem
  obtain ⟨d, hd, hmem⟩ := List.mem_flatMap.mp hmem
  split at hmem
  · rcases List.mem_cons.mp hmem with rfl | hmem
    · exact hslash rfl
    · exact h (List.mem_singleton.mp hmem ▸ hd)
  · exact h (List.mem_singleton.mp hmem ▸ hd)

/-- The part of a pattern that a character stands for: a `letter` that is matched as it is, in the
case in which it is written. -/
def literal (c : Char) : Node := .letter ⟨c, false⟩

namespace Reader

variable {inGroup : Bool} {steps : Nat} {branches parts : List Node} {c : Char} {rest : List Char}
  {names : List (List Char)}

/-- `single` reads a character that is none of the `operators` as itself, and goes on behind it. -/
theorem single_of_not_mem {spacious : Bool} (h : c ∉ operators) :
    single.run ⟨c :: rest, spacious, names⟩ = some (literal c, ⟨rest, spacious, names⟩) := by
  have htake : take.run ⟨c :: rest, spacious, names⟩ = some (c, ⟨rest, spacious, names⟩) := rfl
  unfold single
  rw [StateT.run_bind, htake]
  dsimp only [Option.bind_eq_bind, Option.bind_some]
  split
  iterate 4 exact absurd (by decide) h
  rfl

/-- One step of `body` on a character that is none of the `operators`: it becomes a part, and the
rest is read as before. -/
theorem body_letter (h : c ∉ operators) :
    (body inGroup (steps + 1) branches parts).run ⟨c :: rest, false, names⟩ =
      (body inGroup steps branches (literal c :: parts)).run ⟨rest, false, names⟩ := by
  have hsingle : single.run ⟨c :: rest, false, names⟩ = some (literal c, ⟨rest, false, names⟩) :=
    single_of_not_mem h
  rw [body.eq_def]
  simp only [StateT.run_bind, skipBlanks, StateT.run_modify, StateT.run_get, pure_bind,
    Bool.false_eq_true, ↓reduceIte]
  split
  · next hnil => cases hnil
  -- Every other case but the last starts with one of the operators.
  iterate 8
    next hbehind =>
      obtain ⟨rfl, -⟩ := List.cons.inj hbehind
      exact absurd (by decide) h
  rw [StateT.run_bind, hsingle]
  rfl

/-- One step of `body` on one of the `operators` behind a backslash: it becomes a part as it is,
because `escape` gives no other meaning to it. -/
theorem body_operator (h : c ∈ operators) :
    (body inGroup (steps + 1) branches parts).run ⟨'\\' :: c :: rest, false, names⟩ =
      (body inGroup steps branches (literal c :: parts)).run ⟨rest, false, names⟩ := by
  simp only [operators, List.mem_cons, List.not_mem_nil, or_false] at h
  rcases h with rfl | rfl | rfl | rfl | rfl | rfl | rfl | rfl | rfl | rfl | rfl | rfl | rfl | rfl |
    rfl | rfl | rfl | rfl <;> rfl

/-- `body` takes as many steps for a quoted text as it has characters. They are the next parts, and
`parts` has them newest first. -/
theorem body_quote {text : List Char} :
    (body inGroup (steps + text.length) branches parts).run ⟨quote text ++ rest, false, names⟩ =
      (body inGroup steps branches ((text.map literal).reverse ++ parts)).run
        ⟨rest, false, names⟩ := by
  induction text generalizing parts with
  | nil => rfl
  | cons c text ih =>
    -- The parts are kept newest first, so the character comes behind those that follow it.
    have hlast : ((c :: text).map literal).reverse ++ parts =
        (text.map literal).reverse ++ literal c :: parts := by
      rw [List.map_cons, List.reverse_cons, List.append_assoc, List.singleton_append]
    have hsteps : steps + (c :: text).length = steps + text.length + 1 := by
      rw [List.length_cons, Nat.add_assoc]
    rw [hlast, hsteps, ← ih]
    by_cases hc : c ∈ operators
    · have hquote : quote (c :: text) ++ rest = '\\' :: c :: (quote text ++ rest) := by
        unfold quote
        rw [List.flatMap_cons, if_pos hc]
        rfl
      rw [hquote, body_operator hc]
    · have hquote : quote (c :: text) ++ rest = c :: (quote text ++ rest) := by
        unfold quote
        rw [List.flatMap_cons, if_neg hc]
        rfl
      rw [hquote, body_letter hc]

end Reader

/-- A quoted text is read, and what it is read as is the row of its characters. In particular
different texts stand for different patterns. -/
theorem Node.ofText?_quote (text : List Char) :
    Node.ofText? (quote text) = some (Node.ofRow (text.map literal)) := by
  have hlt : (quote text).length < (quote text).length + 1 + text.length := by omega
  have hrun : (Reader.body false ((quote text).length + 1 + text.length) [] []).run
      ⟨quote text ++ [], false, []⟩ =
        (Reader.body false ((quote text).length + 1) [] ((text.map literal).reverse ++ [])).run
          ⟨[], false, []⟩ := Reader.body_quote
  rw [List.append_nil, List.append_nil] at hrun
  -- There may be more steps than `Node.ofText?` gives, so one is added for each character.
  rw [Node.ofText?_eq_of_lt hlt, hrun]
  show some (Reader.finished [] (text.map literal).reverse) = _
  unfold Reader.finished
  rw [List.reverse_reverse]
  rfl

/-- Characters are not nested, so `greatestDepth` finds no depth among them. -/
theorem Node.greatestDepth_literals (text : List Char) :
    Node.greatestDepth (text.map literal) = 0 := by
  induction text with
  | nil => rfl
  | cons c text ih =>
    show max 0 (Node.greatestDepth (text.map literal)) = 0
    rw [ih]
    rfl

/-- A row of characters is nested at most once, however long it is: none or one of them makes no row
at all (`Node.ofRow`). -/
theorem Node.depth_ofRow_literals (text : List Char) :
    (Node.ofRow (text.map literal)).depth ≤ 1 := by
  match text with
  | [] => exact Nat.zero_le _
  | [c] => exact Nat.zero_le _
  | c :: d :: text =>
    have hflat := Node.greatestDepth_literals (c :: d :: text)
    show Node.greatestDepth ((c :: d :: text).map literal) + 1 ≤ 1
    omega

/-- Where the flags are as at the start (`Manner.usual`), every character can be used and leaves
them so. -/
theorem Manner.behindAll?_literals (text : List Char) :
    Manner.usual.behindAll? (text.map literal) = some Manner.usual := by
  induction text with
  | nil => rfl
  | cons c text ih => exact ih

/-- The same of the pattern that they make, as `Node.ofRow` puts them together. -/
theorem Manner.behind?_ofRow_literals (text : List Char) :
    Manner.usual.behind? (Node.ofRow (text.map literal)) = some Manner.usual := by
  match text with
  | [] => rfl
  | [c] => rfl
  | c :: d :: text => exact Manner.behindAll?_literals (c :: d :: text)

/-- Every text can be asked for: its quoted form is a pattern that can be used, since it is read and
neither its depth nor its flags are beyond what is allowed. -/
theorem isUsable_quote (text : List Char) : isUsable (quote text) = true := by
  have hdepth : (Node.ofRow (text.map literal)).depth ≤ greatestDepth :=
    Nat.le_trans (Node.depth_ofRow_literals text) (by decide)
  unfold isUsable
  rw [Node.ofText?_quote, Option.any_some, Manner.behind?_ofRow_literals,
    decide_eq_true hdepth]
  rfl

end LspSession.Log.Pattern
