import LspSession.Log.Pattern.Reader

/-!
# `LspSession.Log.Pattern.Usable`: which patterns can be used

A pattern that can be read need not be one that texts can be compared with. It has to be about whole
characters, so where it is about bytes it can name only those of ASCII and leave out none. There are
no tables of characters: where it is about characters it can neither fold case nor ask for words,
digits, blanks or properties. And it can be nested only so deep.

`Manner.behind?` follows the flags through a pattern from left to right, and stops at the first part
that cannot be used.
-/

set_option autoImplicit false

namespace LspSession.Log.Pattern

/-- What the flags that count say at a place of a pattern. -/
structure Manner where
  unicode : Bool
  foldsCase : Bool
  deriving DecidableEq, Repr

/-- Whether a character is an ASCII one, which is the same as a character and as a byte. -/
def Letter.isAscii (l : Letter) : Bool := l.char.toNat < 0x80

namespace Manner

/-- What the flags say at the start: a pattern is about characters, and case counts. -/
def usual : Manner := ⟨true, false⟩

/-- What the flags say once some have been switched. The others stay as they were. -/
def switch (m : Manner) (s : Switches) : Manner :=
  ⟨s.get .unicode m.unicode, s.get .foldsCase m.foldsCase⟩

/-- Whether a character can be used on its own. In a pattern about bytes it may take several of
them, but what is written as one byte has to be an ASCII character. -/
def admitsLetter (m : Manner) (l : Letter) : Bool :=
  if m.unicode then !m.foldsCase else l.isAscii || !l.isByte

/-- Whether a character can be used in a set, where it has to be one byte if the pattern is about
bytes. -/
def admitsListed (m : Manner) (l : Letter) : Bool :=
  if m.unicode then !m.foldsCase else l.isAscii

mutual

/-- Whether a member of a set can be used. For a set about bytes that leaves out some, the bytes in
it need not make up characters. -/
def admits (m : Manner) : Member → Bool
  | .letter letter => m.admitsListed letter
  | .range low high => m.admitsListed low && m.admitsListed high
  | .named negated => if m.unicode then !m.foldsCase else !negated
  | .shorthand negated => !m.unicode && !negated
  | .property => false
  | .set negated content => (m.unicode || !negated) && m.admits content
  | .listing members => m.admitsAll members
  | .operation left right => m.admits left && m.admits right

/-- Whether all of some members can be used. -/
def admitsAll (m : Manner) : List Member → Bool
  | [] => true
  | member :: members => m.admits member && m.admitsAll members

end

mutual

/-- What the flags say behind a pattern, if it can be used. A group gives them back as they were
before it. -/
def behind? (m : Manner) : Node → Option Manner
  | .empty | .border => some m
  | .switches switches => some (m.switch switches)
  | .letter letter => if m.admitsLetter letter then some m else none
  | .dot => if m.unicode then some m else none
  | .wordBorder => if m.unicode then none else some m
  | .shorthand negated => if m.admits (.shorthand negated) then some m else none
  | .property => none
  | .set negated content => if m.admits (.set negated content) then some m else none
  | .repeated node => m.behind? node
  | .group switches node => ((m.switch switches).behind? node).map fun _ => m
  | .row nodes => m.behindAll? nodes
  | .choice nodes => m.behindAll? nodes

/-- What the flags say behind some patterns, if they can be used. Alternatives are gone through like
parts in a row, so flags go on from one to the next. -/
def behindAll? (m : Manner) : List Node → Option Manner
  | [] => some m
  | node :: nodes => (m.behind? node).bind fun m => m.behindAll? nodes

end

end Manner

/-- How deep a pattern can be nested. The limit is that of the library that reads filters. -/
def greatestDepth : Nat := 250

/-- Whether a text is a pattern that can be used: it can be read, is not nested too deep, and all
its parts can be used. -/
def isUsable (text : List Char) : Bool :=
  (Node.ofText? text).any fun node =>
    node.depth ≤ greatestDepth && (Manner.usual.behind? node).isSome

end LspSession.Log.Pattern
