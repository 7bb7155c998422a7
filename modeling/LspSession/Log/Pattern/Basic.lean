import LspSession.Text.Blank

/-!
# `LspSession.Log.Pattern.Basic`: patterns for the values of fields

A pattern stands for a set of texts. It is built from characters, sets of characters, places in a
text, repetitions, groups and alternatives. Flags change what its parts stand for, from where they
are written on to the end of their group, or in one group alone.

Patterns can be nested only so deep: `Node.depth` counts the rows, alternatives, groups, repetitions
and sets that a part stands in.
-/

set_option autoImplicit false

namespace LspSession.Log.Pattern

/-- What a letter among the flags switches. Only `unicode`, `foldsCase` and `spacious` matter for
whether a pattern can be used. -/
inductive Flag where
  /-- Small and capital letters are the same. -/
  | foldsCase
  /-- The start and the end of a line are places of their own. -/
  | findsLines
  /-- A dot stands for the end of a line, too. -/
  | dotTakesAll
  /-- Repetitions take as little as they can. -/
  | isModest
  /-- The pattern is about characters and not about bytes. -/
  | unicode
  /-- A line can end with a carriage return. -/
  | carriageReturn
  /-- Blanks and comments between the parts of the pattern are skipped. -/
  | spacious
  deriving DecidableEq, Repr

namespace Flag

/-- The flags by their letters. Other letters are no flags. -/
def letters : List (Char × Flag) :=
  [('i', foldsCase), ('m', findsLines), ('s', dotTakesAll), ('U', isModest), ('u', unicode),
    ('R', carriageReturn), ('x', spacious)]

end Flag

/-- Flags that are switched on or off, each at most once. -/
abbrev Switches := List (Flag × Bool)

/-- How a flag is switched, if it was one way before. -/
def Switches.get (s : Switches) (flag : Flag) (before : Bool) : Bool :=
  (s.lookup flag).getD before

/-- A character of a pattern, as it is written or by its number. -/
structure Letter where
  char : Char
  /-- Whether it is written with two digits, as bytes are. -/
  isByte : Bool
  deriving DecidableEq, Repr

/-- What is listed in a set of characters. What a class or a property stands for is left out, since
nothing is compared with it. -/
inductive Member where
  | letter (letter : Letter)
  | range (low high : Letter)
  /-- A class of ASCII characters with a name, or all others. -/
  | named (negated : Bool)
  /-- The digits, blanks or word characters, or all others. -/
  | shorthand (negated : Bool)
  /-- The characters with a property. -/
  | property
  | set (negated : Bool) (content : Member)
  | listing (members : List Member)
  /-- What is in both of two contents, in one alone or in the first alone. -/
  | operation (left right : Member)

/-- A pattern or a part of one. Places and repetitions are kept without their kind. -/
inductive Node where
  | empty
  /-- Flags from here on. -/
  | switches (switches : Switches)
  | letter (letter : Letter)
  | dot
  /-- The start or the end of a text or a line. -/
  | border
  /-- A place that has to do with words. -/
  | wordBorder
  | shorthand (negated : Bool)
  | property
  | set (negated : Bool) (content : Member)
  | repeated (node : Node)
  | group (switches : Switches) (node : Node)
  | row (nodes : List Node)
  | choice (nodes : List Node)

namespace Member

/-- The content of some members. A single one stands for itself and is not nested deeper. -/
def ofList : List Member → Member
  | [m] => m
  | ms => .listing ms

mutual

/-- How deep a member is nested: sets, listings and operations count, and an empty listing does not.
-/
def depth : Member → Nat
  | .letter _ | .range .. | .named _ | .shorthand _ | .property | .listing [] => 0
  | .set _ content => content.depth + 1
  | .listing members => greatestDepth members + 1
  | .operation left right => max left.depth right.depth + 1

/-- How deep the deepest of some members is nested. -/
def greatestDepth : List Member → Nat
  | [] => 0
  | m :: ms => max m.depth (greatestDepth ms)

end

end Member

namespace Node

/-- The pattern of some parts in a row. A single one stands for itself and is not nested deeper. -/
def ofRow : List Node → Node
  | [] => .empty
  | [n] => n
  | ns => .row ns

/-- The pattern of some alternatives. A single one stands for itself and is not nested deeper. -/
def ofChoice : List Node → Node
  | [n] => n
  | ns => .choice ns

mutual

/-- How deep a pattern is nested, with its sets. -/
def depth : Node → Nat
  | .empty | .switches _ | .letter _ | .dot | .border | .wordBorder | .shorthand _ | .property => 0
  | .set _ content => content.depth + 1
  | .repeated node => node.depth + 1
  | .group _ node => node.depth + 1
  | .row nodes => greatestDepth nodes + 1
  | .choice nodes => greatestDepth nodes + 1

/-- How deep the deepest of some patterns is nested. -/
def greatestDepth : List Node → Nat
  | [] => 0
  | n :: ns => max n.depth (greatestDepth ns)

end

end Node

end LspSession.Log.Pattern
