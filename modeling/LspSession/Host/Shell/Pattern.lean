import LspSession.Host.Shell.Syntax

/-!
# `LspSession.Host.Shell.Pattern`: patterns for texts

A pattern stands for texts. A star stands for any text, a question mark for any character, and
brackets for one character out of some, which are listed one by one, as ranges or by the name of
their class. Every other character, and every character in quotes, stands for itself.
-/

set_option autoImplicit false

namespace LspSession.Shell

/-- What is listed in brackets. -/
inductive Listing where
  | range (first last : Char)
  /-- All characters of a class. -/
  | named (name : Text)
  deriving DecidableEq, Repr

/-- A part of a pattern. -/
inductive Wildcard where
  | exactly (c : Char)
  | any
  | many
  /-- A character that is listed, or one that is not. -/
  | oneOf (negated : Bool) (listings : List Listing)
  deriving DecidableEq, Repr

/-- A pattern. -/
abbrev Pattern := List Wildcard

/-- Whether a character stands on paper as a sign of its own. -/
def isGraphic (c : Char) : Bool := '!' ≤ c && c ≤ '~'

/-- Whether a character belongs to a class. -/
def isInClass (name : Text) (c : Char) : Bool :=
  let isLower := 'a' ≤ c && c ≤ 'z'
  let isUpper := 'A' ≤ c && c ≤ 'Z'
  let isAlnum := isLower || isUpper || isDigit c
  match String.ofList name with
  | "alpha" => isLower || isUpper
  | "digit" => isDigit c
  | "alnum" => isAlnum
  | "lower" => isLower
  | "upper" => isUpper
  | "blank" => isBlank c
  | "space" => c == ' ' || ('\t' ≤ c && c ≤ '\r')
  | "punct" => isGraphic c && !isAlnum
  | "graph" => isGraphic c
  | "print" => isGraphic c || c == ' '
  | "cntrl" => c < ' ' || c == '\x7f'
  | "xdigit" => isDigit c || ('a' ≤ c && c ≤ 'f') || ('A' ≤ c && c ≤ 'F')
  | _ => false

namespace Listing

/-- Whether a character is listed. -/
def holds (c : Char) : Listing → Bool
  | .range first last => first ≤ c && c ≤ last
  | .named name => isInClass name c

end Listing

namespace Wildcard

/-- Whether a part that stands for one character stands for a certain one. -/
def holds (c : Char) : Wildcard → Bool
  | .exactly d => c == d
  | .any => true
  | .many => false
  | .oneOf negated listings => listings.any (·.holds c) != negated

end Wildcard

namespace Pattern

/-- The name of a class between colons at the start of a text, and what follows it. -/
def className? (text : List (Char × Bool)) : Option (Text × List (Char × Bool)) :=
  match text with
  | ('[', _) :: (':', _) :: rest =>
    let name := rest.takeWhile fun (c, _) => 'a' ≤ c && c ≤ 'z'
    match rest.drop name.length with
    | (':', _) :: (']', _) :: rest => some (name.map (·.1), rest)
    | _ => none
  | _ => none

/-- What is listed up to a closing bracket, and what follows it, found in at most so many steps. A
bracket that comes first does not close. -/
def listings? : Nat → Bool → List (Char × Bool) → Option (List Listing × List (Char × Bool))
  | 0, _, _ => none
  | _ + 1, _, [] => none
  | steps + 1, first, (c, quoted) :: rest =>
    if c = ']' ∧ !quoted ∧ !first then some ([], rest)
    else
      match if quoted then none else className? ((c, quoted) :: rest) with
      | some (name, rest) =>
        (listings? steps false rest).map fun (more, rest) => (.named name :: more, rest)
      | none =>
        match rest with
        | ('-', false) :: (last, quoted) :: after =>
          if last = ']' ∧ !quoted then
            (listings? steps false rest).map fun (more, rest) => (.range c c :: more, rest)
          else
            (listings? steps false after).map fun (more, rest) => (.range c last :: more, rest)
        | rest => (listings? steps false rest).map fun (more, rest) => (.range c c :: more, rest)

/-- What is listed behind an opening bracket, and what follows the closing one. -/
def brackets? (text : List (Char × Bool)) : Option (Wildcard × List (Char × Bool)) :=
  let negated := match text with
    | ('!', false) :: _ => true
    | _ => false
  let text := if negated then text.tail else text
  (listings? (text.length + 1) true text).map fun (listings, rest) =>
    (.oneOf negated listings, rest)

/-- The pattern that characters make up, of which some are in quotes, found in at most so many
steps. -/
def ofCharsWithin : Nat → List (Char × Bool) → Pattern
  | 0, _ => []
  | _ + 1, [] => []
  | steps + 1, (c, quoted) :: rest =>
    if quoted then .exactly c :: ofCharsWithin steps rest
    else
      match c with
      | '*' => .many :: ofCharsWithin steps rest
      | '?' => .any :: ofCharsWithin steps rest
      | '[' =>
        match brackets? rest with
        | some (wildcard, rest) => wildcard :: ofCharsWithin steps rest
        | none => .exactly c :: ofCharsWithin steps rest
      | '\\' =>
        match rest with
        | (d, _) :: rest => .exactly d :: ofCharsWithin steps rest
        | [] => [.exactly c]
      | _ => .exactly c :: ofCharsWithin steps rest

/-- The pattern that characters make up, of which some are in quotes. -/
def ofChars (text : List (Char × Bool)) : Pattern := ofCharsWithin (text.length + 1) text

/-- The texts that a text ends with, longest first. -/
def tails : Text → List Text
  | [] => [[]]
  | c :: rest => (c :: rest) :: tails rest

/-- Whether a pattern stands for a text. -/
def holds : Pattern → Text → Bool
  | [], text => text.isEmpty
  | .many :: rest, text => (tails text).any (holds rest)
  | w :: rest, c :: text => w.holds c && holds rest text
  | _ :: _, [] => false

/-- The lengths up to a greatest one, from the least or from the greatest on. -/
def lengths (longest : Bool) (most : Nat) : List Nat :=
  let all := List.range (most + 1)
  if longest then all.reverse else all

/-- A text without what a pattern stands for at its start. -/
def cutStart (pattern : Pattern) (longest : Bool) (text : Text) : Text :=
  match (lengths longest text.length).find? fun n => holds pattern (text.take n) with
  | some n => text.drop n
  | none => text

/-- A text without what a pattern stands for at its end. -/
def cutEnd (pattern : Pattern) (longest : Bool) (text : Text) : Text :=
  match (lengths longest text.length).find? fun n =>
      holds pattern (text.drop (text.length - n)) with
  | some n => text.take (text.length - n)
  | none => text

/-- Whether something in a pattern does not stand for itself. -/
def isWild (pattern : Pattern) : Bool :=
  pattern.any fun
    | .exactly _ => false
    | _ => true

end Pattern

end LspSession.Shell
