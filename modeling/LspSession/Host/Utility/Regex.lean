import LspSession.Host.Shell.Pattern

/-!
# `LspSession.Host.Utility.Regex`: regular expressions

A regular expression stands for texts, and is looked for in a text from left to right. There are two
ways to write one: in the basic way groups, bounds and alternatives are written with a backslash, in
the extended way without. Repetitions take as much as they can, and of two alternatives the one that
takes more counts.
-/

set_option autoImplicit false

namespace LspSession.Utility

open Shell (Text Listing isDigit isNameChar)

/-- A regular expression. -/
inductive Regex where
  | empty
  | char (c : Char)
  | any
  /-- A character that is listed, or one that is not. -/
  | oneOf (negated : Bool) (listings : List Listing)
  /-- The start of the text. -/
  | start
  /-- The end of the text. -/
  | finish
  /-- A place with a word on one side and none on the other: its start, its end or either. -/
  | edge (atStart atEnd : Bool)
  | group (number : Nat) (r : Regex)
  /-- The same text as a group. -/
  | again (number : Nat)
  | both (a b : Regex)
  | either (a b : Regex)
  | repeated (least : Nat) (most : Option Nat) (r : Regex)
  deriving DecidableEq, Repr

namespace Regex

/-! ### Reading -/

/-- What is left of an expression, and how many groups it has so far. -/
structure Rest where
  text : Text
  groups : Nat

/-- Reads a part of an expression. -/
abbrev Reader := StateT Rest (Except String)

/-- The characters that have a backslash sequence for a class. -/
def classes : List (Char × Bool × List Listing) :=
  let word := [Listing.named "alnum".toList, Listing.range '_' '_']
  let space := [Listing.named "space".toList]
  [('w', false, word), ('W', true, word), ('s', false, space), ('S', true, space)]

/-- Whether a text starts with an operator, which is written with a backslash or without. -/
def startsWith (extended : Bool) (c : Char) (text : Text) : Bool :=
  if extended then text.head? == some c
  else
    match text with
    | '\\' :: d :: _ => c == d
    | _ => false

/-- Takes an operator, if it comes next. -/
def takeIf (extended : Bool) (c : Char) : Reader Bool := do
  let s ← get
  if startsWith extended c s.text then
    set { s with text := s.text.drop (if extended then 1 else 2) }
    return true
  else return false

/-- Takes digits. -/
def takeNumber : Reader (Option Nat) := do
  let s ← get
  let digits := s.text.takeWhile isDigit
  set { s with text := s.text.drop digits.length }
  return if digits = [] then none
    else some (digits.foldl (fun n c => 10 * n + (c.toNat - 48)) 0)

/-- Reads the bounds of a repetition after their opening brace, if there are any. Only an extended
expression can do without them. -/
def bounds (extended : Bool) : Reader (Option (Nat × Option Nat)) := do
  let least ← takeNumber
  let isOpen ← takeIf true ','
  let most ← if isOpen then takeNumber else pure (some (least.getD 0))
  let isClosed ← takeIf extended '\x7d'
  if isClosed && (least.isSome || isOpen) then return some (least.getD 0, most)
  else if extended then return none
  else throw "Invalid content of \\\x7b\\\x7d"

/-- Whether an expression ends here, or an alternative of it. -/
def atEnd (extended : Bool) (depth : Nat) (text : Text) : Bool :=
  text.isEmpty || startsWith extended '|' text || (depth != 0 && startsWith extended ')' text)

/-- Reads the repetitions behind a part of an expression, at most so many. -/
def repetitions (extended : Bool) : Nat → Regex → Reader Regex
  | 0, r => return r
  | steps + 1, r => do
    if ← takeIf true '*' then repetitions extended steps (.repeated 0 none r)
    else if ← takeIf extended '+' then repetitions extended steps (.repeated 1 none r)
    else if ← takeIf extended '?' then repetitions extended steps (.repeated 0 (some 1) r)
    else
      let before ← get
      if !(← takeIf extended '\x7b') then return r
      match ← bounds extended with
      | some (least, most) => repetitions extended steps (.repeated least most r)
      | none =>
        set before
        return r

/-- Takes the next character with a meaning of its own, or for itself. -/
def single (extended : Bool) (first : Bool) : Reader Regex := do
  let s ← get
  let rest (n : Nat) : Reader Unit := set { s with text := s.text.drop n }
  match s.text with
  | [] => return .empty
  | '.' :: _ =>
    rest 1
    return .any
  | '[' :: text =>
    let marked := match text with
      | '^' :: text => ('!', false) :: text.map fun c => (c, false)
      | '!' :: text => ('!', true) :: text.map fun c => (c, false)
      | text => text.map fun c => (c, false)
    match Shell.Pattern.brackets? marked with
    | some (.oneOf negated listings, after) =>
      set { s with text := after.map Prod.fst }
      return .oneOf negated listings
    | _ => throw "Invalid regular expression"
  | '^' :: _ =>
    rest 1
    return if first || extended then .start else .char '^'
  | '$' :: text =>
    rest 1
    return if extended || atEnd extended 1 text then .finish else .char '$'
  | ['\\'] => throw "Trailing backslash"
  | '\\' :: c :: _ =>
    rest 2
    match classes.lookup c with
    | some (negated, listings) => return .oneOf negated listings
    | none =>
      match c with
      | 'n' => return .char '\n'
      | 't' => return .char '\t'
      | 'b' => return .edge true true
      | '<' => return .edge true false
      | '>' => return .edge false true
      | '\x60' => return .start
      | '\'' => return .finish
      | c => return if isDigit c && c != '0' then .again (c.toNat - 48) else .char c
  | c :: _ =>
    rest 1
    return .char c

mutual

/-- Reads alternatives, going down at most so many steps. -/
def alternatives (extended : Bool) : Nat → Nat → Reader Regex
  | 0, _ => return .empty
  | steps + 1, depth => do
    let left ← row extended steps depth true
    if ← takeIf extended '|' then return .either left (← alternatives extended steps depth)
    else return left

/-- Reads a row of parts. -/
def row (extended : Bool) : Nat → Nat → Bool → Reader Regex
  | 0, _, _ => return .empty
  | steps + 1, depth, first => do
    if atEnd extended depth (← get).text then return .empty
    let part ←
      if ← takeIf extended '(' then do
        let number := (← get).groups + 1
        modify fun s => { s with groups := number }
        let inner ← alternatives extended steps (depth + 1)
        if ← takeIf extended ')' then pure (.group number inner)
        else throw "Unmatched ( or \\("
      else if first && (← takeIf true '*') then pure (.char '*')
      else single extended first
    let part ← if part = .start && !extended then do
        if ← takeIf true '*' then pure (.both .start (.char '*')) else pure part
      else repetitions extended steps part
    match ← row extended steps depth false with
    | .empty => return part
    | more => return .both part more

end

/-- The expression that a text stands for. -/
def ofText (extended : Bool) (text : Text) : Except String Regex := do
  let (r, rest) ← (alternatives extended (4 * text.length + 8) 0).run ⟨text, 0⟩
  if rest.text = [] then return r else throw "Unmatched ) or \\)"

/-! ### Looking -/

/-- A text that is looked through. -/
structure Subject where
  text : Array Char
  /-- Whether capital letters are the same as small ones. -/
  foldsCase : Bool

/-- A place in a text, and where the groups were found. -/
structure Found where
  position : Nat
  groups : List (Nat × Nat × Nat)

namespace Subject

/-- A character as it is compared. -/
def fold (s : Subject) (c : Char) : Char := if s.foldsCase then c.toLower else c

/-- Whether there is a word at a place. -/
def isWordAt (s : Subject) (position : Nat) : Bool := s.text[position]?.any isNameChar

/-- Whether there is a word before a place. -/
def isWordBefore (s : Subject) (position : Nat) : Bool :=
  position != 0 && s.isWordAt (position - 1)

/-- The text between two places. -/
def slice (s : Subject) (low high : Nat) : Text := (s.text.extract low high).toList

end Subject

/-- The one of two results that ends later. -/
def longer : Option Found → Option Found → Option Found
  | some a, some b => some (if a.position < b.position then b else a)
  | some a, none => some a
  | none, b => b

/-- Tries what is repeated at most so many times, as often as it can be. -/
def tryAgain (once : Found → (Found → Option Found) → Option Found) (next : Found → Option Found) :
    Nat → Nat → Option Nat → Found → Option Found
  | 0, least, _, found => if least = 0 then next found else none
  | times + 1, least, most, found =>
    let more :=
      if most = some 0 then none
      else once found fun after =>
        if after.position = found.position ∧ least = 0 then none
        else tryAgain once next times (least - 1) (most.map (· - 1)) after
    match more with
    | some result => some result
    | none => if least = 0 then next found else none

/-- Looks for an expression at a place, and goes on after it. -/
def lookAt (s : Subject) : Regex → Found → (Found → Option Found) → Option Found
  | .empty, found, next => next found
  | .char c, found, next =>
    if s.text[found.position]?.any fun d => s.fold d == s.fold c then
      next { found with position := found.position + 1 }
    else none
  | .any, found, next =>
    if found.position < s.text.size then next { found with position := found.position + 1 }
    else none
  | .oneOf negated listings, found, next =>
    let holds (c : Char) : Bool := listings.any fun l =>
      l.holds c || (s.foldsCase && (l.holds c.toLower || l.holds c.toUpper))
    if s.text[found.position]?.any fun c => holds c != negated then
      next { found with position := found.position + 1 }
    else none
  | .start, found, next => if found.position = 0 then next found else none
  | .finish, found, next => if found.position = s.text.size then next found else none
  | .edge atStart atEnd, found, next =>
    let before := s.isWordBefore found.position
    let after := s.isWordAt found.position
    if (atStart && !before && after) || (atEnd && before && !after) then next found else none
  | .group number r, found, next =>
    r.lookAt s found fun after =>
      next { after with groups := (number, found.position, after.position) ::
        after.groups.filter fun (other, _) => other != number }
  | .again number, found, next =>
    match found.groups.lookup number with
    | none => none
    | some (low, high) =>
      let stop := found.position + (high - low)
      if (s.slice found.position stop).map s.fold = (s.slice low high).map s.fold then
        next { found with position := stop }
      else none
  | .both a b, found, next => a.lookAt s found fun after => b.lookAt s after next
  | .either a b, found, next => longer (a.lookAt s found next) (b.lookAt s found next)
  | .repeated least most r, found, next =>
    tryAgain (fun found next => r.lookAt s found next) next (s.text.size + least + 1) least most
      found

/-- Where an expression is found in a text from one of some places on: its start and its end, and
the groups. -/
def findFrom (r : Regex) (s : Subject) : List Nat → Option (Nat × Found)
  | [] => none
  | position :: rest =>
    match r.lookAt s ⟨position, []⟩ some with
    | some found => some (position, found)
    | none => findFrom r s rest

/-- Where an expression is first found in a text from a place on. -/
def find? (r : Regex) (s : Subject) (least : Nat) : Option (Nat × Found) :=
  r.findFrom s ((List.range (s.text.size + 1 - least)).map (least + ·))

end Regex

end LspSession.Utility
