import LspSession.Log.Pattern.Basic
import LspSession.Text.Alphanumeric

/-!
# `LspSession.Log.Pattern.Reader`: reading patterns

A character that is no operator stands for itself, and so does an operator behind a backslash. A
backslash gives some letters another meaning. The members of a set stand in square brackets, a group
in round ones, and alternatives between bars. A star, a plus sign or a question mark behind a part
repeats it, and another question mark behind that belongs to it. Behind the opening bracket of a
group there can be a question mark with a name or with flags.

Blanks and comments are skipped between parts where the flags say so. Bounds in braces are read as
faults, because a pattern ends before the first closing brace.
-/

set_option autoImplicit false

namespace LspSession.Log.Pattern

/-- What is left of a pattern, and what matters of what was read for reading it. -/
structure Rest where
  text : List Char
  /-- Whether blanks and comments are skipped. -/
  spacious : Bool
  /-- The names of the groups so far. -/
  names : List (List Char)

/-- Reads a part of a pattern, or fails. What it leaves is the `Rest` behind that part. -/
abbrev Reader := StateT Rest Option

namespace Reader

/-! ### Characters -/

/-- A text behind the blanks and comments that it starts with. A comment goes from a number sign to
the end of its line. -/
def behindBlanks (isComment : Bool) : List Char → List Char
  | [] => []
  | c :: rest =>
    if isComment then behindBlanks (c != '\n') rest
    else if Text.isBlank c then behindBlanks false rest
    else if c == '#' then behindBlanks true rest
    else c :: rest

/-- Goes on with a text, which is some end of the one before. -/
def goOn (text : List Char) : Reader Unit := modify fun s => { s with text := text }

/-- Skips blanks and comments, where the flags say that this is done. -/
def skipBlanks : Reader Unit :=
  modify fun s => { s with text := if s.spacious then behindBlanks false s.text else s.text }

/-- Takes the next character, and fails at the end. -/
def take : Reader Char := do
  match (← get).text with
  | [] => failure
  | c :: rest =>
    goOn rest
    return c

/-- Takes a character, if it comes next, and answers whether it did. -/
def takeIf (c : Char) : Reader Bool := do
  match (← get).text with
  | [] => return false
  | d :: rest =>
    if c == d then goOn rest
    return c == d

/-- The character that comes next behind blanks. A number sign among them is skipped, too, though
not the comment that it starts. -/
def seenBehind (spacious : Bool) (text : List Char) : Option Char :=
  if !spacious then text.head?
  else
    let seen := match text.dropWhile Text.isBlank with
      | '#' :: rest => (rest.dropWhile Text.isBlank).head?
      | rest => rest.head?
    seen.or text.head?

/-! ### Escapes -/

/-- The value of a hexadecimal digit of either case. -/
def digit? (c : Char) : Option Nat :=
  if c.isDigit then some (c.toNat - 48)
  else if 'a' ≤ c ∧ c ≤ 'f' then some (c.toNat - 87)
  else if 'A' ≤ c ∧ c ≤ 'F' then some (c.toNat - 55)
  else none

/-- Reads so many digits of a number, which may have blanks between them. -/
def number : Nat → Nat → Reader Nat
  | 0, value => return value
  | count + 1, value => do
    match digit? (← take) with
    | none => failure
    | some digit =>
      skipBlanks
      number count (16 * value + digit)

/-- Reads a character by its number in so many digits. Two digits make it a byte where the pattern
is about bytes. -/
def numbered (count : Nat) : Reader Node := do
  skipBlanks
  let value ← number count 0
  if Nat.isValidChar value then return .letter ⟨Char.ofNat value, count == 2⟩ else failure

/-- The controls that are written with a letter. -/
def controls : List (Char × Char) :=
  [('a', '\x07'), ('f', '\x0C'), ('t', '\t'), ('n', '\n'), ('r', '\r'), ('v', '\x0B')]

/-- Reads what stands behind a backslash. The name of a property is left, because no pattern with a
property can be used. -/
def escape : Reader Node := do
  match ← take with
  | 'x' => numbered 2
  | 'u' => numbered 4
  | 'U' => numbered 8
  | 'p' | 'P' => return .property
  | 'd' | 's' | 'w' => return .shorthand false
  | 'D' | 'S' | 'W' => return .shorthand true
  | 'A' | 'z' => return .border
  | 'b' | 'B' | '<' | '>' => return .wordBorder
  | c =>
    match controls.lookup c with
    | some control => return .letter ⟨control, false⟩
    | none => if c.toNat < 0x80 ∧ !c.isAlphanum then return .letter ⟨c, false⟩ else failure

/-! ### Sets -/

/-- What a part of a pattern is in a set. A place is none, so its escape cannot stand there. -/
def member : Node → Reader Member
  | .letter letter => return .letter letter
  | .shorthand negated => return .shorthand negated
  | .property => return .property
  | _ => failure

/-- Reads a character in a set, or what is written for one. -/
def item : Reader Node := do
  let c ← take
  if c = '\\' then escape else return .letter ⟨c, false⟩

/-- Reads a member of a set or a range. A hyphen before the end of the set or another hyphen makes
no range. -/
def itemOrRange : Reader Member := do
  let first ← item
  skipBlanks
  let s ← get
  match s.text with
  | '-' :: rest =>
    let seen := seenBehind s.spacious rest
    if seen = some ']' ∨ seen = some '-' then member first
    else
      goOn rest
      skipBlanks
      match first, ← item with
      | .letter low, .letter high =>
        if low.char ≤ high.char then return .range low high else failure
      | _, _ => failure
  | _ => member first

/-- The names of classes of ASCII characters. Any other name makes the bracket one of a set. -/
def classes : List String :=
  ["alnum", "alpha", "ascii", "blank", "cntrl", "digit", "graph", "lower", "print", "punct",
    "space", "upper", "word", "xdigit"]

/-- Reads a class by its name behind an opening bracket, and gives the rest behind it. -/
def named? : List Char → Option (Bool × List Char)
  | ':' :: text =>
    let negated := text.head? = some '^'
    let text := if negated then text.tail else text
    let name := text.takeWhile (· ≠ ':')
    match text.drop name.length with
    | ':' :: ']' :: rest =>
      if classes.contains (String.ofList name) then some (negated, rest) else none
    | _ => none
  | _ => none

/-- Reads hyphens, at most so many. At the start of a set they are members of it. -/
def hyphens : Nat → Reader (List Member)
  | 0 => return []
  | steps + 1 => do
    if ← takeIf '-' then
      skipBlanks
      return .letter ⟨'-', false⟩ :: (← hyphens steps)
    else return []

/-- Reads what a set can start with: whether it is negated, and hyphens or a bracket that are its
first members. -/
def setStart : Reader (Bool × List Member) := do
  skipBlanks
  let negated ← takeIf '^'
  if negated then skipBlanks
  let first ← hyphens (← get).text.length
  if first.isEmpty then
    if ← takeIf ']' then
      skipBlanks
      return (negated, [.letter ⟨']', false⟩])
  return (negated, first)

/-- The content that the members read last make with what is on the left of an operator. -/
def joined (left : Option Member) (members : List Member) : Member :=
  let right := Member.ofList members.reverse
  match left with
  | none => right
  | some left => .operation left right

/-- Reads the content of a set up to its closing bracket in at most so many steps. The members so
far are given newest first. -/
def content : Nat → Option Member → List Member → Reader Member
  | 0, _, _ => failure
  | steps + 1, left, members => do
    skipBlanks
    match (← get).text with
    | ']' :: rest =>
      goOn rest
      return joined left members
    | '&' :: '&' :: rest | '-' :: '-' :: rest | '~' :: '~' :: rest =>
      goOn rest
      content steps (some (joined left members)) []
    | '[' :: rest =>
      match named? rest with
      | some (negated, rest) =>
        goOn rest
        content steps left (.named negated :: members)
      | none =>
        goOn rest
        let (negated, first) ← setStart
        let inner ← content steps none first.reverse
        content steps left (.set negated inner :: members)
    | _ =>
      let m ← itemOrRange
      content steps left (m :: members)

/-! ### Groups -/

/-- What an opening bracket with all that belongs to it starts. -/
inductive Start where
  /-- Nothing, but it switches flags. -/
  | switches (switches : Switches)
  | group (switches : Switches)

/-- The flags that letters stand for. Those behind a hyphen are switched off, and none may be
switched twice. -/
def switches? (letters : List Char) : Option Switches := do
  let on := letters.takeWhile (· ≠ '-')
  let rest := letters.drop on.length
  let on ← on.mapM fun c => Flag.letters.lookup c
  let off ← rest.tail.mapM fun c => Flag.letters.lookup c
  if rest = ['-'] ∨ (on ++ off).eraseDups.length ≠ (on ++ off).length then none
  else return on.map (·, true) ++ off.map (·, false)

/-- Whether a character can stand in the name of a group, which starts with a letter or an
underscore. -/
def isNameChar (isFirst : Bool) (c : Char) : Bool :=
  c == '_' ||
    if isFirst then Text.isAlphabetic c else Text.isAlphanumeric c || ['.', '[', ']'].contains c

/-- Reads the name of a group, which no other one has. It ends with the bracket of its own. -/
def groupName : Reader Unit := do
  let s ← get
  let name := s.text.takeWhile (· ≠ '>')
  match name, s.text.drop name.length with
  | first :: more, '>' :: rest =>
    if isNameChar true first ∧ more.all (isNameChar false) ∧ !s.names.contains name then
      set { s with text := rest, names := name :: s.names }
    else failure
  | _, _ => failure

/-- Reads what belongs to an opening bracket: nothing, a name, or flags for the group or from here
on. -/
def start : Reader Start := do
  skipBlanks
  match (← get).text with
  | '?' :: 'P' :: '<' :: rest | '?' :: '<' :: rest =>
    goOn rest
    groupName
    return .group []
  | '?' :: rest =>
    let letters := rest.takeWhile fun c => c ≠ ':' ∧ c ≠ ')'
    match switches? letters, rest.drop letters.length with
    | some switches, ':' :: rest =>
      goOn rest
      return .group switches
    | some switches, ')' :: rest =>
      goOn rest
      if letters = [] then failure else return .switches switches
    | _, _ => failure
  | _ => return .group []

/-! ### Patterns -/

/-- Reads a part that is no operator. -/
def single : Reader Node := do
  match ← take with
  | '\\' => escape
  | '.' => return .dot
  | '^' | '$' => return .border
  | c => return .letter ⟨c, false⟩

/-- The pattern of the alternatives so far and the parts of the last one, newest first. -/
def finished (branches parts : List Node) : Node :=
  Node.ofChoice (Node.ofRow parts.reverse :: branches).reverse

/-- Reads a pattern in at most so many steps, up to the closing bracket of its group or up to the
end. The alternatives so far, and the parts of the last one, are given newest first. -/
def body (inGroup : Bool) : Nat → List Node → List Node → Reader Node
  | 0, _, _ => failure
  | steps + 1, branches, parts => do
    skipBlanks
    match (← get).text with
    | [] => if inGroup then failure else return finished branches parts
    | ')' :: rest =>
      goOn rest
      if inGroup then return finished branches parts else failure
    | '|' :: rest =>
      goOn rest
      body inGroup steps (Node.ofRow parts.reverse :: branches) []
    | '(' :: rest =>
      goOn rest
      -- What flags switch inside the group ends with it.
      let before := (← get).spacious
      match ← start with
      | .switches switches =>
        modify fun s => { s with spacious := switches.get .spacious before }
        body inGroup steps branches (.switches switches :: parts)
      | .group switches =>
        modify fun s => { s with spacious := switches.get .spacious before }
        let inner ← body true steps [] []
        modify fun s => { s with spacious := before }
        body inGroup steps branches (.group switches inner :: parts)
    | '[' :: rest =>
      goOn rest
      let (negated, first) ← setStart
      let inner ← content rest.length none first.reverse
      body inGroup steps branches (.set negated inner :: parts)
    | '*' :: rest | '+' :: rest | '?' :: rest =>
      goOn rest
      let _ ← takeIf '?'
      match parts with
      -- There is nothing that could be repeated.
      | [] | .switches _ :: _ => failure
      | part :: parts => body inGroup steps branches (.repeated part :: parts)
    | '\x7b' :: _ => failure
    | _ =>
      let part ← single
      body inGroup steps branches (part :: parts)

end Reader

/-- The pattern that a text stands for, if it can be read. Every step of `Reader.body` takes a
character, so one step more than there are characters is enough. -/
def Node.ofText? (text : List Char) : Option Node :=
  ((Reader.body false (text.length + 1) [] []).run ⟨text, false, []⟩).map (·.1)

end LspSession.Log.Pattern
