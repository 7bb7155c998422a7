import LspSession.Host.Shell.Arithmetic
import LspSession.Host.Shell.Pattern

/-!
# `LspSession.Host.Shell.Expansion`: what words stand for

A word stands for a text or for several. Variables and parameters give way to their values, a
command in parentheses gives way to what it writes, and an arithmetic expression to its number.
Values that stand outside quotes are split at separators into fields. The parameters in quotes make
one field each. A field with a pattern in it gives way to the paths that the pattern stands for.

Expanding gives a row of pieces, which remember where each character comes from: only characters
outside quotes have a meaning in a pattern, and only those of a value can separate fields.
-/

set_option autoImplicit false

namespace LspSession.Shell

/-- A piece of an expanded word. -/
inductive Piece where
  /-- A character that is written without quotes. -/
  | plain (c : Char)
  | quoted (c : Char)
  /-- A character of a value outside quotes. -/
  | result (c : Char)
  /-- Nothing, but in quotes, so that there is a field. -/
  | mark
  /-- The end of a field. -/
  | cut
  deriving DecidableEq, Repr

/-- What has come between the last field and the next one. -/
inductive Gap where
  /-- Nothing, or separators that are not blank. -/
  | none
  /-- Separators that are blank. -/
  | blank
  deriving DecidableEq, Repr

namespace Piece

/-- The character that a piece is, and whether it stands for itself. -/
def char? : Piece → Option (Char × Bool)
  | .plain c | .result c => some (c, false)
  | .quoted c => some (c, true)
  | .mark => none
  | .cut => some (' ', true)

/-- The text of expanded pieces. -/
def text (pieces : List Piece) : Text := (pieces.filterMap char?).map (·.1)

/-- The pattern that expanded pieces make up. -/
def pattern (pieces : List Piece) : Pattern := Pattern.ofChars (pieces.filterMap char?)

/-- The fields that expanded pieces make up. `started` is a field that has been started, in reverse,
and `found` are the fields before it, last first. Separators that are blank do not count next to
each other, next to another separator or at the start. -/
def fieldsFrom (separators : Text) (found : List (List Piece)) (started : Option (List Piece))
    (gap : Gap) : List Piece → List (List Piece)
  | [] => (close found started).reverse
  | .cut :: rest => fieldsFrom separators (close found started) none .none rest
  | .mark :: rest => fieldsFrom separators found (some (started.getD [])) .none rest
  | .result c :: rest =>
    if !separators.contains c then
      fieldsFrom separators found (some (.result c :: started.getD [])) .none rest
    else if isBlank c || c == '\n' then
      fieldsFrom separators (close found started) none
        (if started.isSome then .blank else gap) rest
    else
      match started, gap with
      | some _, _ => fieldsFrom separators (close found started) none .none rest
      | none, .blank => fieldsFrom separators found none .none rest
      | none, .none => fieldsFrom separators ([] :: found) none .none rest
  | piece :: rest => fieldsFrom separators found (some (piece :: started.getD [])) .none rest
where
  /-- Adds a field if one has been started. -/
  close (found : List (List Piece)) (started : Option (List Piece)) : List (List Piece) :=
    match started with
    | some field => field.reverse :: found
    | none => found

/-- The fields that expanded pieces make up. -/
def fields (separators : Text) (pieces : List Piece) : List (List Piece) :=
  fieldsFrom separators [] none .none pieces

end Piece

namespace Expansion

/-- What is about to be expanded: pieces that stand for themselves and then a part that does not. -/
abbrev Segment := List Piece × Option Part

/-- One more part in front of segments. -/
def addPart (part : Part) (segments : List Segment) : List Segment :=
  let addPiece (piece : Piece) : List Segment :=
    match segments with
    | (pieces, next) :: rest => (piece :: pieces, next) :: rest
    | [] => [([piece], none)]
  match part with
  | .plain c => addPiece (.plain c)
  | .quoted c => addPiece (.quoted c)
  | .mark => addPiece .mark
  | part => ([], some part) :: segments

/-- The segments of a word. -/
def segments (word : Word) : List Segment := word.foldr addPart []

/-! ### Parameters -/

/-- What stands between parameters that are joined. -/
def joint : Activity Text := do return (← Activity.separators).take 1

/-- The value of a variable or a parameter. -/
def parameter? (name : Text) : Activity (Option Text) := do
  let s ← Activity.scope
  match name with
  | ['@'] | ['*'] =>
    let joint ← joint
    return if s.parameters = [] then none else some (joint.intercalate s.parameters)
  | ['#'] => return some (ofNat s.parameters.length)
  | ['?'] => return some (ofNat s.status)
  | ['$'] => return some (ofNat s.shellId)
  | ['-'] => return some s.options
  | ['!'] => return s.background.map ofNat
  | _ =>
    match Decimal.readDigits? 0 name with
    | some 0 => return some s.name
    | some (n + 1) => return s.parameters[n]?
    | none =>
      if name = "LINENO".toList then
        return some (ofNat (s.line + 1 - s.functionLine.getD 1))
      else Activity.valueOf name

/-- The pieces of a value. -/
def ofValue (inQuotes : Bool) (value : Text) : List Piece :=
  value.map fun c => if inQuotes then .quoted c else .result c

/-- The pieces of all parameters, each in a field of its own. -/
def allParameters (inQuotes : Bool) : Activity (List Piece) := do
  let each := (← Activity.scope).parameters.map fun value =>
    (if inQuotes then [.mark] else []) ++ ofValue inQuotes value
  return [Piece.cut].intercalate each

/-- Stops because a variable has no value. -/
def missing {α : Type} (name : Text) : Activity α :=
  Activity.fail (name ++ ofString ": parameter not set")

/-- The pieces of a variable or a parameter. -/
def ofParameter (inQuotes : Bool) (name : Text) : Activity (List Piece) := do
  if name = ['@'] ∨ (name = ['*'] ∧ !inQuotes) then allParameters inQuotes
  else
    match ← parameter? name with
    | some value => return ofValue inQuotes value
    | none =>
      if name ≠ ['*'] ∧ (← Activity.hasOption 'u') then missing name
      return []

/-- Pieces of which the unquoted ones can separate fields. -/
def asResult (pieces : List Piece) : List Piece :=
  pieces.map fun
    | .plain c => .result c
    | piece => piece

/-- A text without the line ends at its end. -/
def trimLineEnds (text : Text) : Text := (text.reverse.dropWhile (· == '\n')).reverse

/-! ### Home directories -/

/-- A word in which a tilde in front gives way to a home directory. -/
def expandTilde (word : Word) : Activity Word := do
  match word with
  | .plain '~' :: rest =>
    let user := rest.takeWhile fun part => (part.plain?).any fun c => c != '/' && c != ':'
    let after := rest.drop user.length
    let ends := match after with
      | [] | .plain '/' :: _ | .plain ':' :: _ => true
      | _ => false
    if !ends then return word
    match user with
    | [] =>
      match ← Activity.valueOf "HOME".toList with
      | some home => return home.map .quoted ++ after
      | none => return word
    | _ =>
      if Word.plain? user = some "root".toList then
        return (ofString "/root").map .quoted ++ after
      else return word
  | _ => return word

/-- A value in which tildes in front and after colons give way to home directories. -/
def expandTildes (value : Word) : Activity Word := do
  if !(value.any fun part => part.isPlain '~') then return value
  let parts := value.splitOnP fun part => part.isPlain ':'
  return [Part.plain ':'].intercalate (← parts.mapM expandTilde)

/-! ### Words -/

/-- How far down expansions are followed at most. -/
def depth : Nat := 1000000000

variable (substitute : Command → Activity Text)

mutual

/-- Expands segments, behind pieces that are given in reverse. What a command in parentheses writes
is found by `substitute`. -/
def expandSegments : Nat → List (List Piece) → List Segment → Activity (List Piece)
  | 0, before, _ => return before.reverse.flatten
  | _ + 1, before, [] => return before.reverse.flatten
  | steps + 1, before, (pieces, none) :: rest => expandSegments steps (pieces :: before) rest
  | steps + 1, before, (pieces, some part) :: rest => do
    let found ← expandPart steps part
    expandSegments steps (found :: pieces :: before) rest

/-- Expands a part of a word. -/
def expandPart : Nat → Part → Activity (List Piece)
  | 0, _ => return []
  | steps + 1, part => do
    match part with
    | .plain c => return [.plain c]
    | .quoted c => return [.quoted c]
    | .mark => return [.mark]
    | .command inQuotes body => return ofValue inQuotes (trimLineEnds (← substitute body))
    | .arithmetic inQuotes expression =>
      let text := Piece.text (← expandSegments steps [] (segments expression))
      return ofValue inQuotes (ofInt (← Expression.calculate text))
    | .parameter inQuotes name use => expandUse steps inQuotes name use

/-- Expands a variable or a parameter that is used in some way. -/
def expandUse : Nat → Bool → Text → Use → Activity (List Piece)
  | 0, _, _, _ => return []
  | steps + 1, inQuotes, name, use => do
    match use with
    | .value => ofParameter inQuotes name
    | .bad => Activity.fail (ofString "Bad substitution")
    | .length =>
      match ← parameter? name with
      | some value => return ofValue inQuotes (ofNat value.length)
      | none =>
        if ← Activity.hasOption 'u' then missing name
        return ofValue inQuotes ['0']
    | .trim atEnd longest pattern =>
      let pattern := Piece.pattern (← expandSegments steps [] (segments (← expandTilde pattern)))
      match ← parameter? name with
      | some value =>
        let cut := if atEnd then Pattern.cutEnd else Pattern.cutStart
        return ofValue inQuotes (cut pattern longest value)
      | none =>
        if ← Activity.hasOption 'u' then missing name
        return []
    | .fallback kind orEmpty word =>
      let value ← parameter? name
      let isMissing := value.all fun text => orEmpty && text.isEmpty
      let expand : Activity (List Piece) := do
        let word ← if inQuotes then pure word else expandTilde word
        expandSegments steps [] (segments word)
      match kind, isMissing with
      | .alternative, true => return []
      | .alternative, false | .otherwise, true => return asResult (← expand)
      | .assign, true =>
        if !isName name then
          Activity.fail (name ++ ofString ": bad variable name")
        Activity.assign name (Piece.text (← expand))
        ofParameter inQuotes name
      | .complain, true =>
        if word.isEmpty then
          Activity.fail (name ++ ofString ": parameter not set" ++
            (if orEmpty then ofString " or null" else []))
        else Activity.fail (name ++ ofString ": " ++ Piece.text (← expand))
      | _, false => ofParameter inQuotes name

end

/-- The pieces of a word. -/
def pieces (word : Word) : Activity (List Piece) :=
  expandSegments substitute depth [] (segments word)

/-- The one text that a word stands for. -/
def text (word : Word) : Activity Text := do
  return Piece.text (← pieces substitute (← expandTilde word))

/-- The one text that the value of an assignment stands for. -/
def value (word : Word) : Activity Text := do
  return Piece.text (← pieces substitute (← expandTildes word))

/-- The pattern that a word makes up. -/
def pattern (word : Word) : Activity Pattern := do
  return Piece.pattern (← pieces substitute (← expandTilde word))

/-! ### Paths -/

/-- The names in a directory that a pattern stands for. Names that start with a point are left out
unless the pattern starts with one. -/
def namesFor (directory : Text) (pattern : Pattern) : Activity (List Text) := do
  match ← Activity.call (.list (toPath (if directory = [] then ['.'] else directory))) with
  | .error _ => return []
  | .ok names =>
    let names := ["."] ++ [".."] ++ names
    return (names.map ofString).filter fun name =>
      (name.head? != some '.' || pattern.head? == some (.exactly '.')) && pattern.holds name

/-- The paths that the parts of a path with patterns in them stand for, behind a path. -/
def pathsFrom (before : Text) : List (List (Char × Bool)) → Activity (List Text)
  | [] => return [before]
  | part :: rest => do
    let pattern := Pattern.ofChars part
    let names ←
      if pattern.isWild then namesFor before pattern
      else pure [pattern.filterMap fun
        | .exactly c => some c
        | _ => none]
    match rest with
    | [] =>
      (names.map (before ++ ·)).filterM fun path => do
        match ← Activity.call (.status (toPath path) false) with
        | .ok _ => return true
        | .error _ => return false
    | rest =>
      let mut found := []
      for name in names do
        found := found ++ (← pathsFrom (before ++ name ++ ['/']) rest)
      return found

/-- The texts that a field stands for. -/
def ofField (field : List Piece) : Activity (List Text) := do
  let chars := field.filterMap Piece.char?
  let text := chars.map (·.1)
  if (← Activity.hasOption 'f') || !(Pattern.ofChars chars).isWild then return [text]
  match ← pathsFrom [] (chars.splitOnP fun (c, _) => c == '/') with
  | [] => return [text]
  | paths => return paths

/-- The texts that a word stands for. -/
def fields (word : Word) : Activity (List Text) := do
  let found ← pieces substitute (← expandTilde word)
  let fields := Piece.fields (← Activity.separators) found
  return (← fields.mapM ofField).flatten

end Expansion

end LspSession.Shell
