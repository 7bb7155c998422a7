import LspSession.Log.Pattern.Usable
import LspSession.Log.Record
import LspSession.Text.Decimal

/-!
# `LspSession.Log.Filter`: which records are kept

A filter is a list of rules between commas. A rule that is a level holds for every part of the
program; a rule `part=level` holds for the parts whose names start so, and a rule that names a part
alone keeps everything from it. Behind the part, or in its place, a rule can have square brackets: a
field in braces between them, as in `part[\x7bfield\x7d]=level`, makes the rule hold only for
records with that field. A rule that names a scope or the value of a field there holds for nothing,
because the program opens no scopes. A value is a truth value, a number or a pattern that can be
used.

Of the rules that hold for a record the one with the longest name decides, of those with the same
name one with a field goes before one without, and the last of equal rules wins. Where none holds
nothing is kept. Levels are written by name in any case, or by number from zero, which is off.

A rule has to start with a letter, a digit, a hyphen, a colon, an underscore or a bracket. Places in
it are counted from its first character that is not blank, but its parts are taken from those places
with the blanks in front, so that names and fields behind blanks are shifted, and a level behind
blanks is none. A bad rule makes the whole filter unreadable.
-/

set_option autoImplicit false

namespace LspSession.Log

/-- The least important level that is kept, if any is. -/
abbrev Threshold := Option Level

namespace Threshold

/-- Whether records of a level are kept. A threshold of `none` keeps none. -/
def admits : Threshold → Level → Bool
  | none, _ => false
  | some least, level => least.rank ≤ level.rank

/-- The thresholds with their names, in the order of their numbers, so that the first of them is
number zero. -/
def named : List (String × Threshold) :=
  [("off", none), ("error", some .error), ("warn", some .warn), ("info", some .info),
    ("debug", some .debug), ("trace", some .trace)]

/-- Reads a threshold by name or number. Names may be in any case, and numbers may have a plus sign
and zeros in front. -/
def ofText? (text : String) : Option Threshold :=
  match named.lookup (text.map Char.toLower) with
  | some t => some t
  | none => (Decimal.ofNumeral? text.toList).bind fun n => (named[n]?).map (·.2)

end Threshold

/-- A rule of a filter: which records it holds for, and what it keeps of them. -/
structure Rule where
  /-- The start of the names of parts it holds for, if it does not hold for all. -/
  names : Option String
  /-- The field that a record has to have. -/
  field : Option String
  threshold : Threshold
  deriving DecidableEq, Repr

/-- What stands between commas in a filter. An `idle` clause can be read but keeps and drops
nothing. -/
inductive Clause where
  | rule (rule : Rule)
  /-- A rule that holds for nothing. -/
  | idle
  deriving DecidableEq, Repr

namespace Clause

/-- What stands in square brackets: a scope, a field, or both. -/
structure Bracket where
  scope : Option (List Char)
  field : Option (List Char)

/-- Reads what stands in square brackets, from behind the opening one on, and gives the rest behind
the closing one. A field stands in braces of its own and is not empty. -/
def bracket? (text : List Char) : Option (Bracket × List Char) :=
  let scope := text.takeWhile fun c => c ≠ ']' ∧ c ≠ '\x7b'
  match text.drop scope.length with
  | ']' :: rest => some (⟨some scope, none⟩, rest)
  | '\x7b' :: rest =>
    let field := rest.takeWhile (· ≠ '\x7d')
    match rest.drop field.length with
    | '\x7d' :: ']' :: rest =>
      if field = [] then none
      else some (⟨if scope = [] then none else some scope, some field⟩, rest)
    | _ => none
  | _ => none

/-- Reads the level of a rule with an equals sign. Without a level everything is kept. -/
def level? (text : List Char) : Option Threshold :=
  if text = [] then some (some .trace) else Threshold.ofText? (String.ofList text)

/-- A text without the sign that it starts with. -/
def unsigned : List Char → List Char
  | '+' :: rest | '-' :: rest => rest
  | text => text

/-- Whether a text is a number: digits with a point before, between or behind them, an exponent
after them, or one of the words for what is no finite number. -/
def isNumber (text : List Char) : Bool :=
  let text := unsigned text
  let whole := text.takeWhile Char.isDigit
  let (fraction, rest) := match text.drop whole.length with
    | '.' :: rest => (rest.takeWhile Char.isDigit, rest.dropWhile Char.isDigit)
    | rest => ([], rest)
  let exponent := match rest with
    | c :: rest => if c.toLower == 'e' then some (unsigned rest) else some []
    | [] => none
  ["inf", "infinity", "nan"].contains (String.ofList (text.map Char.toLower)) ||
    ((whole ≠ [] || fraction ≠ []) && exponent.all fun e => e ≠ [] && e.all Char.isDigit)

/-- The value that a field has to have, if there is one. What stands behind another equals sign does
not count. -/
def valueOf? (field : List Char) : Option (List Char) :=
  match field.dropWhile (· ≠ '=') with
  | [] => none
  | _ :: rest => some (rest.takeWhile (· ≠ '='))

/-- The clause for some parts and what stands in brackets behind them. A value has to be a number or
satisfy `Pattern.isUsable`, as a truth value does, though no record is picked by it. -/
def ofBracket? (names : List Char) (b : Bracket) (threshold : Threshold) : Option Clause :=
  match b.field.bind valueOf? with
  | some value => if isNumber value || Pattern.isUsable value then some .idle else none
  | none =>
    match b.scope, b.field with
    | none, some field =>
      let names := if names = [] then none else some (String.ofList names)
      some (.rule ⟨names, some (String.ofList field), threshold⟩)
    | _, _ => some .idle

/-- Whether a rule can start with a character. A bracket can start one as well. -/
def canStart (c : Char) : Bool := Text.isAlphanumeric c || c == '-' || c == ':' || c == '_'

/-- Reads a clause that is a level or the name of a part. Any word that is no level is taken for a
name. -/
def ofWord (word : List Char) : Clause :=
  match Threshold.ofText? (String.ofList word) with
  | some threshold => .rule ⟨none, none, threshold⟩
  | none => .rule ⟨some (String.ofList word), none, some .trace⟩

/-- Reads a clause. `text` is the clause without the blanks around it, and `whole` is what the
places found in `text` are applied to. -/
def ofText? (whole : List Char) : Option Clause := do
  let text := Text.trim whole
  let count := (text.takeWhile fun c => c ≠ '=' ∧ c ≠ '[').length
  let names := whole.take count
  if !(text.head?.any fun c => canStart c || c == '[') then none
  else
    match text.drop count with
    | [] => return ofWord whole
    | '=' :: _ => return .rule ⟨some (String.ofList names), none, ← level? (whole.drop (count + 1))⟩
    | _ :: inner =>
      let (b, rest) ← bracket? inner
      let start := count + (b.scope.getD []).length + 2
      -- The field is taken from the clause with its blanks, so blanks in front shift it.
      let b := { b with field := b.field.map fun field => (whole.drop start).take field.length }
      match rest with
      | [] => ofBracket? names b (some .trace)
      | '=' :: level => ofBracket? names b (← level? (whole.drop (text.length - level.length)))
      | _ => none

end Clause

/-- A filter: rules, of which later ones win over earlier ones that are alike. -/
structure Filter where
  rules : List Rule
  deriving DecidableEq, Repr

namespace Filter

/-- Keeps all but the details from every part. It stands in for a filter that cannot be read. -/
def info : Filter := ⟨[⟨none, none, some .info⟩]⟩

/-- Reads a filter. Empty clauses between commas are passed over, and one bad clause makes all of it
unreadable. -/
def ofText? (text : String) : Option Filter :=
  let clauses := (text.splitOn ",").filter (· ≠ "")
  (clauses.mapM fun clause => Clause.ofText? clause.toList).map fun clauses =>
    ⟨clauses.filterMap fun
      | .rule rule => some rule
      | .idle => none⟩

/-- Reads a filter, or takes one that keeps all but the details if it is unreadable. -/
def ofText (text : String) : Filter := (ofText? text).getD info

end Filter

namespace Rule

/-- Whether a rule holds for a record: the name of its part starts as the rule says, and it has the
field. Every record has the field `message`. -/
def holdsFor (rule : Rule) (record : Record) : Bool :=
  (rule.names.all fun names => names.toList.isPrefixOf record.source.name.toList) &&
    rule.field.all fun field => field == "message" || record.fields.contains field

/-- How closely a rule names what it holds for: the length of the name counts first, and no name
counts less than any. -/
def closeness (rule : Rule) : Nat × Nat :=
  (match rule.names with
    | none => 0
    -- An empty name still counts for more than none.
    | some names => names.utf8ByteSize + 1,
    if rule.field.isSome then 1 else 0)

/-- Whether a rule goes before another that has been found first. Of rules that are as close the
later one does, unless the name of its field is less. -/
def goesBefore (rule found : Rule) : Bool :=
  let (length, fields) := rule.closeness
  let (otherLength, otherFields) := found.closeness
  if length ≠ otherLength then otherLength < length
  else if fields ≠ otherFields then otherFields < fields
  else found.field.getD "" ≤ rule.field.getD ""

end Rule

namespace Filter

/-- The rule that decides on a record, if one holds for it. The fold goes through the rules as they
are written, so a later rule meets the one found so far. -/
def ruleFor? (f : Filter) (record : Record) : Option Rule :=
  (f.rules.filter fun rule => rule.holdsFor record).foldl
    (fun found rule =>
      match found with
      | none => some rule
      -- The rules come in the order of the text, so a later one may replace the one found.
      | some other => if rule.goesBefore other then some rule else found)
    none

/-- Whether a record is kept, which the deciding rule says by its threshold. -/
def keeps (f : Filter) (record : Record) : Bool :=
  match f.ruleFor? record with
  | none => false
  | some rule => rule.threshold.admits record.level

end Filter

end LspSession.Log
