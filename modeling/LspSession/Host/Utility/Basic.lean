import LspSession.Host.Shell.State

/-!
# `LspSession.Host.Utility.Basic`: what programs have in common

The utilities are programs that a script calls by name and that a host can also start by themselves.
Each takes its arguments, works on its standard streams and on files, and answers with a status.
Here is what they share: options, operands that name inputs, numbers with units, and lines.
-/

set_option autoImplicit false

namespace LspSession.Utility

open Shell Shell.Activity

/-- Says what is wrong with something that a utility was asked for. -/
def refuse (utility message : String) (status : Nat) : Activity Nat :=
  complain (ofString (utility ++ ": " ++ message)) status

/-- Says that something is wrong with what a utility was given, and where help can be found. -/
def refuseWithHelp (utility message : String) (status : Nat) : Activity Nat := do
  let _ ← refuse utility message status
  complain (ofString ("Try '" ++ utility ++ " --help' for more information.")) status

/-- Says that an operand is missing. -/
def missingOperand (utility : String) : Activity Nat :=
  refuseWithHelp utility "missing operand" failed

/-- A text in quotes, as it stands in messages. -/
def quote (text : Text) : String := "'" ++ toPath text ++ "'"

/-- What a utility says when an error keeps it from working on a file. -/
def fileMessage (utility : String) (path : Text) (e : OsError) : String :=
  let name := toPath path
  let isDirectory := e = .isADirectory
  let message := match utility with
    | "head" | "tail" =>
      if isDirectory then "error reading " ++ quote path
      else "cannot open " ++ quote path ++ " for reading"
    | "tac" =>
      if isDirectory then name ++ ": read error"
      else "failed to open " ++ quote path ++ " for reading"
    | "rev" => "cannot open " ++ name
    | "sort" => if isDirectory then "read failed: " ++ name else "cannot read: " ++ name
    | "sed" => if isDirectory then "read error on " ++ name else "can't read " ++ name
    | _ => name
  message ++ ": " ++ e.text

/-- Says that an error keeps a utility from working on a file. -/
def refuseFile (utility : String) (path : Text) (e : OsError) : Activity Nat :=
  refuse utility (fileMessage utility path e) failed

/-! ### Options -/

/-- The options that a utility was given, with their values, and its operands. -/
structure Options where
  /-- Options in the order in which they were given. -/
  found : List (String × Text)
  operands : List Text

/-- What options a utility has: letters without a value, letters with one, and the long names of
letters. -/
structure OptionTable where
  flags : List Char
  valued : List Char
  long : List (String × Char)

namespace OptionTable

/-- What is wrong with the options of a utility. -/
abbrev Fault := String

/-- An option with a value. -/
def option (letter : Char) (value : Text) : String × Text := (String.singleton letter, value)

/-- Splits letters of options off a word. A letter with a value takes the rest of the word, and
otherwise the next word. -/
def letters (table : OptionTable) : Text → List Text →
    Except Fault (List (String × Text) × List Text)
  | [], rest => .ok ([], rest)
  | c :: more, rest =>
    if table.flags.contains c then
      (letters table more rest).map fun (found, rest) => (option c [] :: found, rest)
    else if table.valued.contains c then
      match more, rest with
      | [], value :: rest => .ok ([option c value], rest)
      | [], [] => .error ("option requires an argument -- '" ++ String.singleton c ++ "'")
      | more, rest => .ok ([option c more], rest)
    else .error ("invalid option -- '" ++ String.singleton c ++ "'")

/-- Reads a long option. -/
def long? (table : OptionTable) (word : Text) (rest : List Text) :
    Except Fault (List (String × Text) × List Text) :=
  let name := word.takeWhile (· != '=')
  let value := if name.length = word.length then none else some (word.drop (name.length + 1))
  match table.long.find? fun (other, _) => name.isPrefixOf other.toList with
  | none => .error ("unrecognized option '--" ++ String.ofList word ++ "'")
  | some (full, letter) =>
    if table.flags.contains letter then
      if value.isSome then .error ("option '--" ++ full ++ "' doesn't allow an argument")
      else .ok ([option letter []], rest)
    else
      match value, rest with
      | some value, rest => .ok ([option letter value], rest)
      | none, value :: rest => .ok ([option letter value], rest)
      | none, [] => .error ("option '--" ++ full ++ "' requires an argument")

/-- Reads the options among words, in at most so many steps. They can stand between the operands
unless the first operand ends them. -/
def read (table : OptionTable) (mixed : Bool) : Nat → List Text → Except Fault Options
  | 0, words => .ok ⟨[], words⟩
  | steps + 1, words =>
    match words with
    | [] => .ok ⟨[], []⟩
    | ['-', '-'] :: rest => .ok ⟨[], rest⟩
    | ('-' :: '-' :: name) :: rest => do
      let (found, rest) ← table.long? name rest
      let more ← read table mixed steps rest
      return ⟨found ++ more.found, more.operands⟩
    | ('-' :: c :: more) :: rest => do
      let (found, rest) ← table.letters (c :: more) rest
      let more ← read table mixed steps rest
      return ⟨found ++ more.found, more.operands⟩
    | operand :: rest =>
      if mixed then do
        let more ← read table mixed steps rest
        return ⟨more.found, operand :: more.operands⟩
      else .ok ⟨[], operand :: rest⟩

end OptionTable

namespace Options

/-- Whether an option was given. -/
def has (o : Options) (letter : Char) : Bool :=
  o.found.any fun (other, _) => other == String.singleton letter

/-- The value that an option was given last. -/
def value? (o : Options) (letter : Char) : Option Text :=
  (o.found.reverse.find? fun (other, _) => other == String.singleton letter).map (·.2)

/-- All values that an option was given. -/
def values (o : Options) (letter : Char) : List Text :=
  (o.found.filter fun (other, _) => other == String.singleton letter).map (·.2)

end Options

/-- Reads the options among words and goes on with them, or says what is wrong with them. -/
def withOptions (utility : String) (table : OptionTable) (words : List Text) (status : Nat)
    (work : Options → Activity Nat) : Activity Nat :=
  match table.read true (words.length + 1) words with
  | .ok options => work options
  | .error message => refuseWithHelp utility message status

/-! ### Numbers -/

/-- A number without a sign. -/
def natural? (text : Text) : Option Nat :=
  if text ≠ [] ∧ text.all isDigit then Decimal.readDigits? 0 text else none

/-- The units of sizes. -/
def units : List (String × Nat) :=
  [("", 1), ("c", 1), ("w", 2), ("b", 512), ("kB", 1000), ("k", 1024), ("K", 1024), ("KiB", 1024),
    ("MB", 1000000), ("M", 1048576), ("MiB", 1048576), ("GB", 1000000000), ("G", 1073741824),
    ("GiB", 1073741824)]

/-- A number with a unit. -/
def sized? (text : Text) : Option Nat :=
  let digits := text.takeWhile isDigit
  match natural? digits, units.lookup (String.ofList (text.drop digits.length)) with
  | some n, some unit => some (n * unit)
  | _, _ => none

/-! ### Inputs -/

/-- Opens the input that an operand names, does something with its descriptor and closes it. -/
def withInput (utility : String) (path : Text) (work : Nat → Activity Nat) : Activity Nat := do
  if path = ['-'] then work 0
  else
    match ← call (.openFile (toPath path) .read) with
    | .error e => refuseFile utility path e
    | .ok descriptor =>
      match ← call (.read descriptor 0) with
      | .error e =>
        close descriptor
        refuseFile utility path e
      | .ok _ =>
        let status ← work descriptor
        close descriptor
        return status

/-- Does something with each of the inputs that operands name, or with the standard input if there
are none. The greatest status is the answer. -/
def withInputs (utility : String) (paths : List Text) (work : Nat → Activity Nat) :
    Activity Nat := do
  let mut status := success
  for path in if paths = [] then [['-']] else paths do
    status := max status (← withInput utility path work)
  return status

/-- Everything that the input holds that an operand names. -/
def readInput (path : Text) : Activity (Except OsError Text) := do
  if path = ['-'] then return .ok (← takeRest 0)
  else
    match ← call (.openFile (toPath path) .read) with
    | .error e => return .error e
    | .ok descriptor =>
      let found ← match ← call (.read descriptor 0) with
        | .error e => pure (.error e)
        | .ok _ => do pure (.ok (← takeRest descriptor))
      close descriptor
      return found

/-- Everything that each of the inputs holds that operands name, as far as they can be read, and a
status. -/
def readEach (utility : String) (paths : List Text) : Activity (List (Text × Text) × Nat) := do
  let mut found := []
  let mut status := success
  for path in if paths = [] then [['-']] else paths do
    match ← readInput path with
    | .error e => status := max status (← refuseFile utility path e)
    | .ok text => found := (path, text) :: found
  return (found.reverse, status)

/-- Everything that the inputs hold that operands name, one after another, and a status. -/
def readInputs (utility : String) (paths : List Text) : Activity (Text × Nat) := do
  let (found, status) ← readEach utility paths
  return (found.flatMap (·.2), status)

/-! ### Lines -/

/-- The parts of a text that end with a mark, without their ends. -/
def partsOf (mark : Char) (text : Text) : List Text :=
  let parts := text.splitOn mark
  if parts.getLast? = some [] then parts.dropLast else parts

/-- The lines of a text without their ends. -/
def linesOf : Text → List Text := partsOf '\n'

/-- A text of lines, each with an end. -/
def ofLines (lines : List Text) : Text := lines.flatMap fun line => line ++ ['\n']

/-- The greater of a status and the status of writing. -/
def printing (utility : String) (text : Text) (status : Nat) : Activity Nat := do
  if ← write 1 text then return status
  else
    let e := match ← call (.statusOf 1) with
      | .error e => e
      | .ok _ => .noSpace
    return max status (← refuse utility ("write error: " ++ e.text) failed)

end LspSession.Utility
