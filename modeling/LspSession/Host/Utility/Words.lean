import LspSession.Host.Shell.Builtin
import LspSession.Host.Utility.Basic
import LspSession.Host.Utility.Regex

/-!
# `LspSession.Host.Utility.Words`: programs that work on their arguments

These utilities read nothing. They write their arguments, parts of them or what they come to, decide
about them, or wait.
-/

set_option autoImplicit false

namespace LspSession.Utility

open Shell Shell.Activity

/-! ### Writing -/

/-- Whether a word is an option of the writer of words, which is made of certain letters. -/
def isEchoOption (word : Text) : Bool :=
  match word with
  | '-' :: c :: more => (c :: more).all fun c => c == 'n' || c == 'e' || c == 'E'
  | _ => false

/-- Writes its arguments. -/
def echo (words : List Text) : Activity Nat :=
  let options := words.takeWhile isEchoOption
  let words := words.drop options.length
  let letters := options.flatten
  let escapes := ((letters.filter fun c => c == 'e' || c == 'E').getLast?) == some 'e'
  let line := if letters.contains 'n' then [] else ['\n']
  let text := [' '].intercalate words
  if escapes then
    let (text, ended) := unescape true text
    printing "echo" (if ended then text else text ++ line) success
  else printing "echo" (text ++ line) success

/-- What is said about a format or its arguments. -/
def formatMessage : Format.Complaint → String
  | .notNumeric argument => quote argument ++ ": expected a numeric value"
  | .notWhole argument => quote argument ++ ": value not completely converted"
  | .outOfRange argument => quote argument ++ ": Numerical result out of range"
  | .invalid directive | .unfinished directive =>
    toPath directive ++ ": invalid conversion specification"

/-- Writes its arguments by a format. -/
def printf (words : List Text) : Activity Nat := do
  match if words.head? = some ['-', '-'] then words.tail else words with
  | [] =>
    missingOperand "printf"
  | format :: arguments =>
    let (text, complaints) := Format.print true format arguments
    for complaint in complaints do
      let _ ← refuse "printf" (formatMessage complaint) failed
    printing "printf" text (if complaints = [] then success else failed)

/-- Writes the working directory. -/
def pwd (_ : List Text) : Activity Nat := do
  printing "pwd" ((← Builtin.physicalDirectory) ++ ['\n']) success

/-- Writes a line. -/
def always (line : String) : List Text → Activity Nat := fun _ => print (ofString (line ++ "\n"))

/-! ### Paths -/

/-- A text without slashes at its end. -/
def trimSlashes (path : Text) : Text := (path.reverse.dropWhile (· == '/')).reverse

/-- The last name of a path. -/
def lastName (path : Text) : Text :=
  match trimSlashes path with
  | [] => path.take 1
  | trimmed => (trimmed.reverse.takeWhile (· != '/')).reverse

/-- A path without its last name. -/
def directoryOf (path : Text) : Text :=
  let trimmed := trimSlashes path
  let parent := (trimmed.reverse.dropWhile (· != '/')).reverse
  if trimmed = [] then (if path = [] then ['.'] else ['/'])
  else if parent = [] then ['.']
  else
    match trimSlashes parent with
    | [] => ['/']
    | parent => parent

/-- A name without a suffix that it ends with, unless it is nothing else. -/
def withoutSuffix (suffix name : Text) : Text :=
  if suffix.isSuffixOf name ∧ suffix ≠ name then name.take (name.length - suffix.length) else name

/-- Writes the last names of paths. -/
def basename (words : List Text) : Activity Nat :=
  withOptions "basename" ⟨['a', 'z'], ['s'],
    [("multiple", 'a'), ("suffix", 's'), ("zero", 'z')]⟩ words failed fun o => do
    let line := if o.has 'z' then ['\x00'] else ['\n']
    let show_ (suffix path : Text) : Text := withoutSuffix suffix (lastName path) ++ line
    match o.operands with
    | [] =>
      missingOperand "basename"
    | path :: rest =>
      if o.has 'a' || o.has 's' then
        printing "basename" ((path :: rest).flatMap (show_ ((o.value? 's').getD []))) success
      else
        match rest with
        | [] => printing "basename" (show_ [] path) success
        | [suffix] => printing "basename" (show_ suffix path) success
        | _ :: extra :: _ =>
          refuseWithHelp "basename" ("extra operand " ++ quote extra) failed

/-- Writes paths without their last names. -/
def dirname (words : List Text) : Activity Nat :=
  withOptions "dirname" ⟨['z'], [], [("zero", 'z')]⟩ words failed fun o => do
    if o.operands = [] then
      missingOperand "dirname"
    else
      let line := if o.has 'z' then ['\x00'] else ['\n']
      printing "dirname" (o.operands.flatMap fun path => directoryOf path ++ line) success

/-! ### Sequences -/

/-- A number of a sequence: its digits as a whole number, and how many of them stand after the
point. -/
structure SequenceTerm where
  digits : Int
  places : Nat
  /-- How many characters stand before the point. -/
  width : Nat

/-- Reads a number of a sequence. -/
def sequenceTerm? (text : Text) : Option SequenceTerm :=
  let digits := match text with
    | '-' :: rest | '+' :: rest => rest
    | text => text
  let whole := digits.takeWhile isDigit
  let (places, rest) := match digits.drop whole.length with
    | '.' :: rest => (rest.takeWhile isDigit, rest.dropWhile isDigit)
    | rest => ([], rest)
  let (e, rest) := Fraction.exponent ['e', 'E'] rest
  if (whole = [] ∧ places = []) ∨ rest ≠ [] then none
  else
    let shown : Int := places.length - e
    let value : Int := valueIn 10 (whole ++ places) * Nat.pow 10 (-shown).toNat
    let negative := text.head? = some '-'
    some ⟨if negative then -value else value, shown.toNat,
      max 1 (whole.length + e.toNat) + (if negative then 1 else 0)⟩

/-- A number of a sequence with more places, as a whole number. -/
def SequenceTerm.scaled (t : SequenceTerm) (places : Nat) : Int :=
  t.digits * (Nat.pow 10 (places - t.places) : Nat)

/-- A whole number with so many of its digits behind a point, filled up with zeros. -/
def pointed (places width : Nat) (n : Int) : Text :=
  let digits := ofNat n.natAbs
  let digits := List.replicate (places + 1 - digits.length) '0' ++ digits
  let front := digits.take (digits.length - places)
  let sign := if n < 0 then ['-'] else []
  let front := List.replicate (width - front.length - sign.length) '0' ++ front
  sign ++ front ++ (if places = 0 then [] else '.' :: digits.drop (digits.length - places))

/-- The numbers from one to another by steps, as texts. -/
def sequenceOf (first step last : SequenceTerm) (padded : Bool) : List Text :=
  let places := max first.places step.places
  let scale := max places last.places
  let (a, d, b) := (first.scaled scale, step.scaled scale, last.scaled scale)
  let count := if d = 0 then 0 else (Int.fdiv (b - a) d + 1).toNat
  let width := if padded then max first.width last.width else 0
  (List.range count).map fun (i : Nat) =>
    pointed places width (first.scaled places + (i : Int) * step.scaled places)

/-- Words in which dashes end the options before a negative number. -/
def beforeNumbers : List Text → List Text
  | [] => []
  | ['-', 's'] :: value :: rest => ['-', 's'] :: value :: beforeNumbers rest
  | ['-', 'f'] :: value :: rest => ['-', 'f'] :: value :: beforeNumbers rest
  | ('-' :: c :: more) :: rest =>
    if isDigit c || c == '.' then ['-', '-'] :: ('-' :: c :: more) :: rest
    else if c == '-' && more.isEmpty then ['-', '-'] :: rest
    else ('-' :: c :: more) :: beforeNumbers rest
  | words => words

/-- Writes numbers in a row. -/
def seq (words : List Text) : Activity Nat := do
  match OptionTable.read ⟨['w'], ['s', 'f'],
      [("equal-width", 'w'), ("separator", 's'), ("format", 'f')]⟩ false (words.length + 2)
      (beforeNumbers words) with
  | .error message =>
    refuseWithHelp "seq" message failed
  | .ok o =>
    let one : SequenceTerm := ⟨1, 0, 1⟩
    let found ← match o.operands.map fun text => (text, sequenceTerm? text) with
      | [(_, some last)] => pure (some (one, one, last))
      | [(_, some first), (_, some last)] => pure (some (first, one, last))
      | [(_, some first), (_, some step), (_, some last)] => pure (some (first, step, last))
      | [] => do
        let _ ← refuse "seq" "missing operand" failed
        pure none
      | all => do
        let _ ← match all.find? fun (_, f) => f.isNone with
          | some (text, _) =>
            refuse "seq" ("invalid floating point argument: " ++ quote text) failed
          | none => refuse "seq" ("extra operand " ++ quote (o.operands.getD 3 [])) failed
        pure none
    match found with
    | none => complain (ofString "Try 'seq --help' for more information.") failed
    | some (first, step, last) =>
      if step.digits = 0 then
        refuseWithHelp "seq" ("invalid Zero increment value: " ++ quote (o.operands.getD 1 []))
          failed
      else
        let numbers := sequenceOf first step last (o.has 'w')
        let numbers := match o.value? 'f' with
          | some format => numbers.map fun n => (Format.print true format [n]).1
          | none => numbers
        let separator := (o.value? 's').getD ['\n']
        if numbers = [] then return success
        else printing "seq" (separator.intercalate numbers ++ ['\n']) success

/-! ### Waiting -/

/-- The nanoseconds in a second. -/
def second : Nat := 1000000000

/-- A span of time with a unit, in nanoseconds. -/
def span? (text : Text) : Option Nat :=
  let whole := text.takeWhile isDigit
  let rest := text.drop whole.length
  let places := match rest with
    | '.' :: rest => rest.takeWhile isDigit
    | _ => []
  let suffix := match rest with
    | '.' :: rest => rest.drop places.length
    | rest => rest
  let unit := match String.ofList suffix with
    | "" | "s" => some second
    | "m" => some (60 * second)
    | "h" => some (3600 * second)
    | "d" => some (86400 * second)
    | _ => none
  if whole = [] ∧ places = [] then none
  else unit.map fun unit => valueIn 10 (whole ++ places) * unit / Nat.pow 10 places.length

/-- A span of time that has no end. -/
def eternity : Nat := second * 1000000000

/-- Waits. -/
def sleep (words : List Text) : Activity Nat := do
  let words := if words.head? = some ['-', '-'] then words.tail else words
  let span (word : Text) : Option Nat :=
    if word = "infinity".toList ∨ word = "inf".toList then some eternity else span? word
  let help : Activity Nat := complain (ofString "Try 'sleep --help' for more information.") failed
  if words = [] then
    let _ ← refuse "sleep" "missing operand" failed
    help
  else
    let wrong := words.filter fun word => (span word).isNone
    if wrong ≠ [] then
      for word in wrong do
        let _ ← match word with
          | '-' :: c :: _ =>
            refuse "sleep" ("invalid option -- '" ++ String.singleton c ++ "'") failed
          | word => refuse "sleep" ("invalid time interval " ++ quote word) failed
      help
    else
      call (.sleep ((words.filterMap span).foldl (· + ·) 0))
      return success

/-! ### Deciding -/

/-- Does something whose faults are those of a utility. -/
def asUtility (name : String) (activity : Activity Nat) : Activity Nat := do
  modifyScope fun s => { s with command := some (ofString name) }
  tryCatch activity fun
    | .failed status => return status
    | stop => throw stop

/-- Decides a condition. -/
def test (words : List Text) : Activity Nat := asUtility "test" (Condition.test words)

/-- Decides a condition between brackets. -/
def bracket (words : List Text) : Activity Nat := asUtility "[" (Condition.bracket words)

/-- Sends signals. -/
def kill (words : List Text) : Activity Nat := asUtility "kill" (Builtin.kill words)

/-! ### Calculating -/

/-- The value of an expression: a text, which may be a number. -/
abbrev Value := Text

/-- The number that a value is. -/
def Value.number? (v : Value) : Option Int :=
  match v with
  | '-' :: digits => (natural? digits).map fun n => -(n : Int)
  | digits => (natural? digits).map fun n => (n : Int)

/-- Whether a value counts as false. -/
def Value.isNull (v : Value) : Bool := v.isEmpty || Value.number? v == some 0

/-- Reads and works out a part of an expression. -/
abbrev Evaluator := StateT (List Text) (Except String)

/-- Takes a word if it is a certain one. -/
def takeWord (word : String) : Evaluator Bool := do
  match ← get with
  | next :: rest =>
    if next = ofString word then
      set rest
      return true
    else return false
  | [] => return false

/-- The value of a truth. -/
def ofTruth (b : Bool) : Value := if b then ['1'] else ['0']

/-- What is found of a pattern at the start of a text: the first group of it, or its length. -/
def matchStart (text pattern : Text) : Except String Value := do
  let r ← Regex.ofText false pattern
  let hasGroups := (pattern.zip pattern.tail).contains ('\\', '(')
  let s : Regex.Subject := ⟨text.toArray, false⟩
  match r.lookAt s ⟨0, []⟩ some with
  | some found =>
    if hasGroups then
      return match found.groups.lookup 1 with
        | some (low, high) => s.slice low high
        | none => []
    else return ofNat found.position
  | none => return if hasGroups then [] else ['0']

/-- What an operator between two values makes of them. -/
def operate (operator : String) (a b : Value) : Except String Value := do
  let compare (f : Ordering → Bool) : Except String Value :=
    match a.number?, b.number? with
    | some m, some n => .ok (ofTruth (f (compareOfLessAndEq m n)))
    | _, _ => .ok (ofTruth (f (compareOfLessAndEq a b)))
  let calculate (f : Int → Int → Except String Int) : Except String Value :=
    match a.number?, b.number? with
    | some m, some n => (f m n).map ofInt
    | _, _ => .error "non-integer argument"
  let divide (f : Int → Int → Int) : Except String Value :=
    calculate fun m n => if n = 0 then .error "division by zero" else .ok (f m n)
  match operator with
  | "=" | "==" => compare (· == .eq)
  | "!=" => compare (· != .eq)
  | "<" => compare (· == .lt)
  | "<=" => compare (· != .gt)
  | ">" => compare (· == .gt)
  | ">=" => compare (· != .lt)
  | "+" => calculate fun m n => .ok (m + n)
  | "-" => calculate fun m n => .ok (m - n)
  | "*" => calculate fun m n => .ok (m * n)
  | "/" => divide Int.tdiv
  | "%" => divide Int.tmod
  | _ => .ok (ofTruth false)

/-- The operators between values, weakest first. -/
def levels : List (List String) :=
  [["|"], ["&"], ["<", "<=", "=", "==", "!=", ">=", ">"], ["+", "-"], ["*", "/", "%"], [":"]]

/-- What an operator makes of two values. -/
def combine (operator : String) (a b : Value) : Except String Value :=
  match operator with
  | "|" => .ok (if !a.isNull then a else if !b.isNull then b else ['0'])
  | "&" => .ok (if !a.isNull && !b.isNull then a else ['0'])
  | ":" => matchStart a b
  | operator => operate operator a b

mutual

/-- Works out an expression with operators of a level or of a stronger one. -/
def level : Nat → List (List String) → Text → Evaluator Value
  | 0, _, _ => throw "syntax error"
  | steps + 1, [], before => operand steps before
  | steps + 1, operators :: stronger, before => do
    levelRest steps operators stronger (← level steps stronger before)

/-- Works out the operators of a level that follow a value. -/
def levelRest : Nat → List String → List (List String) → Value → Evaluator Value
  | 0, _, _, left => return left
  | steps + 1, operators, stronger, left => do
    match ← get with
    | next :: rest =>
      match operators.find? fun o => ofString o == next with
      | some operator =>
        set rest
        let right ← level steps stronger next
        levelRest steps operators stronger (← combine operator left right)
      | none => return left
    | [] => return left

/-- Works out an operand behind a word. -/
def operand : Nat → Text → Evaluator Value
  | 0, _ => throw "syntax error"
  | steps + 1, before => do
    let value : Evaluator Value := do operand steps before
    if ← takeWord "(" then
      let inner ← level steps levels ['(']
      if ← takeWord ")" then return inner else throw "syntax error: expecting ')'"
    else if ← takeWord "+" then
      match ← get with
      | next :: rest =>
        set rest
        return next
      | [] => throw "syntax error: missing argument after '+'"
    else if ← takeWord "length" then return ofNat (← value).length
    else if ← takeWord "match" then
      let text ← value
      let pattern ← value
      matchStart text pattern
    else if ← takeWord "index" then
      let text ← value
      let chars ← value
      return ofNat (match text.findIdx? chars.contains with
        | some i => i + 1
        | none => 0)
    else if ← takeWord "substr" then
      let text ← value
      let position ← value
      let length ← value
      match position.number?, length.number? with
      | some p, some n =>
        return if p < 1 ∨ n < 1 then [] else (text.drop (p.toNat - 1)).take n.toNat
      | _, _ => return []
    else
      match ← get with
      | next :: rest =>
        set rest
        return next
      | [] => throw ("syntax error: missing argument after " ++ quote before)

end

/-- Works out an expression. -/
def expr (words : List Text) : Activity Nat := do
  let words := if words.head? = some ['-', '-'] then words.tail else words
  if words = [] then
    refuseWithHelp "expr" "missing operand" misused
  else
    match (level (16 * words.length + 32) levels []).run words with
    | .error message => refuse "expr" message misused
    | .ok (_, next :: _) =>
      refuse "expr" ("syntax error: unexpected argument " ++ quote next) misused
    | .ok (v, []) => printing "expr" (v ++ ['\n']) (if v.isNull then failed else success)

/-- The prime factors of a number from a candidate on, looking at at most so many candidates. -/
def factorsFrom : Nat → Nat → Nat → List Nat
  | 0, _, n => [n]
  | steps + 1, candidate, n =>
    if n < 2 then []
    else if n < candidate * candidate then [n]
    else if n % candidate = 0 then candidate :: factorsFrom steps candidate (n / candidate)
    else factorsFrom steps (if candidate = 2 then 3 else candidate + 2) n

/-- Writes the prime factors of numbers, which are read if none are given. -/
def factor (words : List Text) : Activity Nat := do
  let given ← if words = [] then do
      pure (((← takeRest 0).splitOnP fun c => isBlank c || c == '\n').filter (· ≠ []))
    else pure words
  let mut status := success
  for word in given do
    match natural? (if word.head? = some '+' then word.tail else word) with
    | some n =>
      let factors := factorsFrom 1000000 2 n
      let _ ← print (ofNat n ++ ':' :: factors.flatMap (fun f => ' ' :: ofNat f) ++ ['\n'])
    | none =>
      status ← refuse "factor" (quote word ++ " is not a valid positive integer") failed
  return status

/-! ### Surroundings -/

/-- What is known about the machine, by the letters that ask for it. -/
def machineFacts : List (Char × String) :=
  [('s', "Linux"), ('n', "localhost"), ('r', "6.1.0"), ('v', "#1 SMP"), ('m', "x86_64"),
    ('o', "GNU/Linux")]

/-- Writes what is known about the machine. -/
def uname (words : List Text) : Activity Nat :=
  withOptions "uname" ⟨['a', 's', 'n', 'r', 'v', 'm', 'p', 'i', 'o'], [],
    [("all", 'a'), ("kernel-name", 's'), ("nodename", 'n'), ("kernel-release", 'r'),
      ("kernel-version", 'v'), ("machine", 'm'), ("processor", 'p'), ("operating-system", 'o')]⟩
    words failed fun o => do
    match o.operands with
    | extra :: _ => refuseWithHelp "uname" ("extra operand " ++ quote extra) failed
    | [] =>
      let known := machineFacts.filter fun (letter, _) => o.has 'a' || o.has letter
      let unsure := if o.has 'p' || o.has 'i' then ["unknown"] else []
      let found := known.map (·.2) ++ unsure
      let found := if found = [] then ["Linux"] else found
      printing "uname" (ofString (" ".intercalate found ++ "\n")) success

/-- Writes who runs it, by number or by name. -/
def id (words : List Text) : Activity Nat :=
  withOptions "id" ⟨['u', 'g', 'G', 'n', 'r'], [], [("user", 'u'), ("group", 'g'), ("name", 'n')]⟩
    words failed fun o =>
    if ['u', 'g', 'G'].any o.has then
      printing "id" (ofString (if o.has 'n' then "root\n" else "0\n")) success
    else printing "id" (ofString "uid=0(root) gid=0(root) groups=0(root)\n") success

/-- Writes the name of the terminal, of which there is none. -/
def tty (words : List Text) : Activity Nat :=
  withOptions "tty" ⟨['s'], [], [("silent", 's'), ("quiet", 's')]⟩ words misused fun o =>
    if o.has 's' then return failed else printing "tty" (ofString "not a tty\n") failed

/-- Writes the variables that it was given, or the values of some. -/
def printenv (names : List Text) : Activity Nat := do
  let all ← environment
  match names with
  | [] =>
    let line (entry : Text × Text) : Text := entry.1 ++ '=' :: entry.2 ++ ['\n']
    printing "printenv" (all.flatMap line) success
  | names =>
    let found := names.map fun name => all.lookup name
    printing "printenv" (found.flatMap fun
      | some value => value ++ ['\n']
      | none => [])
      (if found.all Option.isSome then success else failed)

/-- Writes where programs are found. -/
def which (names : List Text) : Activity Nat := do
  let mut status := success
  for name in names do
    match ← Builtin.programPath? name with
    | some path => status := max status (← print (path ++ ['\n']))
    | none => status := failed
  return status

end LspSession.Utility
