import LspSession.Host.Shell.Condition
import LspSession.Host.Shell.Format
import LspSession.Host.Shell.Source

/-!
# `LspSession.Host.Shell.Builtin`: commands that change the shell

A command that changes the shell cannot be a program of its own, so the shell has it built in. Some
commands that could be programs are built in too, because they are used often. Those that need
nothing but the shell's state and the system are here; those that run other commands are with the
running of commands.
-/

set_option autoImplicit false

namespace LspSession.Shell

namespace Builtin

open Activity

/-- The number that a word stands for. It may not be negative. -/
def number (word : Text) : Activity Nat := do
  let value := if word ≠ [] ∧ word.all isDigit then Decimal.readDigits? 0 word else none
  match value.filter (· < 2147483648) with
  | some n => return n
  | none => fail (ofString "Illegal number: " ++ word)

/-- Splits letters with a dash in front off the words of a command, up to a word that is none or
ends them. Each letter has to be one of some. -/
def letters (allowed : List Char) : List Text → Activity (List Char × List Text)
  | ('-' :: c :: more) :: rest => do
    if c = '-' ∧ more = [] then return ([], rest)
    match (c :: more).find? fun c => !allowed.contains c with
    | some c => fail (ofString "Illegal option -" ++ [c])
    | none =>
      let (found, rest) ← letters allowed rest
      return (c :: more ++ found, rest)
  | words => return ([], words)

/-! ### Writing -/

/-- Says that writing has failed, if so. -/
def written (status : Nat) : Activity Nat := do
  if status ≠ success then
    let command := (← scope).command.getD []
    warn (command ++ ofString ": I/O error")
  return status

/-- Words with blanks between them, with their backslash sequences read. The answer says too
whether they ask for an end. -/
def unescapeAll (words : List Text) : Text × Bool := unescape false ([' '].intercalate words)

/-- Writes its arguments with their backslash sequences read. -/
def echo (words : List Text) : Activity Nat := do
  let (words, line) := match words with
    | ['-', 'n'] :: rest => (rest, [])
    | words => (words, ['\n'])
  let (text, ended) := unescapeAll words
  written (← print (if ended then text else text ++ line))

/-- What is said about a format or its arguments. -/
def formatMessage : Format.Complaint → Text
  | .notNumeric argument => argument ++ ofString ": expected numeric value"
  | .notWhole argument => argument ++ ofString ": not completely converted"
  | .outOfRange argument => argument ++ ofString ": Numerical result out of range"
  | .invalid directive => directive ++ ofString ": invalid directive"
  | .unfinished _ => ofString "missing format character"

/-- The status that a complaint about a format or its arguments leads to. -/
def formatStatus : Format.Complaint → Nat
  | .invalid _ | .unfinished _ => misused
  | _ => failed

/-- Writes its arguments by a format. -/
def printf (words : List Text) : Activity Nat := do
  let (_, words) ← letters [] words
  match words with
  | [] =>
    fail (ofString "usage: printf format [arg ...]")
  | format :: arguments =>
    let (text, complaints) := Format.print false format arguments
    for complaint in complaints do
      warn (formatMessage complaint)
    let status ← written (← print text)
    return complaints.foldl (fun status complaint => max status (formatStatus complaint)) status

/-! ### Reading -/

/-- Reads a line from the standard input, and says whether it had an end. A backslash that is not
kept joins two lines and keeps any other character from separating fields. The characters before
are given in reverse. -/
def readLine (keep : Bool) : Nat → List (Char × Bool) → Activity (List (Char × Bool) × Bool)
  | 0, before => return (before.reverse, false)
  | steps + 1, before => do
    match ← take 0 1 with
    | [] => return (before.reverse, false)
    | c :: _ =>
      if c = '\n' then return (before.reverse, true)
      else if c = '\x00' then readLine keep steps before
      else if c = '\\' ∧ !keep then
        match ← take 0 1 with
        | [] => return (before.reverse, false)
        | '\n' :: _ => readLine keep steps before
        | c :: _ => readLine keep steps ((c, true) :: before)
      else readLine keep steps ((c, false) :: before)

/-- Whether a character separates fields, and is blank or not. -/
def separates (separators : Text) (blank : Bool) (c : Char × Bool) : Bool :=
  !c.2 && separators.contains c.1 && (isBlank c.1 || c.1 == '\n') == blank

/-- Splits the first field off a line. -/
def nextField (separators : Text) (line : List (Char × Bool)) :
    List (Char × Bool) × List (Char × Bool) :=
  let isEnd (c : Char × Bool) : Bool := separates separators true c || separates separators false c
  let line := line.dropWhile (separates separators true)
  let field := line.takeWhile fun c => !isEnd c
  let rest := (line.drop field.length).dropWhile (separates separators true)
  match rest with
  | c :: after =>
    if separates separators false c then (field, after.dropWhile (separates separators true))
    else (field, rest)
  | [] => (field, [])

/-- Splits a line over names: each gets a field, and the last one what is left. -/
def spread (separators : Text) : List Text → List (Char × Bool) → List (Text × Text)
  | [], _ => []
  | [name], line =>
    let (field, rest) := nextField separators line
    let whole :=
      if rest = [] then field
      else
        let line := line.dropWhile (separates separators true)
        (line.reverse.dropWhile (separates separators true)).reverse
    [(name, whole.map (·.1))]
  | name :: names, line =>
    let (field, rest) := nextField separators line
    (name, field.map (·.1)) :: spread separators names rest

/-- Splits the options of the reading of a line off its words: whether backslashes are kept, and
what is written before. -/
def readOptions : Nat → List Text → Activity (Bool × Text × List Text)
  | 0, words => return (false, [], words)
  | steps + 1, words => do
    match words with
    | ['-', '-'] :: rest => return (false, [], rest)
    | ['-', 'p'] :: prompt :: rest =>
      let (keep, _, rest) ← readOptions steps rest
      return (keep, prompt, rest)
    | ['-', 'r'] :: rest =>
      let (_, prompt, rest) ← readOptions steps rest
      return (true, prompt, rest)
    | ('-' :: c :: _) :: _ => fail (ofString "Illegal option -" ++ [c])
    | words => return (false, [], words)

/-- Reads a line into variables. -/
def read (words : List Text) : Activity Nat := do
  let (keep, _, names) ← readOptions words.length words
  if names = [] then fail (ofString "arg count")
  let (line, whole) ← readLine keep unlimited []
  for (name, value) in spread (← separators) names line do
    if !isName name then fail (name ++ ofString ": bad variable name")
    assign name value
  return if whole then success else failed

/-! ### Variables and parameters -/

/-- A text in single quotes. -/
def inQuotes (text : Text) : Text :=
  '\'' :: text.flatMap (fun c => if c = '\'' then ofString "'\"'\"'" else [c]) ++ ['\'']

/-- The lines that show variables, behind a command. -/
def listing (command : String) (bindings : List (Text × Variable)) : Text :=
  let shown := bindings.filterMap fun (name, v) =>
    match v.value with
    | some value => some (name ++ '=' :: inQuotes value)
    | none => if command = "" then none else some name
  (shown.mergeSort inOrder).flatMap fun line => ofString command ++ line ++ ['\n']

/-- The name and the value in the text of an assignment. -/
def assignment (text : Text) : Text × Option Text :=
  let name := text.takeWhile (· != '=')
  (name, if name.length = text.length then none else some (text.drop (name.length + 1)))

/-- Marks variables, which may be set too, in some way. -/
def markAll (command : String) (isMarked : Variable → Bool) (mark : Variable → Variable)
    (words : List Text) : Activity Nat := do
  let (_, words) ← letters ['p'] words
  if words = [] then
    print (listing (command ++ " ") ((← scope).bindings.filter fun (_, v) => isMarked v))
  else
    for word in words do
      let (name, value) := assignment word
      if !isName name then fail (name ++ ofString ": bad variable name")
      match value with
      | some value => assign name value
      | none => pure ()
      setVariable name (some (mark (← variableOf name)))
    return success

/-- Gives variables to programs. -/
def export_ : List Text → Activity Nat :=
  markAll "export" (·.exported) fun v => { v with exported := true }

/-- Keeps variables from being set. -/
def readOnly : List Text → Activity Nat :=
  markAll "readonly" (·.readOnly) fun v => { v with readOnly := true }

/-- Hides variables for the time of a function. A dash in the place of a name stands for the options
of the shell. -/
def local_ (words : List Text) : Activity Nat := do
  if (← scope).hidden = [] then fail (ofString "not in a function")
  for word in words do
    let (name, value) := assignment word
    let s ← scope
    match s.hidden with
    | [] => fail (ofString "not in a function")
    | frame :: frames =>
      if !isName name ∧ word ≠ ['-'] then fail (name ++ ofString ": bad variable name")
      if (frame.lookup name).isNone then
        let old := if word = ['-'] then some ⟨some s.options, false, false⟩ else
          s.bindings.lookup name
        modifyScope fun s => { s with hidden := ((name, old) :: frame) :: frames }
      match value with
      | some value => assign name value
      | none => pure ()
  return success

/-- Removes variables or functions. -/
def unset (words : List Text) : Activity Nat := do
  let (found, names) ← letters ['f', 'v'] words
  for name in names do
    if found.getLast? = some 'f' then
      modifyScope fun s => { s with
        functions := s.functions.filter fun (other, _) => other != name }
    else
      if !isName name then fail (name ++ ofString ": bad variable name")
      unassign name
  return success

/-- Drops parameters from the front. -/
def shift (words : List Text) : Activity Nat := do
  let count ← match words with
    | word :: _ => number word
    | [] => pure 1
  if (← scope).parameters.length < count then fail (ofString "can't shift that many")
  modifyScope fun s => { s with parameters := s.parameters.drop count, cursor := ⟨1, 0⟩ }
  return success

/-- The names of the options with their letters. -/
def optionNames : List (String × Char) :=
  [("errexit", 'e'), ("noglob", 'f'), ("ignoreeof", 'I'), ("interactive", 'i'), ("monitor", 'm'),
    ("noexec", 'n'), ("stdin", 's'), ("xtrace", 'x'), ("verbose", 'v'), ("vi", 'V'), ("emacs", 'E'),
    ("noclobber", 'C'), ("allexport", 'a'), ("notify", 'b'), ("nounset", 'u'),
    ("privileged", 'p'), ("nolog", '\x00'), ("debug", '\x01')]

/-- The letters of options in the order in which they are shown. -/
def sortOptions (letters : List Char) : List Char :=
  (optionNames.map (·.2)).reverse.filter letters.contains

/-- Turns an option on or off. -/
def setOption (on : Bool) (letter : Char) : Activity Unit := do
  if !(optionNames.any fun (_, other) => other == letter) then
    fail (ofString "Illegal option -" ++ [letter])
  modifyScope fun s =>
    let others := s.options.filter (· != letter)
    { s with options := sortOptions (if on then letter :: others else others) }

/-- Turns an option with a name on or off. -/
def setNamedOption (on : Bool) (name : Text) : Activity Unit := do
  match optionNames.find? fun (other, _) => other.toList == name with
  | some (_, letter) => setOption on letter
  | none => fail (ofString "Illegal option -o " ++ name)

/-- Shows which options are on. -/
def showOptions : Activity Unit := do
  let options := (← scope).options
  let _ ← print (ofString "Current option settings\n" ++ optionNames.flatMap fun (name, letter) =>
    let name := name.toList
    name ++ List.replicate (16 - name.length) ' ' ++
      ofString (if options.contains letter then "on\n" else "off\n"))

/-- Shows the commands that turn the options on and off as they are. -/
def showOptionCommands : Activity Unit := do
  let options := (← scope).options
  let _ ← print (optionNames.flatMap fun (name, letter) =>
    ofString (if options.contains letter then "set -o " else "set +o ") ++ name.toList ++ ['\n'])

/-- Takes options off the front of words. The answer says whether all other words are parameters
even if there are none. -/
def takeOptions : List Text → Activity (Bool × List Text)
  | [] => return (false, [])
  | ['-', '-'] :: rest => return (true, rest)
  | ['-'] :: rest => return (false, rest)
  | [['-', 'o']] => do
    showOptions
    return (false, [])
  | [['+', 'o']] => do
    showOptionCommands
    return (false, [])
  | ['-', 'o'] :: name :: rest => do
    setNamedOption true name
    takeOptions rest
  | ['+', 'o'] :: name :: rest => do
    setNamedOption false name
    takeOptions rest
  | ('-' :: found) :: rest => do
    found.forM (setOption true)
    takeOptions rest
  | ('+' :: found) :: rest => do
    found.forM (setOption false)
    takeOptions rest
  | words => return (false, words)

/-- Sets options and parameters, or shows all variables. -/
def set (words : List Text) : Activity Nat := do
  if words = [] then print (listing "" (← scope).bindings)
  else
    let (always, rest) ← takeOptions words
    if always || rest != [] then
      modifyScope fun s => { s with parameters := rest, cursor := ⟨1, 0⟩ }
    return success

/-- Goes through the options among parameters, one letter at a time. -/
def getopts (words : List Text) : Activity Nat := do
  match words with
  | allowed :: name :: given =>
    let s ← scope
    let all := if given = [] then s.parameters else given
    let silent := allowed.head? = some ':'
    let finish (letter : Text) (argument : Option Text) (index used status : Nat) :
        Activity Nat := do
      if !isName name then fail (name ++ ofString ": bad variable name")
      assign name letter
      match argument with
      | some value => assign "OPTARG".toList value
      | none => setVariable "OPTARG".toList none
      assign "OPTIND".toList (ofNat index)
      modifyScope fun s => { s with cursor := ⟨index, used⟩ }
      return status
    let index := s.cursor.index
    let word := all[index - 1]?.getD []
    let isOption := match word with
      | '-' :: _ :: _ => true
      | _ => false
    let used := if s.cursor.used = 0 then 1 else s.cursor.used
    if s.cursor.used = 0 ∧ !isOption then finish ['?'] none index 0 failed
    else if s.cursor.used = 0 ∧ word = ['-', '-'] then finish ['?'] none (index + 1) 0 failed
    else
      let letter := word[used]?.getD '?'
      let last := word.length ≤ used + 1
      let (index', used') := if last then (index + 1, 0) else (index, used + 1)
      match (allowed.dropWhile (· != letter)) with
      | [] =>
        if silent then finish ['?'] (some [letter]) index' used' success
        else
          let _ ← write 2 (ofString "Illegal option -" ++ [letter, '\n'])
          finish ['?'] none index' used' success
      | _ :: ':' :: _ =>
        if !last then finish [letter] (some (word.drop (used + 1))) (index + 1) 0 success
        else
          match all[index]? with
          | some argument => finish [letter] (some argument) (index + 2) 0 success
          | none =>
            if silent then finish [':'] (some [letter]) index' used' success
            else
              let _ ← write 2 (ofString "No arg for -" ++ ofString (String.singleton letter) ++
                ofString " option\n")
              finish ['?'] none index' used' success
      | _ => finish [letter] none index' used' success
  | _ => fail (ofString "Usage: getopts optstring var [arg...]")

/-! ### Directories -/

/-- A path from a directory without dots in it. -/
def lexicalPath (directory path : Text) : Text :=
  let start := if path.head? = some '/' then [] else (directory.splitOn '/').filter (· ≠ [])
  let step (parts : List Text) (part : Text) : List Text :=
    if part = [] ∨ part = ['.'] then parts
    else if part = ['.', '.'] then parts.dropLast
    else parts ++ [part]
  '/' :: ['/'].intercalate ((path.splitOn '/').foldl step start)

/-- The working directory as the system knows it. -/
def physicalDirectory : Activity Text := do
  return ofString (Place.absolute (← call .directory))

/-- Writes the working directory. -/
def pwd (words : List Text) : Activity Nat := do
  let (found, _) ← letters ['L', 'P'] words
  let path ← if found.getLast? = some 'P' then physicalDirectory else pure (← scope).directory
  print (path ++ ['\n'])

/-- Takes note of the working directory. -/
def noteDirectory (path : Text) : Activity Unit := do
  modifyScope fun s => { s with directory := path }
  assign "PWD".toList path
  setVariable "PWD".toList (some { ← variableOf "PWD".toList with exported := true })

/-- Whether a path says itself where it starts. -/
def isAnchored (path : Text) : Bool :=
  match path with
  | '/' :: _ | ['.'] | '.' :: '/' :: _ | ['.', '.'] | '.' :: '.' :: '/' :: _ => true
  | _ => false

/-- The first directory of a path in one of some directories, and whether that one has a name. -/
def directoryIn (path : Text) : List Text → Activity (Text × Bool)
  | [] => return (path, false)
  | directory :: rest => do
    let candidate := if directory = [] then path else directory ++ '/' :: path
    match ← call (.status (toPath candidate) true) with
    | .ok ⟨.directory, _, _⟩ => return (candidate, directory != [])
    | _ => directoryIn path rest

/-- Changes the working directory. -/
def cd (words : List Text) : Activity Nat := do
  let (found, words) ← letters ['L', 'P'] words
  let given ← match words with
    | [] => valueOf "HOME".toList
    | ['-'] :: _ => valueOf "OLDPWD".toList
    | path :: _ => do pure (some path)
  let path := match given.getD [] with
    | [] => ['.']
    | path => path
  let (target, isFound) ←
    match isAnchored path, ← valueOf "CDPATH".toList with
    | false, some directories => directoryIn path (directories.splitOn ':')
    | _, _ => do pure (path, false)
  let old := (← scope).directory
  let isPhysical := found.getLast? = some 'P'
  let place := lexicalPath old target
  match ← call (.enter (toPath (if isPhysical then target else place))) with
  | .error _ => fail (ofString "can't cd to " ++ path)
  | .ok _ =>
    assign "OLDPWD".toList old
    setVariable "OLDPWD".toList (some { ← variableOf "OLDPWD".toList with exported := true })
    noteDirectory (← if isPhysical then physicalDirectory else pure place)
    if isFound ∨ words.head? = some ['-'] then print ((← scope).directory ++ ['\n'])
    else return success

/-- The permissions that letters stand for, given those that there are. -/
def permissions (old : Nat) (c : Char) : Nat :=
  match c with
  | 'r' => 4
  | 'w' => 2
  | 'x' => 1
  | 'u' => old / 64 % 8
  | 'g' => old / 8 % 8
  | 'o' => old % 8
  | 'X' => if old &&& 73 = 0 then 0 else 1
  | _ => 0

/-- Changes permissions as a mode says, in at most so many steps. The users that it is about are
given as a number with a bit for each, if they are known. -/
def changeMode : Nat → Nat → Nat → Text → Option Nat
  | 0, _, _, _ => none
  | steps + 1, users, old, mode =>
    let bit (c : Char) : Nat :=
      match c with
      | 'u' => 64
      | 'g' => 8
      | 'o' => 1
      | _ => 73
    let named := mode.takeWhile ['a', 'u', 'g', 'o'].contains
    let users := named.foldl (fun users c => users ||| bit c) users
    let users := if users = 0 then 73 else users
    match mode.drop named.length with
    | [] => some old
    | sign :: rest =>
      if ! ['=', '+', '-'].contains sign then none
      else
        let letters := rest.takeWhile ['r', 'w', 'x', 'u', 'g', 'o', 'X', 's'].contains
        let value := (letters.foldl (fun value c => value ||| permissions old c) 0) * users
        let others (bits : Nat) : Nat := old - (old &&& bits)
        let new := match sign with
          | '+' => old ||| value
          | '-' => others value
          | _ => value ||| others (users * 7)
        match rest.drop letters.length with
        | [] => some new
        | ',' :: rest => changeMode steps 0 new rest
        | rest =>
          if rest.head?.any ['=', '+', '-'].contains then changeMode steps users new rest else none

/-- The permissions that new files can get, in letters. -/
def modeText (mask : Nat) : Text :=
  let part (user : Char) (bits : Nat) : Text :=
    let has (bit : Nat) (c : Char) : Text := if bits &&& bit = 0 then [c] else []
    user :: '=' :: has 4 'r' ++ has 2 'w' ++ has 1 'x'
  part 'u' (mask / 64 % 8) ++ ',' :: part 'g' (mask / 8 % 8) ++ ',' :: part 'o' (mask % 8)

/-- Shows or sets the permissions that new files do not get. -/
def umask (words : List Text) : Activity Nat := do
  let (found, words) ← letters ['S'] words
  let mask := (← scope).mask
  match words with
  | [] =>
    let digits := Nat.toDigits 8 mask
    if found ≠ [] then print (modeText mask ++ ['\n'])
    else print (List.replicate (4 - digits.length) '0' ++ digits ++ ['\n'])
  | word :: _ =>
    let new ←
      if word.head?.any isDigit then
        if word.all fun c => (digitIn? 8 c).isSome then pure (valueIn 8 word % 512)
        else fail (ofString "Illegal number: " ++ word)
      else
        match changeMode (word.length + 1) 0 (511 - mask) word with
        | some allowed => pure (511 - allowed % 512)
        | none => fail (ofString "Illegal mode: " ++ word)
    modifyScope fun s => { s with mask := new }
    return success

/-! ### Leaving -/

/-- The number of loops to leave. -/
def loops (words : List Text) : Activity Nat := do
  match words with
  | [] => return 1
  | word :: _ =>
    match ← number word with
    | 0 => fail (ofString "Illegal number: " ++ word)
    | n => return n

/-- Leaves loops, the last of them to start it again if so said. -/
def leave (again : Bool) (words : List Text) : Activity Nat := do
  let count := min (← loops words) (← scope).loops
  if count = 0 then return success else throw (.leaving count again)

/-- The status that is given, if one is. -/
def status? (words : List Text) : Activity (Option Nat) := do
  match words with
  | [] => return none
  | word :: _ => return some (← number word)

/-- Ends the shell. -/
def exit (words : List Text) : Activity Nat := do
  let s ← scope
  throw (.exited ((← status? words).getD (s.trapStatus.getD s.status)))

/-- Leaves a function. -/
def return_ (words : List Text) : Activity Nat := do
  throw (.returned ((← status? words).getD (← scope).status))

/-! ### Signals and processes -/

/-- The number of a signal that is given by its name or its number. Zero stands for the end of the
shell. -/
def signal? (text : Text) : Option Nat :=
  let name := (String.ofList text).toUpper
  if text ≠ [] ∧ text.all isDigit then (Decimal.readDigits? 0 text).filter (· ≤ Signal.greatest)
  else if name = "EXIT" then some 0
  else Signal.ofName? name

/-- The number of a signal that is given by its name, which can start as the names of all signals
do, or its number. -/
def anySignal? (text : Text) : Option Nat :=
  match text.map Char.toUpper with
  | 'S' :: 'I' :: 'G' :: name => signal? name
  | name => signal? name

/-- The name of a signal. -/
def signalName (signal : Nat) : Text :=
  match Signal.table.lookup signal with
  | some name => ofString name
  | none => if signal = 0 then ofString "EXIT" else ofNat signal

/-- Says what is to be done about a signal. -/
def setTrap (reaction : Option Text) (signal : Nat) : Activity Unit := do
  modifyScope fun s =>
    let others := s.traps.filter fun (other, _) => other != signal
    { s with traps := match reaction with
      | some reaction => others ++ [(signal, reaction)]
      | none => others }
  if signal ≠ 0 then
    call (.dispose signal <| match reaction with
      | none => .usual
      | some [] => .ignored
      | some _ => .noted)

/-- Says what is to be done about signals, or shows it. -/
def trap (words : List Text) : Activity Nat := do
  let (_, words) ← letters [] words
  match words with
  | [] =>
    let traps := (← scope).traps.mergeSort fun a b => a.1 ≤ b.1
    print (traps.flatMap fun (signal, reaction) =>
      ofString "trap -- " ++ inQuotes reaction ++ ' ' :: signalName signal ++ ['\n'])
  | first :: rest =>
    let (reaction, names) :=
      if rest = [] ∨ (first.all isDigit ∧ first ≠ []) then (none, words)
      else (if first = ['-'] then none else some first, rest)
    for name in names do
      match signal? name with
      | some signal => setTrap reaction signal
      | none =>
        return ← complain (ofString "trap: " ++ name ++ ofString ": bad trap") failed
    return success

/-- The job that a word with a percent sign stands for. -/
def job (word : Text) : Activity Job := do
  let jobs := (← scope).jobs
  let name := word.tail
  let found :=
    if name = [] ∨ name = ['%'] ∨ name = ['+'] then jobs.head?
    else if name = ['-'] then jobs[1]?
    else if name.all isDigit then jobs.find? fun j => j.number == valueIn 10 name
    else none
  match found with
  | some j => return j
  | none =>
    if word = [] ∨ name = [] then fail (ofString "No current job")
    else fail (ofString "No such job: " ++ word)

/-- Sends a signal to a process. A job has no group of processes that a signal could reach. -/
def sendSignal (signal : Nat) (word : Text) : Activity Nat := do
  let refuse (e : OsError) : Activity Nat := do
    warn (ofString (e.text ++ "\n"))
    return failed
  match word with
  | '%' :: _ =>
    let _ ← job word
    refuse .noProcess
  | '-' :: digits =>
    let _ ← number digits
    refuse .noProcess
  | word =>
    let n ← number word
    match ← call (.signal n signal) with
    | .ok _ => return success
    | .error e => refuse e

/-- The names of all signals, a line each. Half of the signals without a name are counted from the
first of them, and half from the last. -/
def signalNames : Text :=
  (List.range 65).flatMap fun n =>
    let name :=
      if n = 16 ∨ n = 0 ∨ (31 < n ∧ n < 34) then ofNat n
      else if n < 32 then signalName n
      else if n < 50 then ofString "RTMIN" ++ if n = 34 then [] else '+' :: ofNat (n - 34)
      else ofString "RTMAX" ++ if n = 64 then [] else '-' :: ofNat (64 - n)
    name ++ ['\n']

/-- Sends a signal to processes. -/
def kill (words : List Text) : Activity Nat := do
  let usage {α : Type} : Activity α := fail (ofString
    ("Usage: kill [-s sigspec | -signum | -sigspec] [pid | job]... or\n" ++
      "kill -l [exitstatus]"))
  let send (signal : Nat) (processes : List Text) : Activity Nat := do
    if processes = [] then usage
    let mut status := success
    for process in processes do
      status := max status (← sendSignal signal process)
    return status
  let sendNamed (name : Text) (rest : List Text) : Activity Nat := do
    match signal? name with
    | some signal => send signal (if rest.head? = some ['-', '-'] then rest.tail else rest)
    | none => fail (ofString "invalid signal number or name: " ++ name)
  match words with
  | [] => usage
  | ['-', 'l'] :: [] => print signalNames
  | ['-', 'l'] :: word :: _ =>
    let n ← number word
    let n' := if 128 < n then n - 128 else n
    if n' = 0 ∨ Signal.greatest < n' then
      fail (ofString "invalid signal number or exit status: " ++ word)
    else print (signalName n' ++ ['\n'])
  | ['-', 's'] :: [] => fail (ofString "No arg for -s option")
  | ['-', 's'] :: name :: rest => sendNamed name rest
  | ('-' :: 's' :: name) :: rest => sendNamed name rest
  | ['-', '-'] :: rest => send Signal.terminate rest
  | ('-' :: c :: name) :: rest =>
    match signal? (c :: name) with
    | some signal => send signal (if rest.head? = some ['-', '-'] then rest.tail else rest)
    | none => fail (ofString "Illegal option -" ++ [c])
  | words => send Signal.terminate words

/-! ### Jobs -/

/-- Waits until a job that is looked up again and again is done, for at most so many processes of
it or of any job. The answer is the status if a signal comes before. -/
def waitUntil (current? : Activity (Option Nat)) (speaks : Bool) : Nat → Activity (Option Nat)
  | 0 => return none
  | steps + 1 => do
    match ← current? with
    | none => return none
    | some process =>
      match ← call (.wait (if speaks then some process else none) true) with
      | .ended id status =>
        noteEnd id status
        if speaks then announceEnd status
        waitUntil current? speaks steps
      | .interrupted =>
        let noted : List Nat ← call .notes
        modifyScope fun s => { s with noted := s.noted ++ noted }
        call (.sleep 100000)
        reap
        match ← current? with
        | none => return none
        | some _ => return some (128 + noted.headD 0)
      | _ => return none

/-- Marks jobs as waited for to their end. -/
def settle (which : Job → Bool) : Activity Unit :=
  modifyScope fun s => { s with
    jobs := s.jobs.map fun j => if which j && j.isDone then { j with isSettled := true } else j }

/-- Waits for all jobs. -/
def waitForAll : Activity Nat := do
  let running : Activity (Option Nat) := do
    return ((← scope).jobs.flatMap fun j => j.processes.filter j.awaits).head?
  let interrupted ← waitUntil running false unlimited
  settle fun _ => true
  return interrupted.getD success

/-- Waits for a job. -/
def waitForJob (j : Job) : Activity Nat := do
  let current : Activity (Option Job) := do
    return (← scope).jobs.find? fun other => other.number == j.number
  let running : Activity (Option Nat) := do
    return (← current).bind fun j => j.processes.find? j.awaits
  match ← waitUntil running true unlimited with
  | some status => return status
  | none =>
    settle fun other => other.number == j.number
    return (((← current).bind Job.status?).map statusOf).getD unknown

/-- Waits for jobs. -/
def wait (words : List Text) : Activity Nat := do
  let (_, words) ← letters [] words
  match words with
  | [] => waitForAll
  | words =>
    let mut status := success
    for word in words do
      if word.head? = some '%' then status ← waitForJob (← job word)
      else
        let id ← number word
        match (← scope).jobs.find? fun j => j.leader == id with
        | some j => status ← waitForJob j
        | none => status := unknown
    return status

/-- What there is to say about a job: its number, its mark and its state. -/
def jobLine (showsProcess : Bool) (mark : Char) (j : Job) : Text :=
  let state := match j.status? with
    | none => ofString "Running"
    | some (.exited 0) => ofString "Done"
    | some (.exited n) => ofString "Done(" ++ ofNat n ++ [')']
    | some (.signaled n) => ofString (signalMeaning n)
  let process := if showsProcess then ofNat (j.processes.headD 0) ++ [' '] else []
  let front := '[' :: ofNat j.number ++ ofString "] " ++ [mark, ' '] ++ process ++ state
  front ++ List.replicate (33 - front.length) ' ' ++ ['\n']

/-- Shows jobs. One that is done is forgotten then. -/
def jobs (words : List Text) : Activity Nat := do
  let (found, words) ← letters ['l', 'p'] words
  reap
  let all := (← scope).jobs
  let shown ← if words = [] then pure all else words.mapM job
  for j in shown do
    let left := (← scope).jobs
    let position := left.findIdx fun other => other.number == j.number
    let mark := if position = 0 then '+' else if position = 1 then '-' else ' '
    let _ ← print (if found.contains 'p' then ofNat (j.processes.headD 0) ++ ['\n'] else
      jobLine (found.contains 'l') mark j)
    if j.isDone ∧ !found.contains 'p' then
      modifyScope fun s => { s with jobs := left.filter fun other => other.number != j.number }
  return success

/-- Lets a job go on, which is not possible for one that the shell does not control. -/
def resume (words : List Text) : Activity Nat := do
  let (_, words) ← letters [] words
  let word := words.headD []
  let _ ← job word
  let name := if word = [] then ofString "(null)" else word
  fail (ofString "job " ++ name ++ ofString " not created under job control")

/-! ### Aliases -/

/-- Lets words stand for texts where a command can start, or shows for what they stand. -/
def nameText (words : List Text) : Activity Nat := do
  let show_ (name text : Text) : Activity Unit := do
    let _ ← print (name ++ '=' :: inQuotes text ++ ['\n'])
  if words = [] then
    for (name, text) in (← scope).aliases do
      show_ name text
  let mut status := success
  for word in words do
    match assignment word with
    | (name, some text) =>
      if name = [] then
        status ← complain (ofString "alias: " ++ word ++ ofString " not found") failed
      else
        modifyScope fun s => { s with
          aliases := (s.aliases.filter fun (other, _) => other != name) ++ [(name, text)] }
    | (name, none) =>
      match (← scope).aliases.lookup name with
      | some text => show_ name text
      | none => status ← complain (ofString "alias: " ++ name ++ ofString " not found") failed
  return status

/-- Lets words stand for themselves again. -/
def unalias (words : List Text) : Activity Nat := do
  let (found, words) ← letters ['a'] words
  if found ≠ [] then modifyScope fun s => { s with aliases := [] }
  let mut status := success
  for name in words do
    if ((← scope).aliases.lookup name).isNone then
      status ← complain (ofString "unalias: " ++ name ++ ofString " not found") failed
    modifyScope fun s => { s with aliases := s.aliases.filter fun (other, _) => other != name }
  return status

/-! ### Programs -/

/-- The directories that programs are looked for in. -/
def searchPath : Activity (List Text) := do
  return ((← valueOf "PATH".toList).getD []).splitOn ':'

/-- Looks for a program in directories. There may be something of the name that is no program. -/
def findIn (name : Text) : OsError → List Text → Activity (Except OsError Text)
  | e, [] => return .error e
  | e, directory :: rest => do
    let path := if directory = [] then name else directory ++ '/' :: name
    match ← call (.status (toPath path) true) with
    | .ok status =>
      match status.node with
      | .program _ | .file _ true => return .ok path
      | _ => findIn name .permissionDenied rest
    | .error .notFound | .error .notADirectory => findIn name e rest
    | .error e => findIn name e rest

/-- Looks for a program where programs are. -/
def findProgram (name : Text) : Activity (Except OsError Text) := do
  findIn name .notFound (← searchPath)

/-- The path of a program, if there is one. A name that is a path stands for itself. -/
def programPath? (name : Text) : Activity (Option Text) := do
  if name.contains '/' then
    match ← call (.status (toPath name) true) with
    | .ok status => return if Condition.isExecutable status.node then some name else none
    | .error _ => return none
  else return (← findProgram name).toOption

/-- Shows or sets how much a process may use, which is not limited. -/
def ulimit (words : List Text) : Activity Nat := do
  let (_, words) ← letters ("HSabcdefilmnpqrstuvwx".toList) words
  if words = [] then print (ofString "unlimited\n") else return success

/-! ### By name -/

/-- The time that the shell and its children have been at work, which is less than can be seen. -/
def times : Text := ofString "0m0.000000s 0m0.000000s\n0m0.000000s 0m0.000000s\n"

/-- Does nothing. -/
def succeed (_ : List Text) : Activity Nat := return success

/-- The built-in commands of this kind by name. -/
def table : List (String × (List Text → Activity Nat)) :=
  [(":", succeed), ("[", Condition.bracket), ("alias", nameText), ("bg", resume),
    ("break", leave false), ("cd", cd), ("chdir", cd), ("continue", leave true), ("echo", echo),
    ("exit", exit), ("export", export_), ("false", fun _ => return failed), ("fg", resume),
    ("getopts", getopts), ("jobs", jobs), ("kill", kill), ("local", local_),
    ("printf", printf), ("pwd", pwd), ("read", read), ("readonly", readOnly), ("return", return_),
    ("set", set), ("shift", shift), ("test", Condition.test), ("times", fun _ => print times),
    ("trap", trap), ("true", succeed), ("ulimit", ulimit), ("umask", umask), ("unalias", unalias),
    ("unset", unset), ("wait", wait)]

/-- The built-in commands that run other commands. -/
def running : List String := [".", "command", "eval", "exec", "hash", "type"]

/-- Whether a command is built in. -/
def isBuiltin (name : Text) : Bool :=
  running.any (fun n => n.toList == name) || table.any fun (n, _) => n.toList == name

end Builtin

end LspSession.Shell
