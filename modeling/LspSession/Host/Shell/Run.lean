import LspSession.Host.Shell.Builtin
import LspSession.Host.Shell.Reader
import LspSession.Host.Shell.Redirect

/-!
# `LspSession.Host.Shell.Run`: running commands

`run` runs a command. It takes the number of steps that it may go down at most: every command runs
the commands in it with one step less. The parts of running are functions of their own that take
`run` with fewer steps as their argument, as a `Runner`.

The last command of a shell runs in the place of the shell if it can, so that it is the same
process. A command whose status is looked at does not end the shell when it fails.
-/

set_option autoImplicit false

namespace LspSession.Shell

open Activity

/-- How a command is run of which it is known whether it is the last one, and whether its status is
looked at. -/
abbrev Runner := (isLast isTested : Bool) → Command → Activity Nat

/-- A program that can be started by its name. -/
abbrev Utility := List Text → Activity Nat

/-! ### Scripts -/

/-- Finds fault with a script. -/
def reject {α : Type} (fault : Fault) : Activity α := do
  match fault with
  | .malformed line message =>
    modifyScope fun s => { s with line := line }
    fail (ofString ("Syntax error: " ++ message))
  | .unfinished => fail (ofString "Syntax error: end of file unexpected")

/-- Takes note of the documents that have come with a line. -/
def noteDocuments (source : Source) : Activity Unit :=
  modifyScope fun s => { s with
    documents := source.documents ++ s.documents
    nextDocument := source.nextDocument }

/-- A script that goes on, with the number that its next document gets. -/
def Source.goOn (source : Source) (nextDocument : Nat) : Source :=
  { source with documents := [], nextDocument := nextDocument }

/-- Runs what is left of a script, in at most so many lines. More of it is taken from a descriptor
if there is one. -/
def runSource (runner : Runner) (descriptor : Option Nat) : Nat → Source → Nat → Activity Nat
  | 0, _, status => return status
  | lines + 1, source, status => do
    let s ← scope
    let source := { source.goOn s.nextDocument with aliases := s.aliases }
    match Reader.line.run source, descriptor with
    | .ok none _, _ => return status
    | .ok (some .skip) rest, _ =>
      noteDocuments rest
      runSource runner descriptor lines rest status
    | .ok (some command) rest, _ =>
      noteDocuments rest
      let status ← runner false false command
      runSource runner descriptor lines rest status
    | .error .unfinished _, some descriptor =>
      let more ← take descriptor 8192
      let source := { source with text := source.text ++ more, closed := more == [] }
      runSource runner (some descriptor) lines source status
    | .error fault _, _ => reject fault

/-- Runs the text of a script. -/
def runText (runner : Runner) (text : Text) : Activity Nat :=
  runSource runner none unlimited (Source.ofText text true 1) success

/-- Runs the script that a descriptor reads as. -/
def runDescriptor (runner : Runner) (descriptor : Nat) : Activity Nat :=
  runSource runner (some descriptor) unlimited (Source.ofText [] false 1) success

/-- Does something as a command of the shell. -/
def asCommand (name : Text) (activity : Activity Nat) : Activity Nat := do
  let before := (← scope).command
  modifyScope fun s => { s with command := some name }
  andThen activity (modifyScope fun s => { s with command := before })

/-! ### Signals -/

/-- Reacts to a signal. The status stays what it was. -/
def reactTo (runner : Runner) (signal : Nat) : Activity Unit := do
  let before ← scope
  match before.traps.lookup signal with
  | none | some [] => return ()
  | some reaction =>
    modifyScope fun s => { s with trapStatus := some (before.trapStatus.getD before.status) }
    let _ ← runText runner reaction
    modifyScope fun s => { s with status := before.status, trapStatus := before.trapStatus }

/-- Reacts to the signals that have been noted. -/
def react (runner : Runner) : Activity Unit := do
  let s ← scope
  if s.traps.all fun (signal, reaction) => signal == 0 || reaction == [] then return ()
  let fresh : List Nat ← call .notes
  let noted := (s.noted ++ fresh).mergeSort
  modifyScope fun s => { s with noted := [] }
  noted.forM (reactTo runner)

/-- Whether a shell has something to do about signals or at its end. -/
def Scope.hasTraps (s : Scope) : Bool := s.traps != []

/-- Runs an activity as the whole work of a shell. At its end the shell does what it is to do
then. -/
def asShell (runner : Runner) (activity : Activity Nat) : Activity Nat := do
  let status ← tryCatch activity fun
    | .exited status | .failed status | .returned status => return status
    | .leaving .. => return success
  match (← scope).traps.lookup 0 with
  | none | some [] => return status
  | some reaction =>
    modifyScope fun s => { s with
      traps := s.traps.filter fun (signal, _) => signal != 0
      status := status
      trapStatus := some status
      command := none
      loops := 0 }
    tryCatch (do
      let _ ← runText runner reaction
      return status) fun
    | .exited status | .failed status => return status
    | _ => return status

/-- The work of a shell that is a process of its own. -/
def asSubshell (runner : Runner) (activity : Activity Nat) : Activity Nat :=
  asChild (asShell runner activity)

/-! ### Shells -/

/-- What a shell is asked to run. -/
inductive Work where
  | text (text : Text)
  /-- The standard input. -/
  | input
  | file (path : Text)
  deriving DecidableEq, Repr

/-- Takes the options of a shell off its arguments, at most so many of them. The answer says too
whether a text is given, and whether the standard input is to be read. -/
def shellOptions : Nat → List Text → Activity (Bool × Bool × List Text)
  | 0, arguments => return (false, false, arguments)
  | steps + 1, arguments => do
    match arguments with
    | ['-', '-'] :: rest | ['-'] :: rest => return (false, false, rest)
    | ['-', 'o'] :: name :: rest =>
      Builtin.setNamedOption true name
      shellOptions steps rest
    | ['+', 'o'] :: name :: rest =>
      Builtin.setNamedOption false name
      shellOptions steps rest
    | ('-' :: letters) :: rest =>
      (letters.filter fun c => c != 'c' && c != 'l').forM (Builtin.setOption true)
      let (hasText, readsInput, rest) ← shellOptions steps rest
      return (hasText || letters.contains 'c', readsInput || letters.contains 's', rest)
    | ('+' :: letters) :: rest =>
      letters.forM (Builtin.setOption false)
      shellOptions steps rest
    | arguments => return (false, false, arguments)

/-- Runs a shell in the place of another program. -/
def shell (runner : Runner) : Utility := fun arguments => do
  let (id, parent) ← call .identity
  let physical ← Builtin.physicalDirectory
  modifyScope fun s => { s with shellId := id, parentId := parent, directory := physical }
  setVariable "PPID".toList (some ⟨some (ofNat parent), false, false⟩)
  setVariable "IFS".toList (some ⟨some [' ', '\t', '\n'], false, false⟩)
  setVariable "OPTIND".toList (some ⟨some ['1'], false, false⟩)
  setVariable "PS1".toList (some ⟨some (ofString "$ "), false, false⟩)
  setVariable "PS2".toList (some ⟨some (ofString "> "), false, false⟩)
  setVariable "PS4".toList (some ⟨some (ofString "+ "), false, false⟩)
  Builtin.noteDirectory physical
  asShell runner do
    let (hasText, readsInput, rest) ← shellOptions arguments.length arguments
    if (← hasOption 'i') || (← hasOption 'm') then
      warn (ofString "can't access tty; job control turned off")
    let start (name : Option Text) (parameters : List Text) : Activity Unit :=
      modifyScope fun s => { s with
        name := name.getD s.name
        parameters := parameters
        line := 1 }
    match hasText, rest with
    | true, [] => fail (ofString "-c requires an argument")
    | true, text :: operands =>
      start operands.head? operands.tail
      let status ← runText runner text
      if readsInput then runDescriptor runner 0 else return status
    | false, [] =>
      start none []
      Builtin.setOption true 's'
      runDescriptor runner 0
    | false, path :: operands =>
      if readsInput then
        start none (path :: operands)
        runDescriptor runner 0
      else
        let descriptor ← Redirect.openPath path .input
        match ← call (.keep descriptor) with
        | .ok kept =>
          close descriptor
          start (some path) operands
          runDescriptor runner kept
        | .error _ => return misused

/-! ### Programs -/

variable (find? : Utility → String → Option Utility)

/-- Runs words as a command in the place of the shell, going on with a runner. -/
def start (runner : Runner) : Utility := fun words =>
  let words := ofString "exec" :: words
  runner true false (.simple 0 [] (words.map fun word => .mark :: word.map .quoted) [])

/-- The program of a name. -/
def program? (runner : Runner) (name : String) : Option Utility :=
  if ["sh", "dash", "bash"].contains name then some (shell runner) else find? (start runner) name

/-- What the first program starts with. -/
def Scope.fresh (name : Text) (environment : List (Text × Text)) : Scope :=
  { bindings := environment.map fun (name, value) => (name, ⟨some value, true, false⟩)
    functions := []
    aliases := []
    hidden := []
    name := name
    parameters := []
    options := []
    traps := []
    status := success
    trapStatus := none
    takenStatus := success
    shellId := 0
    parentId := 0
    background := none
    jobs := []
    documents := []
    nextDocument := 0
    loops := 0
    line := 0
    functionLine := none
    command := none
    cursor := ⟨1, 0⟩
    directory := []
    noted := []
    mask := 18 }

/-- What a program starts with in the place of another one. -/
def Scope.forProgram (name : Text) (environment : List (Text × Text)) (old : Scope) : Scope :=
  { Scope.fresh name environment with
    traps := old.traps.filter fun (_, reaction) => reaction == []
    mask := old.mask }

/-- What starts when a path is started with arguments: a program, and the arguments that it gets. A
file that is no program is the script of a shell, or of the program that its first line names. -/
def imageOf (arguments : List Text) : Nat → Text → Activity (Except OsError (String × List Text))
  | 0, _ => return .error .linkLoop
  | steps + 1, path => do
    match ← call (.status (toPath path) true) with
    | .error e => return .error e
    | .ok status =>
      match status.node with
      | .program name => return .ok (name, arguments)
      | .file bytes true =>
        let line := (ofBytes bytes).takeWhile (· != '\n')
        match line with
        | '#' :: '!' :: rest =>
          let rest := rest.dropWhile isBlank
          let interpreter := rest.takeWhile fun c => !isBlank c
          let given := (rest.drop interpreter.length).dropWhile isBlank
          let given := (given.reverse.dropWhile isBlank).reverse
          match ← imageOf [] steps interpreter with
          | .ok (name, before) =>
            let given := if given = [] then [] else [given]
            return .ok (name, before ++ given ++ path :: arguments)
          | .error e => return .error e
        | _ => return .ok ("sh", path :: arguments)
      | _ => return .error .permissionDenied

/-- The first of some paths that can be started, or why none can. -/
def firstImage (arguments : List Text) :
    OsError → List Text → Activity (Except OsError (String × List Text))
  | e, [] => return .error e
  | e, path :: rest => do
    match ← imageOf arguments 4 path with
    | .ok image => return .ok image
    | .error .notFound | .error .notADirectory => firstImage arguments e rest
    | .error e => firstImage arguments e rest

/-- Says that there is no command of a name. -/
def notFound (name : Text) (e : OsError) : Activity Nat := do
  let reason := match e with
    | .notFound | .notADirectory => "not found"
    | e => e.text
  warn (name ++ ofString (": " ++ reason))
  return unknown

/-- Says that a command cannot be run. -/
def cannotRun (name : Text) (e : OsError) : Activity Nat := do
  let _ ← notFound name e
  return if [.notFound, .notADirectory, .linkLoop, .nameTooLong].contains e then unknown
    else unusable

/-- Runs a program in the place of the shell. There is a status only if it cannot be run. -/
def replaceBy (runner : Runner) (name : Text) (arguments : List Text) : Activity Nat := do
  let paths ←
    if name.contains '/' then pure [name]
    else do pure ((← Builtin.searchPath).map fun directory =>
      if directory = [] then name else directory ++ '/' :: name)
  match ← firstImage arguments .notFound paths with
  | .error e => cannotRun name e
  | .ok (image, arguments) =>
    match program? find? runner image with
    | none => cannotRun name .permissionDenied
    | some utility =>
      let environment ← environment
      call .replace
      modifyScope (Scope.forProgram name environment)
      let status ← tryCatch (utility arguments) fun
        | .exited status | .failed status | .returned status => return status
        | .leaving .. => return success
      throw (.exited status)

/-- Runs a program in a process of its own, or in the place of the shell. -/
def runProgram (runner : Runner) (isLast : Bool) (name : Text) (arguments : List Text) :
    Activity Nat := do
  if isLast ∧ !(← scope).hasTraps then
    throw (.exited (← replaceBy find? runner name arguments))
  else
    let child ← fork (asChild (replaceBy find? runner name arguments))
    await child

/-! ### Commands of the shell -/

/-- What a name stands for as a command, in words. -/
def describe (name : Text) : Activity (Option (Text × Text)) := do
  let text := String.ofList name
  if Token.keywords.contains text then
    return some (name, ofString " is a shell keyword")
  else if let some meaning := (← scope).aliases.lookup name then
    return some (ofString "alias " ++ name ++ '=' :: Builtin.inQuotes meaning,
      ofString " is an alias for " ++ meaning)
  else if specialCommands.contains text then
    return some (name, ofString " is a special shell builtin")
  else if ((← scope).functions.lookup name).isSome then
    return some (name, ofString " is a shell function")
  else if Builtin.isBuiltin name then
    return some (name, ofString " is a shell builtin")
  else
    match ← Builtin.programPath? name with
    | some path => return some (path, ofString " is " ++ path)
    | none => return none

/-- Says in words what names stand for. -/
def type_ (names : List Text) : Activity Nat := do
  let mut status := success
  for name in names do
    match ← describe name with
    | some (_, words) => status := max status (← print (name ++ words ++ ['\n']))
    | none =>
      let _ ← print (name ++ ofString ": not found\n")
      status := unknown
  return status

/-- Says what a name stands for. -/
def which (name : Text) : Activity Nat := do
  match ← describe name with
  | some (path, _) => print (path ++ ['\n'])
  | none => return unknown

/-- Looks commands up. -/
def hash (names : List Text) : Activity Nat := do
  let (_, names) ← Builtin.letters ['r', 'v'] names
  let mut status := success
  for name in names do
    if (← describe name).isNone then
      warn (name ++ ofString ": not found")
      status := failed
  return status

/-- Runs the script in a file. -/
def source (runner : Runner) (words : List Text) : Activity Nat := do
  match words with
  | [] => return success
  | name :: _ =>
    let path ←
      if name.contains '/' then pure name
      else
        let paths := (← Builtin.searchPath).map fun directory =>
          if directory = [] then name else directory ++ '/' :: name
        let found ← paths.filterM fun path => do
          match ← call (.status (toPath path) true) with
          | .ok ⟨.file .., _, _⟩ => return true
          | _ => return false
        match found with
        | path :: _ => pure path
        | [] => fail (name ++ ofString ": not found")
    let descriptor ← Redirect.openPath path .input
    let text ← takeRest descriptor
    close descriptor
    let line := (← scope).line
    modifyScope fun s => { s with line := 1 }
    let status ← tryCatch (asCommand path (runText runner text)) fun
      | .returned status => return status
      | stop => throw stop
    modifyScope fun s => { s with line := line }
    return status

/-- Runs a function. -/
def callFunction (runner : Runner) (isTested : Bool) (f : Function) (arguments : List Text) :
    Activity Nat := do
  let before ← scope
  modifyScope fun s => { s with
    parameters := arguments
    hidden := [] :: s.hidden
    loops := 0
    functionLine := some f.line
    cursor := ⟨1, 0⟩ }
  let body := tryCatch (runner false isTested f.body) fun
    | .returned status => return status
    | stop => throw stop
  andThen body do
    for (name, old) in (← scope).hidden.headD [] do
      if name = ['-'] then
        modifyScope fun s => { s with options := (old.bind Variable.value).getD [] }
      else setVariable name old
    modifyScope fun s => { s with
      parameters := before.parameters
      hidden := s.hidden.tail
      loops := before.loops
      functionLine := before.functionLine
      cursor := before.cursor }

/-- Runs a built-in command. A fault in it ends the shell only if the command is special. -/
def runBuiltin (isSpecial : Bool) (name : Text) (activity : Activity Nat) : Activity Nat :=
  tryCatch (asCommand name activity) fun
    | .failed status => if isSpecial then throw (.failed status) else return status
    | stop => throw stop

/-! ### Simple commands -/

/-- What a command in parentheses writes. -/
def capture (runner : Runner) (body : Command) : Activity Text := do
  match body with
  | .skip => return []
  | body =>
    let (reader, writer) : Nat × Nat ← call .pipe
    let child ← fork <| asSubshell runner do
      close reader
      move writer 1
      runner true false body
    close writer
    let text ← takeRest reader
    close reader
    let status ← await child
    modifyScope fun s => { s with takenStatus := status }
    return text.filter (· != '\x00')

/-- Expands words. From the second one on those that are assignments stay whole if the command sets
variables. -/
def expandWords (substitute : Command → Activity Text) :
    List Text → List Word → Activity (List Text)
  | before, [] => return before
  | before, word :: rest => do
    let sets := (before.dropWhile (· == "command".toList)).head?.any fun name =>
      ["export", "readonly", "local"].contains (String.ofList name)
    match sets, Word.assignment? word with
    | true, some (name, value) =>
      let value ← Expansion.value substitute value
      expandWords substitute (before ++ [name ++ '=' :: value]) rest
    | _, _ =>
      let found ← Expansion.fields substitute word
      expandWords substitute (before ++ found) rest

/-- Sets variables to what words stand for. -/
def assignWords (substitute : Command → Activity Text) (exports : Bool) :
    List (Text × Word) → Activity (List Text)
  | [] => return []
  | (name, word) :: rest => do
    let value ← Expansion.value substitute word
    assign name value
    if exports then setVariable name (some { ← variableOf name with exported := true })
    return (name ++ '=' :: value) :: (← assignWords substitute exports rest)

/-- Shows a command before it runs, if that is asked for. -/
def trace (words : List Text) : Activity Unit := do
  if ← hasOption 'x' then
    let sign := (← valueOf "PS4".toList).getD []
    let _ ← write 2 (sign ++ [' '].intercalate words ++ ['\n'])

/-- What a command is about to be run as. -/
structure Call where
  words : List Text
  /-- Whether functions count. -/
  seesFunctions : Bool
  /-- Whether what is special about a command counts. -/
  isSpecial : Bool
  /-- Whether only what it stands for is asked, and whether in words. -/
  describes : Option Bool

/-- Takes words that only say how a command is to be run off the words of a command. -/
def Call.ofWords : Nat → List Text → Bool → Call
  | 0, words, first => ⟨words, first, first, none⟩
  | steps + 1, words, first =>
    let whole : Call := ⟨words, first, first, none⟩
    match words with
    | name :: rest =>
      if name ≠ "command".toList then whole
      else
        match rest with
        | ['-', '-'] :: rest => ofWords steps rest false
        | ('-' :: c :: letters) :: rest =>
          let letters := c :: letters
          if !letters.all ['p', 'v', 'V'].contains then whole
          else if letters.contains 'V' then ⟨rest, false, false, some true⟩
          else if letters.contains 'v' then ⟨rest, false, false, some false⟩
          else ofWords steps rest false
        | rest => ofWords steps rest false
    | [] => whole

/-- Runs a command with its arguments. -/
def invoke (runner : Runner) (isLast isTested : Bool) (c : Call) : Activity Nat := do
  match c.describes, c.words with
  | some _, [] => return success
  | some true, name :: _ => type_ [name]
  | some false, name :: _ => which name
  | none, [] => return success
  | none, name :: arguments =>
    let text := String.ofList name
    let isSpecial := c.isSpecial && specialCommands.contains text
    let functions := (← scope).functions
    let function? := if c.seesFunctions && !specialCommands.contains text
      then functions.lookup name else none
    match function?, Builtin.table.lookup text, text with
    | some f, _, _ => callFunction runner isTested f arguments
    | none, some builtin, _ => runBuiltin isSpecial name (builtin arguments)
    | none, none, "eval" =>
      runBuiltin isSpecial name (runText runner ([' '].intercalate arguments))
    | none, none, "." => runBuiltin isSpecial name (source runner arguments)
    | none, none, "type" => runBuiltin false name (type_ arguments)
    | none, none, "hash" => runBuiltin false name (hash arguments)
    | none, none, "command" => runBuiltin false name do
      let _ ← Builtin.letters ['p', 'v', 'V'] arguments
      return success
    | none, none, "exec" =>
      match arguments with
      | [] => return success
      | program :: arguments =>
        throw (.exited (← asCommand name (replaceBy find? runner program arguments)))
    | none, none, _ =>
      if name.contains '/' then runProgram find? runner isLast name arguments
      else
        match ← Builtin.findProgram name with
        | .ok _ => runProgram find? runner isLast name arguments
        | .error e => notFound name e

/-- Puts back what variables were. -/
def putBackVariables (before : List (Text × Option Variable)) : Activity Unit := do
  for (name, old) in before do
    setVariable name old

/-- Runs a simple command. Without words its assignments last, and so they do with a special
command; otherwise they end with the command. -/
def runSimple (runner : Runner) (isLast isTested : Bool) (line : Nat)
    (assignments : List (Text × Word)) (words : List Word) (redirects : List Redirect) :
    Activity Nat := do
  call .pause
  let substitute := capture runner
  modifyScope fun s => { s with line := line, takenStatus := success }
  let fields ← expandWords substitute [] words
  let found := Call.ofWords fields.length fields true
  let destinations ← Redirect.destinations substitute redirects
  let name := String.ofList (found.words.headD [])
  let isSpecial := found.isSpecial && specialCommands.contains name
  let refuse (stop : Stop) : Activity Nat :=
    match stop with
    | .failed status => if isSpecial then throw stop else return status
    | stop => throw stop
  if fields = [] then
    Redirect.during destinations refuse do
      let shown ← assignWords substitute false assignments
      if shown ≠ [] then trace shown
      return (← scope).takenStatus
  else if name = "exec" ∧ found.describes.isNone then
    let (_, fault) ← Redirect.applyAll false [] destinations
    match fault with
    | some stop => refuse stop
    | none =>
      let shown ← assignWords substitute (1 < found.words.length) assignments
      trace (shown ++ fields)
      invoke find? runner isLast isTested found
  else
    Redirect.during destinations refuse do
      let s ← scope
      let before := if isSpecial then [] else
        (assignments.map (·.1)).reverse.map fun name => (name, s.bindings.lookup name)
      let work : Activity Nat := do
        let shown ← assignWords substitute (!isSpecial) assignments
        trace (shown ++ fields)
        invoke find? runner (isLast && redirects.isEmpty) isTested found
      if before = [] then work else andThen work (putBackVariables before)

/-! ### Compound commands -/

/-- Runs a part of a loop. The answer says whether the loop goes on, and whether the part was left
before its end. -/
def inLoop (part : Activity Nat) : Activity (Nat × Bool × Bool) :=
  tryCatch (do return (← part, true, false)) fun
    | .leaving (loops + 2) again => throw (.leaving (loops + 1) again)
    | .leaving _ again => return (success, again, true)
    | stop => throw stop

/-- Runs a body at most so many times, as long as a condition succeeds or fails. -/
def repeatWhile (while_ : Bool) (condition body : Activity Nat) : Nat → Nat → Activity Nat
  | 0, last => return last
  | times + 1, last => do
    call .pause
    let (status, goesOn, left) ← inLoop condition
    if !goesOn then return last
    else if left then repeatWhile while_ condition body times last
    else if (status == success) != while_ then return last
    else
      let (last, goesOn, _) ← inLoop body
      if goesOn then repeatWhile while_ condition body times last else return last

/-- Runs a body for each of the values of a variable. -/
def forEach (name : Text) (body : Activity Nat) : Nat → List Text → Activity Nat
  | last, [] => return last
  | _, value :: rest => do
    assign name value
    let (last, goesOn, _) ← inLoop body
    if goesOn then forEach name body last rest else return last

/-- Does something inside one more loop. -/
def withLoop (activity : Activity Nat) : Activity Nat := do
  let loops := (← scope).loops
  modifyScope fun s => { s with loops := loops + 1 }
  andThen activity (modifyScope fun s => { s with loops := loops })

/-- Starts the commands of a pipeline, each with what the one before it writes as its input. -/
def startStages (runner : Runner) (inBackground : Bool) (first : Bool) (input : Option Nat) :
    List Command → Activity (List Nat)
  | [] => return []
  | stage :: rest => do
    let output : Option (Nat × Nat) ← if rest.isEmpty then pure none else do
      let ends : Nat × Nat ← call .pipe
      pure (some ends)
    let child ← fork <| asSubshell runner do
      match input with
      | some reader => move reader 0
      | none =>
        if inBackground && first then
          close 0
          let _ ← call (.openFile "/dev/null" .read)
      match output with
      | some (reader, writer) =>
        close reader
        move writer 1
      | none => pure ()
      runner true false stage
    match input with
    | some reader => close reader
    | none => pure ()
    match output with
    | some (_, writer) => close writer
    | none => pure ()
    return child :: (← startStages runner inBackground false (output.map (·.1)) rest)

/-- Waits for children, and gives the status of the last one. -/
def awaitAll : Nat → List Nat → Activity Nat
  | last, [] => return last
  | _, child :: rest => do awaitAll (← await child) rest

/-- Runs commands in the background. -/
def inBackground (runner : Runner) (stages : List Command) : Activity Nat := do
  let children ← startStages runner true true none stages
  let number ← makeRoom
  modifyScope fun s => { s with
    background := children.getLast?
    jobs := ⟨number, children, [], false⟩ :: s.jobs }
  return success

/-- Runs a command in a shell of its own. -/
def runSubshell (runner : Runner) (isLast isTested : Bool) (body : Command)
    (redirects : List Redirect) : Activity Nat := do
  let destinations ← Redirect.destinations (capture runner) redirects
  let work (isTested : Bool) : Activity Nat := do
    let (_, fault) ← Redirect.applyAll false [] destinations
    match fault with
    | some stop => throw stop
    | none => runner true isTested body
  if isLast ∧ !(← scope).hasTraps then throw (.exited (← work isTested))
  else
    let child ← fork (asSubshell runner (work isTested))
    await child

/-- Runs the body of the first case of which a pattern stands for a text. -/
def runCases (runner : Runner) (isLast isTested : Bool) (subject : Text) :
    List (List Word × Command) → Activity Nat
  | [] => return success
  | (patterns, body) :: rest => do
    let found ← patterns.anyM fun word => do
      return (← Expansion.pattern (capture runner) word).holds subject
    if !found then runCases runner isLast isTested subject rest
    else
      match body with
      | .skip => return success
      | body => runner isLast isTested body

/-- Ends the shell if a command fails whose status nobody looks at, and that is asked for. -/
def endOnFailure (isTested : Bool) (status : Nat) : Activity Unit := do
  if status ≠ success ∧ !isTested then
    if ← hasOption 'e' then throw (.exited status)

/-- Whether the failure of a command can end the shell. -/
def Command.isChecked : Command → Bool
  | .simple .. | .pipeline _ | .subshell .. => true
  | _ => false

/-- Runs a command, going down at most so many steps. -/
def run : Nat → Runner
  | 0, _, _, _ => return failed
  | steps + 1, isLast, isTested, command => do
    if ← hasOption 'n' then return success
    let runner := run steps
    let substitute := capture runner
    let status ← match command with
      | .skip => do pure (← scope).status
      | .simple line assignments words redirects =>
        runSimple find? runner isLast isTested line assignments words redirects
      | .redirected body redirects => do
        let destinations ← Redirect.destinations substitute redirects
        Redirect.during destinations
          (fun
            | .failed status => return status
            | stop => throw stop)
          (runner false isTested body)
      | .pipeline stages => do
        awaitAll success (← startStages runner false true none stages)
      | .negate body => do
        pure (if (← runner false true body) = success then failed else success)
      | .both left right => do
        let status ← runner false true left
        if status = success then runner isLast isTested right else pure status
      | .either left right => do
        let status ← runner false true left
        if status = success then pure status else runner isLast isTested right
      | .sequence left right => do
        let _ ← runner false isTested left
        runner isLast isTested right
      | .background (.pipeline stages) => inBackground runner stages
      | .background body => inBackground runner [body]
      | .subshell body redirects => runSubshell runner isLast isTested body redirects
      | .choice condition yes no => do
        if (← runner false true condition) = success then runner isLast isTested yes
        else match no with
          | some no => runner isLast isTested no
          | none => pure success
      | .loop while_ condition body =>
        withLoop (repeatWhile while_ (runner false true condition) (runner false isTested body)
          unlimited success)
      | .each line name words body => do
        modifyScope fun s => { s with line := line }
        let values ← match words with
          | some words => do pure (← words.mapM (Expansion.fields substitute)).flatten
          | none => do pure (← scope).parameters
        withLoop (forEach name (runner false isTested body) success values)
      | .select line word cases => do
        modifyScope fun s => { s with line := line }
        let subject ← Expansion.text substitute word
        runCases runner isLast isTested subject cases
      | .function line name body => do
        modifyScope fun s => { s with
          functions := (name, ⟨line, body⟩) :: s.functions.filter fun (other, _) => other != name }
        pure success
    modifyScope fun s => { s with status := status }
    react runner
    if command.isChecked then endOnFailure isTested status
    return status

/-- Runs commands. -/
def runner : Runner := run find? 1000000000

end LspSession.Shell
