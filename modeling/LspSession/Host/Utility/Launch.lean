import LspSession.Host.Shell.Arithmetic
import LspSession.Host.Utility.Words

/-!
# `LspSession.Host.Utility.Launch`: programs that start others

These utilities start another program with their own arguments: in another environment, for a
limited time, or once for some of the words that they read. How words are run as a command is
something that they are given.
-/

set_option autoImplicit false

namespace LspSession.Utility

open Shell Shell.Activity

variable (start : List Text → Activity Nat)

/-- What a utility says of a program that it cannot start. -/
def startMessage (utility : String) (name : Text) : String :=
  match utility with
  | "env" | "nice" => quote name
  | "xargs" => toPath name
  | "setsid" => "failed to execute " ++ toPath name
  | _ => "failed to run command " ++ quote name

/-- Starts a program in the place of a utility, which says so if there is no such program. -/
def replaceWith (utility : String) (words : List Text) : Activity Nat := do
  let name := words.headD []
  match ← Builtin.programPath? name with
  | some _ => start words
  | none =>
    let e : OsError ← if !name.contains '/' then pure .notFound else do
      match ← call (.status (toPath name) true) with
      | .ok _ => pure .permissionDenied
      | .error e => pure e
    refuse utility (startMessage utility name ++ ": " ++ e.text)
      (if e = .notFound then unknown else unusable)

/-- Sets variables as the words of a utility say, and gives the words that follow. -/
def changeEnvironment : List Text → Activity (List Text)
  | [] => return []
  | word :: rest => do
    let name := word.takeWhile (· != '=')
    if name.length = word.length ∨ name = [] then return word :: rest
    setVariable name (some ⟨some (word.drop (name.length + 1)), true, false⟩)
    changeEnvironment rest

/-- Starts a program in another environment, or writes the environment. -/
def env (words : List Text) : Activity Nat := do
  let path ← valueOf "PATH".toList
  let words := if words.head? = some ['-'] then "-i".toList :: words.tail else words
  match OptionTable.read ⟨['i', '0', 'v'], ['u', 'C', 'S'],
      [("ignore-environment", 'i'), ("unset", 'u'), ("null", '0'), ("chdir", 'C')]⟩ false
      (words.length + 1) words with
  | .error message =>
    refuseWithHelp "env" message 125
  | .ok o =>
    if o.has 'i' then modifyScope fun s => { s with bindings := [] }
    (o.values 'u').forM fun name => setVariable name none
    match ← changeEnvironment (o.values 'S' ++ o.operands) with
    | [] =>
      let line := if o.has '0' then ['\x00'] else ['\n']
      let all := (← environment).reverse
      printing "env" (all.flatMap fun (name, value) => name ++ '=' :: value ++ line) success
    | rest =>
      if (← valueOf "PATH".toList).isNone then
        setVariable "PATH".toList (path.map fun path => ⟨some path, false, false⟩)
      match o.value? 'C' with
      | none => replaceWith start "env" rest
      | some directory =>
        match ← call (.enter (toPath directory)) with
        | .ok _ => replaceWith start "env" rest
        | .error e =>
          refuse "env" ("cannot change directory to " ++ quote directory ++ ": " ++ e.text) 125

/-- Starts a program that lives like its starter. -/
def simply (utility : String) (skipped : Nat → List Text → List Text) (words : List Text) :
    Activity Nat := do
  match skipped words.length words with
  | [] =>
    if utility = "nice" then return ← print ['0', '\n']
    let _ ← refuse utility "missing operand" 125
    complain (ofString ("Try '" ++ utility ++ " --help' for more information.")) 125
  | rest => replaceWith start utility rest

/-- The words behind options with a dash, some of which take the next word, at most so many. -/
def behindOptions (valued : List Char) : Nat → List Text → List Text
  | 0, words => words
  | steps + 1, words =>
    match words with
    | ['-', '-'] :: rest => rest
    | ['-', c] :: rest =>
      behindOptions valued steps (if valued.contains c then rest.tail else rest)
    | ('-' :: _) :: rest => behindOptions valued steps rest
    | words => words

/-- How a program is limited: the signal that ends it, and after how long it is killed. -/
structure TimeLimit where
  signal : Nat
  killAfter : Option Nat
  /-- Whether the status of the program counts anyway. -/
  keepsStatus : Bool

/-- Reads the options of a time limit, at most so many. -/
def TimeLimit.ofWords : Nat → TimeLimit → List Text → TimeLimit × List Text
  | 0, limit, words => (limit, words)
  | steps + 1, limit, words =>
    match words with
    | ['-', 's'] :: name :: rest =>
      ofWords steps { limit with signal := (Builtin.anySignal? name).getD limit.signal } rest
    | ['-', 'k'] :: span :: rest => ofWords steps { limit with killAfter := span? span } rest
    | ['-', '-'] :: rest => (limit, rest)
    | ('-' :: '-' :: option) :: rest =>
      let name := option.takeWhile (· != '=')
      let value := option.drop (name.length + 1)
      match String.ofList name with
      | "signal" =>
        ofWords steps { limit with signal := (Builtin.anySignal? value).getD limit.signal } rest
      | "kill-after" => ofWords steps { limit with killAfter := span? value } rest
      | "preserve-status" => ofWords steps { limit with keepsStatus := true } rest
      | _ => ofWords steps limit rest
    | ('-' :: _) :: rest => ofWords steps limit rest
    | words => (limit, words)

/-- Ends by a signal. -/
def endBy (signal : Nat) : Activity Nat := do
  let (id, _) ← call .identity
  let _ ← call (.signal id signal)
  return 128 + signal

/-- Runs a program for a limited time. -/
def timeout (words : List Text) : Activity Nat := do
  let (limit, rest) := TimeLimit.ofWords words.length ⟨Signal.terminate, none, false⟩ words
  match rest with
  | span :: (name :: arguments) =>
    match span? span with
    | none =>
      refuseWithHelp "timeout" ("invalid time interval " ++ quote span) 125
    | some time =>
      let child ← fork (replaceWith start "timeout" (name :: arguments))
      let ticker ← fork do
        call (.sleep (if time = 0 then eternity else time))
        let _ ← call (.signal child limit.signal)
        let _ ← call (.signal child Signal.continue_)
        match limit.killAfter with
        | some more =>
          call (.sleep more)
          let _ ← call (.signal child Signal.kill)
        | none => pure ()
        return success
      let from_ : Nat ← call .clock
      match ← call (.wait (some child) false) with
      | .ended _ status =>
        let until_ : Nat ← call .clock
        let isLate := time ≠ 0 ∧ time ≤ until_ - from_
        let _ ← call (.signal ticker Signal.kill)
        let _ ← call (.wait (some ticker) false)
        match status with
        | .signaled signal =>
          if !isLate ∨ signal = Signal.kill then endBy signal
          else return if limit.keepsStatus then statusOf status else 124
        | .exited code => return if isLate ∧ !limit.keepsStatus then 124 else code
      | _ => return 125
  | _ => complain (ofString "Try 'timeout --help' for more information.") 125

/-! ### Words that are read -/

/-- The quotation mark that is left open at the end of a text, if there is one. -/
def openQuote : Option Char → Text → Option Char
  | mark, [] => mark
  | some mark, c :: rest => openQuote (if c = mark then none else some mark) rest
  | none, '\\' :: _ :: rest => openQuote none rest
  | none, c :: rest => openQuote (if c = '\'' ∨ c = '"' then some c else none) rest

/-- The words of a text, with their quotes taken away. The word before is given in reverse, if one
has been started, and so are the words before it. -/
def wordsFrom (quoteMark : Option Char) (started : Option Text) (found : List Text) :
    Text → List Text
  | [] => (started.map List.reverse).toList ++ found |>.reverse
  | c :: rest =>
    match quoteMark with
    | some mark =>
      if c = mark then wordsFrom none (some (started.getD [])) found rest
      else wordsFrom quoteMark (some (c :: started.getD [])) found rest
    | none =>
      if c = '\'' ∨ c = '"' then wordsFrom (some c) (some (started.getD [])) found rest
      else if c = '\\' then
        match rest with
        | d :: rest => wordsFrom none (some (d :: started.getD [])) found rest
        | [] => wordsFrom none started found []
      else if isBlank c ∨ c = '\n' then
        match started with
        | some word => wordsFrom none none (word.reverse :: found) rest
        | none => wordsFrom none none found rest
      else wordsFrom none (some (c :: started.getD [])) found rest

/-- A text with another one in the place of every mark, in at most so many steps. -/
def replaceAll (mark new : Text) : Nat → Text → Text
  | 0, text => text
  | _ + 1, [] => []
  | steps + 1, c :: rest =>
    if mark.isPrefixOf (c :: rest) then
      new ++ replaceAll mark new steps ((c :: rest).drop mark.length)
    else c :: replaceAll mark new steps rest

/-- Groups of at most so many words. -/
def groupsOf (size : Nat) : Nat → List Text → List (List Text)
  | 0, _ => []
  | steps + 1, words =>
    if words = [] then [] else words.take size :: groupsOf size steps (words.drop size)

/-- Runs commands one after another, and gives the status of all. -/
def runAll (status : Nat) : List (List Text) → Activity Nat
  | [] => return status
  | words :: rest => do
    let child ← fork (replaceWith start "xargs" words)
    match ← call (.wait (some child) false) with
    | .ended _ (.exited 0) => runAll status rest
    | .ended _ (.exited 255) =>
      refuse "xargs" (toPath (words.headD []) ++ ": exited with status 255; aborting") 124
    | .ended _ (.exited 127) => return 127
    | .ended _ (.exited 126) => return 126
    | .ended _ (.exited _) => runAll 123 rest
    | .ended _ (.signaled n) =>
      refuse "xargs" (toPath (words.headD []) ++ ": terminated by signal " ++ Decimal.render n) 125
    | _ => return status

/-- Runs a command with words that are read as its arguments. -/
def xargs (words : List Text) : Activity Nat :=
  match OptionTable.read ⟨['0', 'r', 't', 'x', 'p'], ['n', 'I', 'd', 'L', 'P', 's', 'a', 'E'],
      [("null", '0'), ("no-run-if-empty", 'r'), ("max-args", 'n'), ("delimiter", 'd')]⟩
      false (words.length + 1) words with
  | .error message => refuse "xargs" message failed
  | .ok o => do
    let text ← takeRest 0
    let plain := !(['0', 'd', 'I', 'L'].any o.has)
    match if plain then openQuote none text else none with
    | some mark =>
      let kind := if mark = '"' then "double" else "single"
      return ← refuse "xargs" ("unmatched " ++ kind ++ " quote; by default quotes are special " ++
        "to xargs unless you use the -0 option") failed
    | none => pure ()
    let cut (mark : Char) : List Text :=
      let parts := text.splitOn mark
      if parts.getLast? = some [] then parts.dropLast else parts
    let given :=
      if o.has '0' then cut '\x00'
      else
        match o.value? 'd' with
        | some mark => cut ((unescape true mark).1.headD '\n')
        | none =>
          if o.has 'I' then
            ((linesOf text).map fun line => line.dropWhile isBlank).filter (· ≠ [])
          else if o.has 'L' then linesOf text
          else wordsFrom none none [] text
    let command := if o.operands = [] then [ofString "echo"] else o.operands
    let commands :=
      match o.value? 'I' with
      | some mark => given.map fun word =>
          command.map fun part => replaceAll mark word (part.length + 1) part
      | none =>
        let size := match (o.value? 'n').bind natural?, (o.value? 'L').bind natural? with
          | some n, _ => max 1 n
          | none, some n => max 1 n
          | none, none => max 1 given.length
        let groups := groupsOf size (given.length + 1) given
        let groups := if groups = [] ∧ !o.has 'r' then [[]] else groups
        groups.map (command ++ ·)
    if o.has 't' then
      commands.forM fun words => do
        let _ ← write 2 ([' '].intercalate words ++ ['\n'])
    runAll start success commands

end LspSession.Utility
