import LspSession.Client.Command

/-!
# `LspSession.CommandLine`: the arguments of the handshake program

Options come first, each with a value that follows it or is attached with an equals sign. The first
argument that is no option starts the command of the server, which takes every argument from there
on as it is, options of its own included. A double dash in front of the command is dropped.

The value of an option is looked at only when the next thing after it is: an option without a value
is refused then, and so is one whose value would be another known option; after that an option given
twice is refused, and only then a value that is not acceptable. A request for help or for the
version comes after what is still to be looked at, but one with a value attached, which neither
takes, is refused at once. Only at the end of the line a missing command is noticed.
-/

set_option autoImplicit false

namespace LspSession

/-- What the handshake program is asked to do: the command of the `server` with its own arguments,
and the options for everything else. -/
structure Arguments where
  root : Option String
  trace : TraceLevel
  timeoutSecs : Nat
  logLevel : Option String
  logFile : Option String
  server : List String
  deriving DecidableEq, Repr

/-- Why arguments are not accepted, or what they ask for instead of a handshake. -/
inductive UsageError where
  | missingCommand
  | invalidValue
  | badNumber
  | repeatedOption
  | unexpectedValue
  | help
  | version
  deriving DecidableEq, Repr

/-- The exit code of a program that does not accept its arguments, or only has to tell about itself.
-/
def UsageError.exitCode : UsageError → Nat
  | .help | .version => 0
  | _ => 2

/-- What the program prints to the standard output instead of doing its work. -/
def UsageError.output : UsageError → String
  | .version => "lsp-sansio-client 0.1.0\n"
  | _ => ""

namespace CommandLine

/-- The options with values. Those for help and the version have none. -/
inductive OptionName where
  | root
  | trace
  | timeoutSecs
  | logLevel
  | logFile
  deriving DecidableEq, Repr

/-- The spelling of an option. There are no short ones. -/
def OptionName.spelling : OptionName → String
  | .root => "--root"
  | .trace => "--trace"
  | .timeoutSecs => "--timeout-secs"
  | .logLevel => "--log-level"
  | .logFile => "--log-file"

/-- The option with a spelling, which has to be the whole of it. -/
def OptionName.ofSpelling? (spelling : String) : Option OptionName :=
  [root, trace, timeoutSecs, logLevel, logFile].find? fun o => o.spelling == spelling

/-- What an argument is before the command starts. Behind that no argument is looked at. -/
inductive Token where
  /-- The double dash. -/
  | separator
  | help
  | version
  /-- A request for help or the version with a value that it does not take. -/
  | flagWithValue
  | option (name : OptionName) (value : Option String)
  /-- The first word of the command. -/
  | word
  deriving DecidableEq, Repr

/-- What a long option is, with the value attached to it. One that is not known starts the command.
-/
def Token.ofLong (spelling : String) (value : Option String) : Token :=
  match OptionName.ofSpelling? spelling with
  | some name => .option name value
  | none =>
    if spelling == "--help" then if value.isSome then .flagWithValue else .help
    else if spelling == "--version" then if value.isSome then .flagWithValue else .version
    -- An option that is not known starts the command of the server.
    else .word

/-- What a cluster of short options is. Two letters are known, and the first of them counts. -/
def Token.ofCluster (letters : List Char) : Token :=
  match letters with
  | [] => .word
  | first :: _ =>
    if letters.all fun c => c == 'h' || c == 'V' then if first == 'h' then .help else .version
    else .word

/-- What an argument is before the command starts. A value is attached behind the first equals sign
of a long option. -/
def Token.ofArgument (argument : String) : Token :=
  match argument.toList with
  | ['-', '-'] => .separator
  | '-' :: '-' :: _ =>
    let chars := argument.toList
    let spelling := String.ofList (chars.takeWhile (· ≠ '='))
    match chars.dropWhile (· ≠ '=') with
    | [] => ofLong spelling none
    | _ :: value => ofLong spelling (some (String.ofList value))
  | '-' :: letters => ofCluster letters
  | _ => .word

/-- The greatest number of seconds that can be given, the largest machine word of 64 bits. -/
def greatestTimeout : Nat := Nat.pow 2 64 - 1

/-- What is asked for before any argument is read: no root, no tracing, and half a minute for every
step. -/
def initial : Arguments := ⟨none, .off, 30, none, none, []⟩

/-- A value that may not be empty, as a path may not. -/
def nonEmpty (value : String) : Except UsageError String :=
  if value = "" then .error .invalidValue else .ok value

/-- Takes the value of an option, if it is one that the option accepts. -/
def setOption (args : Arguments) (name : OptionName) (value : String) :
    Except UsageError Arguments :=
  match name with
  | .root => (nonEmpty value).map fun v => { args with root := some v }
  | .logFile => (nonEmpty value).map fun v => { args with logFile := some v }
  | .logLevel => .ok { args with logLevel := some value }
  | .trace =>
    match TraceLevel.ofName? value with
    | some t => .ok { args with trace := t }
    | none => .error .invalidValue
  | .timeoutSecs =>
    match Decimal.ofNumeralUpTo? greatestTimeout value.toList with
    | some n => .ok { args with timeoutSecs := n }
    | none => .error .badNumber

/-- Takes the value of an option that must not have been given before. That is looked at before the
value is. -/
def takeOption (args : Arguments) (seen : List OptionName) (name : OptionName) (value : String) :
    Except UsageError Arguments :=
  if seen.contains name then .error .repeatedOption else setOption args name value

/-- Takes the command of the server, which has at least one word. -/
def takeCommand (args : Arguments) (server : List String) : Except UsageError Arguments :=
  if server = [] then .error .missingCommand else .ok { args with server := server }

/-- How far the reading of arguments has got. The value of the last option is not taken before the
next argument is looked at. -/
structure Progress where
  arguments : Arguments
  /-- The options whose values have been taken. -/
  seen : List OptionName
  /-- The option that was named last, with the value that follows it once that has come. -/
  pending : Option (OptionName × Option String)

/-- The progress before any argument, with `initial` for the options. -/
def Progress.start : Progress := ⟨initial, [], none⟩

/-- Takes the value of an option, and remembers that it was given. -/
def Progress.take (p : Progress) (name : OptionName) (value : String) :
    Except UsageError Progress :=
  (takeOption p.arguments p.seen name value).map fun arguments =>
    ⟨arguments, name :: p.seen, none⟩

/-- Takes the value of the option that was named last. Without a value that option is at fault. -/
def Progress.settle (p : Progress) : Except UsageError Progress :=
  match p.pending with
  | none => .ok p
  | some (_, none) => .error .invalidValue
  | some (name, some value) => p.take name value

/-- Reads arguments from some progress on. The recursion is on the arguments that are left. -/
def readFrom (p : Progress) : List String → Except UsageError Arguments
  | [] => do
    let _ ← p.settle
    .error .missingCommand
  | argument :: rest => do
    match Token.ofArgument argument, p.pending with
    -- This is refused before anything that is still to be looked at.
    | .flagWithValue, _ => .error .unexpectedValue
    -- A word behind the name of an option is its value; any other starts the command.
    | .word, some (name, none) => readFrom { p with pending := some (name, some argument) } rest
    | .word, _ => takeCommand (← p.settle).arguments (argument :: rest)
    | .separator, _ => takeCommand (← p.settle).arguments rest
    | .help, _ =>
      let _ ← p.settle
      .error .help
    | .version, _ =>
      let _ ← p.settle
      .error .version
    | .option name (some value), _ => readFrom (← (← p.settle).take name value) rest
    | .option name none, _ => readFrom { ← p.settle with pending := some (name, none) } rest

/-- Reads the arguments after the name of the program. -/
def read (arguments : List String) : Except UsageError Arguments := readFrom .start arguments

end CommandLine

end LspSession
