import LspSession.CommandLine
import LspSession.Handshake.Converse
import LspSession.Host.Computer
import LspSession.Log.Config
import LspSession.Log.Filter
import LspSession.Log.Line

/-!
# `LspSession.Handshake.Program`: the handshake program

The program sets up its log, finds the workspace root, starts the server in it, holds the
conversation, closes the server's input and waits for the server to end. It does these things in
this order and stops at the first that fails. Whatever the server's end is like, a finished
conversation is a success.

A run is a function of the program's arguments and of its surroundings: the computer, the directory
and the environment it runs in, and its own process id.
-/

set_option autoImplicit false

namespace LspSession

/-- Where the program runs: the computer, the directory it was started in, its environment, and its
own process id. -/
structure Surroundings where
  computer : Computer
  directory : Place
  environment : List (String × String)
  /-- The process id of the program. -/
  ownId : Nat

/-- Why the program fails. Without a log it does not even try the handshake. -/
inductive ProgramError where
  | logging (error : OsError)
  | handshake (error : HandshakeError)
  deriving DecidableEq

/-- The line with which the program ends that fails. A failed handshake is shown by
`HandshakeError.outline`. -/
def ProgramError.line : ProgramError → String
  | .logging e => "Failed to initialize logging: " ++ e.message
  | .handshake e => "Error: " ++ e.outline

/-- What a run leaves behind, on the computer and for whoever started the program. -/
structure Outcome where
  error : Option ProgramError
  /-- The log records that were kept. -/
  records : List Log.Record
  /-- Where they were written, if not to the standard error. -/
  logFile : Option Place
  /-- Whether they were written as documents. -/
  asDocuments : Bool
  /-- What the server wrote to the standard error. -/
  serverErrors : Bytes
  /-- The files after the run. -/
  tree : FileTree

namespace Outcome

/-- The exit code of the program: one if it has an `error`, whatever the reason, and zero otherwise.
-/
def exitCode (o : Outcome) : Nat := if o.error.isSome then 1 else 0

/-- The lines of the log, each by `Record.line` in the format that the configuration asks for. -/
def logLines (o : Outcome) : List String := o.records.map fun r => r.line o.asDocuments

/-- The `ProgramError.line` with which a program ends that fails. One that succeeds ends without a
word. -/
def lastLine? (o : Outcome) : Option String := o.error.map ProgramError.line

end Outcome

namespace Handshake

open Log

/-- The file address of a directory: the path behind `file://`, just as it is. Characters that an
address may not hold are not escaped. -/
def rootUri (path : String) : String := "file://" ++ path

/-- The address (`rootUri`) of the workspace root that a path leads to. The path is made absolute
and free of links first, so there has to be something at it. -/
def resolveRoot (s : Surroundings) (path : Option String) :
    Except HandshakeError (Option String) :=
  match path with
  | none => .ok none
  | some path =>
    match s.computer.tree.canonicalize s.directory path with
    | .ok absolute => .ok (some (rootUri absolute))
    | .error e => .error (.root e)

/-- Starts the server in the workspace root. The first word is its command and the others are its
arguments. -/
def startServer (s : Surroundings) (root : Option String) (server : List String) :
    Except HandshakeError Process :=
  let command := server.headD ""
  let launch : Launch := ⟨command, server.tail, s.environment⟩
  (s.computer.start s.directory root launch).mapError (.start command)

/-- How the log shows the process id of the server. -/
def shownId (s : Surroundings) : String :=
  "PID Some(" ++ Decimal.render s.computer.nextId ++ ")"

/-- The record of the server's start, the first that a handshake writes. -/
def startRecord (s : Surroundings) (command : String) : Record :=
  .plain .info .process ("Started language server '" ++ command ++ "' (" ++ shownId s ++ ")")

/-- Waits for the server to end, and kills it (`Signal.kill`) if it does not within the limit. -/
def awaitEnd (limit : Nat) (command : String) (server : Process) :
    ExitStatus × List Record × Process :=
  match (server.within limit).wait with
  | (some status, server) =>
    (status, [.plain .info .process
      ("Language server '" ++ command ++ "' exited: " ++ status.display)], server)
  | (none, server) =>
    (.signaled Signal.kill, [.plain .warn .process
      ("Language server '" ++ command ++ "' did not exit within " ++ Duration.render limit ++
        ", killing it")], server)

/-- What `converse` with a started server leaves behind: what it logged, the server, and an error if
there was one. A server that is left because of an error is killed at once. -/
def withServer (s : Surroundings) (args : Arguments) (root : Option String) (server : Process) :
    List Record × Process × Option HandshakeError :=
  let command := args.server.headD ""
  -- Limits are given in seconds and kept in nanoseconds.
  let limit := args.timeoutSecs * 1000000000
  let options : InitializeOptions := ⟨some (UInt32.ofNat s.ownId), root, args.trace⟩
  let (p, result) := converse options limit
    ((Pump.new Client.new server).log [startRecord s command])
  match result with
  | .error e => (p.journal.toList, p.transport.abandon, some e)
  | .ok () =>
    let (status, ended, server) := awaitEnd limit command p.transport.closePipes
    (p.journal.toList ++
      [.plain .info .program
        ("Session " ++ p.client.state.name ++ " for server " ++ shownId s)] ++ ended ++
      [.plain .info .program ("Handshake complete (pending " ++
        Decimal.render p.client.pendingCount ++ ", server " ++ status.display ++ ")")],
      server, none)

/-- Finds the root, starts the server and works with it (`withServer`). The answer holds what was
logged, what the server wrote to the standard error, the files after it, and an error if there was
one. -/
def perform (s : Surroundings) (args : Arguments) :
    List Record × Bytes × FileTree × Option HandshakeError :=
  let early (e : HandshakeError) : List Record × Bytes × FileTree × Option HandshakeError :=
    ([], [], s.computer.tree, some e)
  match resolveRoot s args.root with
  | .error e => early e
  | .ok root =>
    match startServer s args.root args.server with
    | .error e => early e
    | .ok server =>
      let (records, server, error) := withServer s args root server
      let server := server.settle
      (records, server.errors, server.system.tree, error)

/-- The `Log.Config` of the environment and the arguments. The arguments win. -/
def logConfig (s : Surroundings) (args : Arguments) : Log.Config :=
  let config := Log.Config.ofVariables (fun name => s.environment.lookup name) s.ownId
  config.withOverrides args.logLevel args.logFile

/-- Opens a log file. A file that stands for the standard error is the standard error, and of the
program's other descriptors only the standard ones can be opened. -/
def openLogAt (tree : FileTree) (directory : Place) (path : String) :
    Except OsError (FileTree × Option Place) := do
  let (tree, place) ← tree.locateToWrite directory path
  match tree.node? place with
  | some (.device (.descriptor number)) =>
    if number < 2 then return (tree, some place)
    else if number = 2 then return (tree, none)
    else .error .noDevice
  | some (.device .terminal) => .error .noDevice
  | _ => return (tree, some place)

/-- Opens the log file by `openLogAt`, if there is to be one. Opening it may make a new file. -/
def openLog (s : Surroundings) (config : Log.Config) :
    Except OsError (FileTree × Option Place) :=
  match config.filePath with
  | none => .ok (s.computer.tree, none)
  | some path => openLogAt s.computer.tree s.directory path

/-- Runs the program. Records are filtered by `Filter.keeps` at the end, which keeps the same ones
as filtering each when it is written. -/
def run (s : Surroundings) (args : Arguments) : Outcome :=
  let config := logConfig s args
  match openLog s config with
  | .error e =>
    { error := some (.logging e), records := [], logFile := none, asDocuments := config.jsonFormat,
      serverErrors := [], tree := s.computer.tree }
  | .ok (tree, place) =>
    let s := { s with computer := { s.computer with tree := tree } }
    let (records, serverErrors, tree, error) := perform s args
    { error := error.map .handshake
      records := records.filter (Filter.ofText config.level).keeps
      logFile := place
      asDocuments := config.jsonFormat
      serverErrors := serverErrors
      tree := tree }

end Handshake

end LspSession
