import LspSession.Host.FileTree
import LspSession.Host.Signal

/-!
# `LspSession.Host.Program`: what a process does

A process works on its own and from time to time asks the system for something: bytes from a
descriptor, a file, a pipe, another process. `SystemCall` lists what can be asked for, and
`SystemCall.Answer` what comes back. A `Program` is everything that a process will do from some
point on: it has ended, or it makes a call and what it does then depends on the answer. A process
that splits in two goes on as two programs.
-/

set_option autoImplicit false

namespace LspSession

/-- How a process ended. -/
inductive ExitStatus where
  | exited (code : Nat)
  | signaled (signal : Nat)
  deriving DecidableEq, Repr

namespace ExitStatus

/-- The words for how a process ended. -/
def display : ExitStatus → String
  | .exited code => "exit status: " ++ Decimal.render code
  | .signaled signal =>
    "signal: " ++ Decimal.render signal ++
      match Signal.table.lookup signal with
      | some name => " (SIG" ++ name ++ ")"
      | none => ""

end ExitStatus

/-- How a file is opened. -/
inductive OpenMode where
  | read
  /-- To write, from the start of an empty file. -/
  | write
  /-- To write at the end. -/
  | append
  /-- To read and write, from the start. -/
  | update
  deriving DecidableEq, Repr

/-- What the system tells about a file. -/
structure FileStatus where
  node : Node
  place : Place
  /-- Whether it is a pipe, whatever the node is. -/
  isPipe : Bool

/-- What a process does about a signal. -/
inductive Disposition where
  /-- What the signal does unless something else is said. -/
  | usual
  | ignored
  /-- The process takes note of it. -/
  | noted
  deriving DecidableEq, Repr

/-- What a process asks the system for. -/
inductive SystemCall where
  /-- At most so many bytes, and none at the end. -/
  | read (descriptor count : Nat)
  | write (descriptor : Nat) (bytes : Bytes)
  /-- A new descriptor for a file. -/
  | openFile (path : String) (mode : OpenMode)
  /-- A new descriptor that reads as certain bytes. -/
  | openText (bytes : Bytes)
  | close (descriptor : Nat)
  /-- Lets a descriptor refer to what another one refers to. -/
  | duplicate (descriptor target : Nat)
  /-- A new descriptor, out of the way, for what one refers to. -/
  | keep (descriptor : Nat)
  /-- Two new descriptors, to read from a pipe and to write to it. -/
  | pipe
  /-- Waits for a child, or for any, to end, or else for a signal to be noted if that is asked
  for. -/
  | wait (child : Option Nat) (untilSignal : Bool)
  /-- As `wait`, but does not wait. -/
  | poll (child : Option Nat)
  | signal (process signal : Nat)
  | dispose (signal : Nat) (disposition : Disposition)
  /-- The signals that were noted. -/
  | notes
  | sleep (nanoseconds : Nat)
  /-- Nothing, but time passes. -/
  | pause
  | clock
  /-- The id of the process and of its parent. -/
  | identity
  | directory
  | enter (path : String)
  | status (path : String) (followLast : Bool)
  | statusOf (descriptor : Nat)
  | list (path : String)
  | make (path : String) (node : Node)
  | remove (path : String)
  | removeDirectory (path : String)
  | rename (path target : String)
  | setNode (path : String) (node : Node)
  | canonicalize (path : String)
  /-- Takes up another program: descriptors that are out of the way are closed, and signals that
  were noted do what they usually do. -/
  | replace
  deriving DecidableEq, Repr

/-- What a wait for a child comes to. -/
inductive Waited where
  | ended (child : Nat) (status : ExitStatus)
  /-- There is no such child. -/
  | noChild
  /-- A signal was noted before. -/
  | interrupted
  /-- No child has ended yet. -/
  | running
  deriving DecidableEq, Repr

namespace SystemCall

/-- What comes back from the system. -/
def Answer : SystemCall → Type
  | .read .. => Except OsError Bytes
  | .write .. | .close _ | .duplicate .. | .signal .. | .enter _ | .make .. | .remove _
  | .removeDirectory _ | .rename .. | .setNode .. => Except OsError Unit
  | .openFile .. | .keep _ => Except OsError Nat
  | .openText _ | .clock => Nat
  | .pipe | .identity => Nat × Nat
  | .wait .. | .poll _ => Waited
  | .dispose .. | .sleep _ | .pause | .replace => Unit
  | .notes => List Nat
  | .directory => Place
  | .status .. | .statusOf _ => Except OsError FileStatus
  | .list _ => Except OsError (List String)
  | .canonicalize _ => Except OsError String

end SystemCall

/-- What a process does from some point on. -/
inductive Program where
  | ended (status : ExitStatus)
  | call (call : SystemCall) (next : call.Answer → Program)
  /-- Splits in two. The process goes on knowing the id of the other. -/
  | fork (child : Program) (next : Nat → Program)

instance : Inhabited Program := ⟨.ended (.exited 0)⟩

end LspSession
