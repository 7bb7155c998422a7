import LspSession.Host.Program
import LspSession.Host.Shell.Syntax

/-!
# `LspSession.Host.Shell.State`: what a shell works on

A shell has variables, parameters, functions and options of its own, which make up its `Scope`. All
else it asks the system for. An `Activity` is something that a shell does: given the scope it
becomes a program, and given what is to be done with its result, be it a value or a reason to stop,
it becomes the whole program.

Every command takes a turn of its own, so a shell that does not end keeps nobody else from going on.
-/

set_option autoImplicit false

namespace LspSession.Shell

/-- The characters that stand for bytes. -/
def ofBytes (bytes : Bytes) : Text := bytes.map fun b => Char.ofNat b.toNat

/-- The bytes that characters stand for. -/
def toBytes (text : Text) : Bytes := text.map fun c => UInt8.ofNat c.toNat

/-- The characters that stand for the bytes of a text. -/
def ofString (s : String) : Text := ofBytes (Utf8.encode s)

/-- The text of characters that stand for bytes, as it is given to the system. -/
def toPath (text : Text) : String := (Utf8.decode? (toBytes text)).getD (String.ofList text)

/-- The digits of a number. -/
def ofNat (n : Nat) : Text := Decimal.digits n

/-- The digits of a number with its sign. -/
def ofInt (n : Int) : Text := if n < 0 then '-' :: ofNat n.natAbs else ofNat n.natAbs

/-- A variable. -/
structure Variable where
  /-- There may be none even if something else is known about the variable. -/
  value : Option Text
  exported : Bool
  readOnly : Bool
  deriving DecidableEq, Repr

/-- A function of a shell. -/
structure Function where
  /-- The line where it starts. -/
  line : Nat
  body : Command

/-- Commands that were put into the background together. -/
structure Job where
  number : Nat
  /-- The processes, the last of which the status is that of. -/
  processes : List Nat
  /-- How processes have ended, so far as the shell has seen it. -/
  ended : List (Nat × ExitStatus)
  /-- Whether it has been waited for to its end. -/
  isSettled : Bool
  deriving DecidableEq, Repr

namespace Job

/-- Whether a process belongs to a job and has not been seen to end. -/
def awaits (j : Job) (process : Nat) : Bool :=
  j.processes.contains process && (j.ended.lookup process).isNone

/-- Whether all processes have been seen to end. -/
def isDone (j : Job) : Bool := !j.processes.any j.awaits

/-- The process that stands for the job. -/
def leader (j : Job) : Nat := j.processes.getLast?.getD 0

/-- The way in which the job has ended. -/
def status? (j : Job) : Option ExitStatus := if j.isDone then j.ended.lookup j.leader else none

/-- Takes note of the end of a process. -/
def note (j : Job) (process : Nat) (status : ExitStatus) : Job :=
  if j.awaits process then { j with ended := (process, status) :: j.ended } else j

end Job

/-- How far the options among the parameters have been gone through. -/
structure OptionCursor where
  /-- The number of the next parameter. -/
  index : Nat
  /-- How many letters of it have been used. -/
  used : Nat
  deriving DecidableEq, Repr

/-- What belongs to one shell. -/
structure Scope where
  bindings : List (Text × Variable)
  functions : List (Text × Function)
  /-- The texts that words stand for where a command can start. -/
  aliases : List (Text × Text)
  /-- What the variables of the functions at work hid, innermost first. -/
  hidden : List (List (Text × Option Variable))
  /-- The name that the script goes by. -/
  name : Text
  parameters : List Text
  /-- The letters of the options that are on. -/
  options : List Char
  /-- What is done about signals. Nothing at all is done about one whose reaction is empty. -/
  traps : List (Nat × Text)
  /-- The status of the last command. -/
  status : Nat
  /-- The status that an end without a status of its own gets while a trap is at work. -/
  trapStatus : Option Nat
  /-- The status of the last command whose output was taken. -/
  takenStatus : Nat
  /-- The id of the process that the shell started as. -/
  shellId : Nat
  parentId : Nat
  /-- The process that was last put into the background. -/
  background : Option Nat
  /-- The jobs in the background, the last one first. -/
  jobs : List Job
  /-- The texts that stand in the script. -/
  documents : List (Nat × Word)
  nextDocument : Nat
  /-- The number of loops around. -/
  loops : Nat
  /-- The number of the line. -/
  line : Nat
  /-- The line where the function at work starts. -/
  functionLine : Option Nat
  /-- The command of the shell itself that is at work. -/
  command : Option Text
  cursor : OptionCursor
  /-- The working directory, as the shell has come to it. -/
  directory : Text
  /-- The signals that were noted and not reacted to. -/
  noted : List Nat
  /-- The permissions that new files do not get. -/
  mask : Nat

/-- Why an activity stops before its end. -/
inductive Stop where
  /-- The process ends. -/
  | exited (status : Nat)
  /-- Something is wrong that ends a shell unless it is kept from it. -/
  | failed (status : Nat)
  /-- Leaves so many loops, the last of them to start it again if so said. -/
  | leaving (loops : Nat) (again : Bool)
  /-- Leaves a function or a script in a file. -/
  | returned (status : Nat)
  deriving DecidableEq, Repr

/-- The status of success. -/
def success : Nat := 0

/-- The status of failure. -/
def failed : Nat := 1

/-- The status of a command that is used in a wrong way. -/
def misused : Nat := 2

/-- The status of a command that cannot be run. -/
def unusable : Nat := 126

/-- The status of a command that is not there. -/
def unknown : Nat := 127

/-- The status of a command that ended in a certain way. -/
def statusOf : ExitStatus → Nat
  | .exited code => code
  | .signaled signal => 128 + signal

/-- Something that a shell does. -/
def Activity (α : Type) : Type := Scope → (EStateM.Result Stop Scope α → Program) → Program

namespace Activity

/-- Comes to a value. -/
protected def pure {α : Type} (a : α) : Activity α := fun s next => next (.ok a s)

/-- Does one thing and then another. -/
protected def bind {α β : Type} (first : Activity α) (second : α → Activity β) : Activity β :=
  fun s next => first s fun
    | .ok a s => second a s next
    | .error stop s => next (.error stop s)

instance : Monad Activity where
  pure := Activity.pure
  bind := Activity.bind

instance : MonadStateOf Scope Activity where
  get s next := next (.ok s s)
  set s _ next := next (.ok () s)
  modifyGet f s next := next (.ok (f s).1 (f s).2)

instance : MonadExceptOf Stop Activity where
  throw stop s next := next (.error stop s)
  tryCatch first second s next := first s fun
    | .ok a s => next (.ok a s)
    | .error stop s => second stop s next

instance {α : Type} : Inhabited (Activity α) := ⟨fun _ _ => .ended (.exited success)⟩

/-- Asks the system for something. -/
def call (call : SystemCall) : Activity call.Answer :=
  fun s next => .call call fun answer => next (.ok answer s)

/-- The program of a process that does something and then ends. -/
def program (activity : Activity Nat) (s : Scope) : Program :=
  activity s fun
    | .ok status _ | .error (.exited status) _ | .error (.failed status) _
    | .error (.returned status) _ => .ended (.exited (status % 256))
    | .error (.leaving ..) s => .ended (.exited (s.status % 256))

/-- Lets a process of its own do something. The answer is its id. -/
def fork (activity : Activity Nat) : Activity Nat :=
  fun s next => .fork (activity.program s) fun id => next (.ok id s)

/-- Looks at the shell. -/
def scope : Activity Scope := get

/-- Changes the shell. -/
def modifyScope (f : Scope → Scope) : Activity Unit := modify f

/-- Does something and then, however it stops, changes the shell. -/
def andThen {α : Type} (activity : Activity α) (after : Activity Unit) : Activity α :=
  fun s next => activity s fun
    | .ok a s => after s fun
      | .ok _ s => next (.ok a s)
      | .error stop s => next (.error stop s)
    | .error stop s => after s fun
      | .ok _ s => next (.error stop s)
      | .error stop s => next (.error stop s)

/-! ### Writing -/

/-- Writes to a descriptor. The answer says whether that was possible. -/
def write (descriptor : Nat) (text : Text) : Activity Bool := do
  if text = [] then return true
  match ← call (.write descriptor (toBytes text)) with
  | .ok _ => return true
  | .error _ => return false

/-- Writes to the standard output. -/
def print (text : Text) : Activity Nat := do
  if ← write 1 text then return success else return failed

/-- Writes a line to where errors go. -/
def complain (message : Text) (status : Nat) : Activity Nat := do
  let _ ← write 2 (message ++ ['\n'])
  return status

/-- Says what is wrong, and where. -/
def warn (message : Text) : Activity Unit := do
  let s ← scope
  let place := s.name ++ ofString ": " ++ ofNat s.line ++ ofString ": "
  let command := match s.command with
    | some command => command ++ ofString ": "
    | none => []
  let _ ← write 2 (place ++ command ++ message ++ ['\n'])

/-- Says what is wrong, and stops. -/
def fail {α : Type} (message : Text) : Activity α := do
  warn message
  throw (.failed misused)

/-! ### Reading -/

/-- Takes at most so many characters. There are none at the end, and also if reading fails. -/
def take (descriptor most : Nat) : Activity Text := do
  match ← call (.read descriptor most) with
  | .ok bytes => return ofBytes bytes
  | .error _ => return []

/-- How many characters are read at once. -/
def blockSize : Nat := 65536

/-- Takes all characters up to the end, with at most so many reads. The pieces before are given in
reverse. -/
def takeRestFrom (descriptor : Nat) : Nat → List Text → Activity Text
  | 0, before => return before.reverse.flatten
  | reads + 1, before => do
    match ← take descriptor blockSize with
    | [] => return before.reverse.flatten
    | text => takeRestFrom descriptor reads (text :: before)

/-- A number of times that is not reached. -/
def unlimited : Nat := 1000000000000

/-- Takes all characters up to the end. -/
def takeRest (descriptor : Nat) : Activity Text := takeRestFrom descriptor unlimited []

/-! ### Variables -/

/-- The value of a variable. -/
def valueOf (name : Text) : Activity (Option Text) := do
  return ((← scope).bindings.lookup name).bind Variable.value

/-- Whether an option is on. -/
def hasOption (letter : Char) : Activity Bool := do return (← scope).options.contains letter

/-- Puts a variable in the place of what goes by its name. -/
def setVariable (name : Text) (new : Option Variable) : Activity Unit :=
  modifyScope fun s =>
    let others := s.bindings.filter fun (other, _) => other != name
    { s with bindings := match new with
      | some new => (name, new) :: others
      | none => others }

/-- What goes by a name. -/
def variableOf (name : Text) : Activity Variable := do
  return ((← scope).bindings.lookup name).getD ⟨none, false, false⟩

/-- Sets a variable, if it can be set. -/
def assign (name value : Text) : Activity Unit := do
  let old ← variableOf name
  if old.readOnly then fail (name ++ ofString ": is read only")
  let all ← hasOption 'a'
  setVariable name (some { old with value := some value, exported := old.exported || all })
  if name = "OPTIND".toList then
    modifyScope fun s => { s with
      cursor := ⟨((Decimal.readDigits? 0 value).filter (0 < ·)).getD 1, 0⟩ }

/-- Removes a variable, if it can be removed. -/
def unassign (name : Text) : Activity Unit := do
  let old ← variableOf name
  if old.readOnly then fail (name ++ ofString ": is read only")
  setVariable name none

/-- The characters that separate fields. -/
def separators : Activity Text := do return (← valueOf "IFS".toList).getD [' ', '\t', '\n']

/-- The variables that programs get to see. -/
def environment : Activity (List (Text × Text)) := do
  return (← scope).bindings.filterMap fun (name, v) =>
    if v.exported then v.value.map fun value => (name, value) else none

/-! ### Processes -/

/-- What signals that can end a process mean, in words. -/
def signalMeanings : List (Nat × String) :=
  [(1, "Hangup"), (2, "Interrupt"), (3, "Quit"), (4, "Illegal instruction"),
    (5, "Trace/breakpoint trap"), (6, "Aborted"), (7, "Bus error"), (8, "Floating point exception"),
    (9, "Killed"), (10, "User defined signal 1"), (11, "Segmentation fault"),
    (12, "User defined signal 2"), (13, "Broken pipe"), (14, "Alarm clock"), (15, "Terminated"),
    (16, "Stack fault"), (24, "CPU time limit exceeded"), (25, "File size limit exceeded"),
    (26, "Virtual timer expired"), (27, "Profiling timer expired"), (29, "I/O possible"),
    (30, "Power failure"), (31, "Bad system call")]

/-- What a signal that can end a process means, in words. -/
def signalMeaning (signal : Nat) : String :=
  match signalMeanings.lookup signal with
  | some text => text
  | none =>
    if signal < 34 then "Unknown signal " ++ Decimal.render signal
    else "Real-time signal " ++ Decimal.render (signal - 34)

/-- Says by which signal a process has ended, if that is worth a word. -/
def announceEnd (status : ExitStatus) : Activity Unit := do
  match status with
  | .signaled signal =>
    if signal ≠ 2 ∧ signal ≠ Signal.pipe then
      let _ ← write 2 (ofString (signalMeaning signal ++ "\n"))
  | .exited _ => return ()

/-- Takes note of the end of a process in the background. -/
def noteEnd (process : Nat) (status : ExitStatus) : Activity Unit :=
  modifyScope fun s => { s with jobs := s.jobs.map fun j => j.note process status }

/-- Looks which processes in the background have ended meanwhile. -/
def reap : Activity Unit := do
  for process in (← scope).jobs.flatMap fun j => j.processes.filter j.awaits do
    match ← call (.poll (some process)) with
    | .ended id status => noteEnd id status
    | _ => pure ()

/-- Makes room for another job, whose number is given. A job that is settled can give way. -/
def makeRoom : Activity Nat := do
  let jobs := (← scope).jobs
  let stays (number : Nat) : Bool := jobs.any fun j => j.number == number && !j.isSettled
  let number := ((List.range (jobs.length + 1)).find? fun n => !stays (n + 1)).getD 0 + 1
  modifyScope fun s => { s with jobs := s.jobs.filter fun j => j.number != number }
  return number

/-- Waits for a child to end, and gives its status. -/
def await (child : Nat) : Activity Nat := do
  let _ ← makeRoom
  match ← call (.wait (some child) false) with
  | .ended _ status =>
    announceEnd status
    reap
    return statusOf status
  | _ => return unknown

/-- The shell in a process of its own: only the signals about which nothing is done keep being
treated so. -/
def asChild (activity : Activity Nat) : Activity Nat := do
  for (signal, reaction) in (← scope).traps do
    if reaction ≠ [] ∧ signal ≠ 0 then call (.dispose signal .usual)
  modifyScope fun s => { s with
    traps := s.traps.filter fun (_, reaction) => reaction == []
    jobs := [] }
  activity

/-- Closes a descriptor. -/
def close (descriptor : Nat) : Activity Unit := do
  let _ ← call (.close descriptor)

/-- Lets a descriptor take the place of another one. -/
def move (descriptor target : Nat) : Activity Unit := do
  if descriptor ≠ target then
    let _ ← call (.duplicate descriptor target)
    close descriptor

end Activity

end LspSession.Shell
