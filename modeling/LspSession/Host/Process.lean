import LspSession.Host.System
import LspSession.Pump.Transport

/-!
# `LspSession.Host.Process`: a process seen from outside

A process is started with pipes at its standard input and its standard output; its standard error is
collected. Whoever started it holds the other ends of the pipes. `Process` is a transport: reading
lets the process and all that it has started run until there is something to read, or until a
deadline. Who reads takes a moment to notice that something has come, and then gets everything that
is there. Writing fails once nobody can read any more.

A process is read a limited number of times, and each time it takes a limited number of steps, so
that a reader comes to an end even if the process does not.
-/

set_option autoImplicit false

namespace LspSession

/-- A running process with both of its pipes. -/
structure Process where
  system : System
  id : Nat
  /-- The pipe at its standard input. -/
  input : Nat
  /-- The pipe at its standard output. -/
  output : Nat
  /-- What is held of the pipes: the end to write to and the end to read from. -/
  ends : Nat × Nat
  /-- The time at which its reader gives up. -/
  deadline : Nat
  /-- How many more times it is read. -/
  patience : Nat

namespace Process

/-- How many times a process is read. -/
def reads : Nat := 65536

/-- How many steps a process takes at most before something is there to read. -/
def steps : Nat := 1000000

/-- The nanoseconds until it is noticed that there is something to read. -/
def reaction : Nat := 40000

/-- A process at its start. -/
def start (tree : FileTree) (id : Nat) (directory : Place) (program : Program) : Process :=
  let system := System.empty tree (id + 1)
  let (system, inputReader, inputWriter) := system.addPipe
  let (system, outputReader, outputWriter) := system.addPipe
  let (system, errors) := system.addOpened .errors
  let number (opened : Option Opened) : Nat :=
    match opened with
    | some (.pipe number _) => number
    | _ => 0
  let task : Task :=
    { id := id
      parent := System.outsideId
      next := program
      descriptors := [(0, inputReader), (1, outputWriter), (2, errors)]
      directory := directory
      dispositions := []
      notes := []
      due := 0
      suspended := false
      ended := none }
  { system := { system with tasks := [task], outside := [inputWriter, outputReader] }
    id := id
    input := number (system.opened? inputReader)
    output := number (system.opened? outputReader)
    ends := (inputWriter, outputReader)
    deadline := 0
    patience := reads }

/-- How the process ended, if it has. -/
def status? (p : Process) : Option ExitStatus := (p.system.task? p.id).bind Task.ended

/-- Sets the deadline so many nanoseconds from now. -/
def within (limit : Nat) (p : Process) : Process :=
  { p with deadline := p.system.clock + limit }

/-- Lets go of some of what is held. -/
def release (p : Process) (ends : List Nat) : Process :=
  { p with system := { p.system with
      outside := p.system.outside.filter fun o => !ends.contains o } }

/-- Tells the process that its input ends. -/
def closeInput (p : Process) : Process := p.release [p.ends.1]

/-- Tells the process that its input ends and that nobody reads what it writes. -/
def closePipes (p : Process) : Process := p.release [p.ends.1, p.ends.2]

/-- Whether reading gives something, be it the end. -/
def isReadable (p : Process) (s : System) : Bool :=
  (s.pipe p.output).size != 0 || !s.isHeld p.output true

/-- Lets the process run until something is the case, or until the deadline. -/
def runUntil (p : Process) (stop : System → Bool) : Process :=
  let system := p.system.run stop p.deadline steps
  if stop system then { p with system := system }
  else { p with system := { system with clock := max system.clock p.deadline } }

/-- Lets the process run for some time. -/
def runFor (p : Process) (time : Nat) : Process :=
  let limit := p.system.clock + time
  let system := p.system.run (fun _ => false) limit steps
  { p with system := { system with clock := max system.clock limit } }

/-- Reads from the standard output of a process. -/
def read (p : Process) : ReadResult × Process :=
  match p.patience with
  | 0 => (.waiting, p)
  | patience + 1 =>
    let p := { p with patience := patience }
    if p.deadline ≤ p.system.clock then (.waiting, p)
    else
      let p := p.runUntil p.isReadable
      if !p.isReadable p.system then (.waiting, p)
      else
        let p := p.runFor reaction
        match (p.system.pipe p.output).take readSize with
        | ([], _) => (.ended, p)
        | (bytes, rest) =>
          (.bytes bytes, { p with system := p.system.setPipe p.output rest })

/-- Writes to the standard input of a process. -/
def write (p : Process) (bytes : Bytes) : Except IoError Unit × Process :=
  if p.system.isHeld p.input false then
    let pipe := (p.system.pipe p.input).push bytes
    (.ok (), { p with system := p.system.setPipe p.input pipe })
  else (.error (.os .brokenPipe), p)

theorem patience_runUntil (p : Process) (stop : System → Bool) :
    (p.runUntil stop).patience = p.patience := by
  unfold runUntil
  simp only
  split <;> rfl

theorem remaining_read {p p' : Process} {bytes : Bytes} (h : p.read = (.bytes bytes, p')) :
    p'.patience < p.patience := by
  unfold read at h
  split at h
  · cases h
  · next n hn =>
    simp only at h
    split at h
    · cases h
    · split at h
      · cases h
      · split at h
        · cases h
        · cases h
          simp only [runFor, patience_runUntil, hn]
          exact Nat.lt_succ_self n

theorem remaining_write (p : Process) (bytes : Bytes) :
    (p.write bytes).2.patience ≤ p.patience := by
  unfold write
  split <;> exact Nat.le_refl _

instance : Transport Process where
  read := read
  write := write
  within := within
  remaining := patience
  remaining_read := remaining_read
  remaining_write := remaining_write
  remaining_within _ _ := Nat.le_refl _

/-- Waits for a process to end, up to the deadline. A process that has not ended by then is killed.
The answer says how it ended by itself, if it did. -/
def wait (p : Process) : Option ExitStatus × Process :=
  let ended (s : System) : Bool := ((s.task? p.id).bind Task.ended).isSome
  let p := p.runUntil ended
  match p.status? with
  | some status => (some status, p)
  | none => (none, { p with system := p.system.deliver p.id Signal.kill })

/-- Reads at most so many times, until the end. -/
def readAll : Nat → Process → Bytes × Process
  | 0, p => ([], p)
  | times + 1, p =>
    match p.read with
    | (.bytes bytes, p) =>
      let (rest, p) := readAll times p
      (bytes ++ rest, p)
    | (_, p) => ([], p)

/-- Reads all that comes up to the deadline. -/
def drain (p : Process) : Bytes × Process := readAll p.patience p

/-- Kills a process whose pipes are let go of. -/
def abandon (p : Process) : Process :=
  let p := p.closePipes
  { p with system := p.system.deliver p.id Signal.kill }

/-- How long what a process has started may go on after it. -/
def aftermath : Nat := 20000000000

/-- Lets everything that a process has started come to an end. -/
def settle (p : Process) : Process := p.runFor aftermath

/-- All that was written to the standard error. -/
def errors (p : Process) : Bytes := p.system.errors.reverse.flatten

end Process

end LspSession
