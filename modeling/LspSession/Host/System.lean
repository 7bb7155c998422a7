import LspSession.Host.Program

/-!
# `LspSession.Host.System`: processes side by side

A system runs processes. It holds the tree of files, the pipes, and what the descriptors of every
process refer to, and it answers the calls that processes make. A call that cannot be answered yet
keeps its process waiting: reading from an empty pipe that can still be written to, writing to a
full one, waiting for a child.

Time passes with what processes do. Of all processes that can go on the one whose turn comes first
takes the next step, and every step sets the time of that process's next turn. So a run is a row of
steps, and nothing in it is left to chance.

A pipe ends for its readers when nobody holds its writing end any more, and a process that writes to
a pipe without readers gets a signal that ends it unless the process ignores it. What is held from
outside the system counts as held.

Times are nanoseconds since the start of the system.
-/

set_option autoImplicit false

namespace LspSession

/-! ### Pipes -/

/-- The bytes in a pipe, in the pieces in which they were written. -/
structure Pipe where
  /-- The first pieces. -/
  front : List Bytes
  /-- The pieces after them, last first. -/
  back : List Bytes
  size : Nat
  deriving Repr

namespace Pipe

/-- An empty pipe. -/
def empty : Pipe := ⟨[], [], 0⟩

/-- The size from which on a pipe is full. -/
def capacity : Nat := 65536

/-- Puts bytes into a pipe. -/
def push (p : Pipe) (bytes : Bytes) : Pipe :=
  if bytes = [] then p else { p with back := bytes :: p.back, size := p.size + bytes.length }

/-- Takes at most so many bytes off the front of pieces. -/
def takeFrom : Nat → List Bytes → Bytes × List Bytes
  | _, [] => ([], [])
  | 0, pieces => ([], pieces)
  | count, piece :: rest =>
    if count < piece.length then (piece.take count, piece.drop count :: rest)
    else
      let (more, rest) := takeFrom (count - piece.length) rest
      (piece ++ more, rest)

/-- Takes at most so many bytes out of a pipe. -/
def take (p : Pipe) (count : Nat) : Bytes × Pipe :=
  let pieces := if p.size = 0 then [] else p.front ++ p.back.reverse
  let (bytes, rest) := takeFrom count pieces
  (bytes, ⟨rest, [], p.size - bytes.length⟩)

end Pipe

/-! ### What a system is made of -/

/-- What a descriptor refers to. -/
inductive Opened where
  | pipe (number : Nat) (writes : Bool)
  | file (place : Place) (offset : Nat) (mode : OpenMode)
  | device (device : Device)
  /-- The rest of certain bytes. -/
  | text (rest : Bytes)
  | directory (place : Place)
  /-- Where errors are collected. -/
  | errors
  deriving DecidableEq, Repr

/-- A process. -/
structure Task where
  id : Nat
  parent : Nat
  next : Program
  /-- What its descriptors refer to, by number. -/
  descriptors : List (Nat × Nat)
  directory : Place
  /-- What it does about signals, where that is not the usual thing. -/
  dispositions : List (Nat × Disposition)
  /-- The signals it has noted and not looked at. -/
  notes : List Nat
  /-- When its next turn is. -/
  due : Nat
  suspended : Bool
  ended : Option ExitStatus

/-- Processes side by side and all that they share. -/
structure System where
  tasks : List Task
  opened : List (Nat × Opened)
  pipes : List (Nat × Pipe)
  /-- What is held from outside, among the things that are open. -/
  outside : List Nat
  tree : FileTree
  clock : Nat
  /-- The id that the next process gets. -/
  nextId : Nat
  /-- The number that the next open thing or pipe gets. -/
  nextNumber : Nat
  /-- The errors that were collected, latest first. -/
  errors : List Bytes

namespace Task

/-- What a descriptor refers to. -/
def opened? (t : Task) (descriptor : Nat) : Option Nat := t.descriptors.lookup descriptor

/-- The least descriptor from a number on that refers to nothing. -/
def freeFrom (t : Task) (least : Nat) : Nat :=
  ((List.range (t.descriptors.length + 1)).map (least + ·)).find?
    (fun d => (t.opened? d).isNone) |>.getD least

/-- Lets a descriptor refer to something. -/
def refer (t : Task) (descriptor number : Nat) : Task :=
  { t with descriptors :=
      (descriptor, number) :: t.descriptors.filter fun (other, _) => other != descriptor }

/-- Lets a descriptor refer to nothing. -/
def close (t : Task) (descriptor : Nat) : Task :=
  { t with descriptors := t.descriptors.filter fun (other, _) => other != descriptor }

/-- The least descriptor that is out of the way. -/
def leastKept : Nat := 10

/-- What the process does about a signal. -/
def disposition (t : Task) (signal : Nat) : Disposition :=
  if Signal.isCatchable signal then (t.dispositions.lookup signal).getD .usual else .usual

end Task

namespace System

/-- A system without processes. -/
def empty (tree : FileTree) (nextId : Nat) : System := ⟨[], [], [], [], tree, 0, nextId, 0, []⟩

/-- The process with an id. -/
def task? (s : System) (id : Nat) : Option Task := s.tasks.find? fun t => t.id == id

/-- Replaces a process by a later state of it. -/
def setTask (s : System) (t : Task) : System :=
  { s with tasks := s.tasks.map fun other => if other.id = t.id then t else other }

/-- What an open thing is. -/
def opened? (s : System) (number : Nat) : Option Opened := s.opened.lookup number

/-- Changes an open thing. -/
def setOpened (s : System) (number : Nat) (opened : Opened) : System :=
  { s with opened :=
      s.opened.map fun (other, old) => (other, if other == number then opened else old) }

/-- Opens something. -/
def addOpened (s : System) (opened : Opened) : System × Nat :=
  ({ s with opened := (s.nextNumber, opened) :: s.opened, nextNumber := s.nextNumber + 1 },
    s.nextNumber)

/-- The content of a pipe. -/
def pipe (s : System) (number : Nat) : Pipe := (s.pipes.lookup number).getD .empty

/-- Changes the content of a pipe. -/
def setPipe (s : System) (number : Nat) (pipe : Pipe) : System :=
  { s with pipes := s.pipes.map fun (other, old) => (other, if other == number then pipe else old) }

/-- Makes a pipe, and opens its reading and its writing end. -/
def addPipe (s : System) : System × Nat × Nat :=
  let number := s.nextNumber
  let s := { s with pipes := (number, .empty) :: s.pipes, nextNumber := number + 1 }
  let (s, reader) := s.addOpened (.pipe number false)
  let (s, writer) := s.addOpened (.pipe number true)
  (s, reader, writer)

/-- Whether anybody holds an end of a pipe. -/
def isHeld (s : System) (number : Nat) (writes : Bool) : Bool :=
  s.opened.any fun (o, opened) =>
    opened == .pipe number writes &&
      (s.outside.contains o || s.tasks.any fun t => t.descriptors.any fun (_, held) => held == o)

/-- Forgets what nobody holds. -/
def sweep (s : System) : System :=
  let opened := s.opened.filter fun (o, _) =>
    s.outside.contains o || s.tasks.any fun t => t.descriptors.any fun (_, held) => held == o
  { s with
    opened := opened
    pipes := s.pipes.filter fun (number, _) =>
      opened.any fun (_, o) => o == .pipe number false || o == .pipe number true }

/-! ### Processes and signals -/

/-- The id that stands for the outside as a parent. -/
def outsideId : Nat := 0

/-- The id of the process that takes over children whose parent has ended. -/
def keeperId : Nat := 1

/-- Ends a process. What is left of it stays until its parent has waited for it. -/
def endTask (s : System) (id : Nat) (status : ExitStatus) : System :=
  let close (t : Task) : Task :=
    if t.id = id then
      { t with ended := some status, descriptors := [], due := s.clock, suspended := false }
    else if t.parent = id then { t with parent := keeperId }
    else t
  let tasks := s.tasks.map close
  sweep { s with tasks := tasks.filter fun t => t.ended.isNone || t.parent != keeperId }

/-- Lets a signal reach a process. -/
def deliver (s : System) (id signal : Nat) : System :=
  match s.task? id with
  | none => s
  | some t =>
    if t.ended.isSome ∨ signal = 0 then s
    else
      let t := if signal = Signal.continue_ then { t with suspended := false } else t
      let s := s.setTask t
      match t.disposition signal with
      | .ignored => s
      | .noted =>
        if t.notes.contains signal then s else s.setTask { t with notes := t.notes ++ [signal] }
      | .usual =>
        match Signal.effect signal with
        | .ends => s.endTask id (.signaled signal)
        | .suspends => s.setTask { t with suspended := true }
        | .continues | .nothing => s

/-! ### Calls -/

/-- A task after a call, with the answer, if the call can be answered. -/
abbrev Result (call : SystemCall) : Type := System × Task × call.Answer

/-- Reads from a descriptor, unless there is nothing yet. -/
def read (s : System) (t : Task) (descriptor count : Nat) :
    Option (System × Except OsError Bytes) :=
  match (t.opened? descriptor).bind fun o => (s.opened? o).map fun opened => (o, opened) with
  | none => some (s, .error .badDescriptor)
  | some (o, opened) =>
    match opened with
    | .pipe number false =>
      let (bytes, pipe) := (s.pipe number).take count
      if bytes = [] ∧ count ≠ 0 ∧ s.isHeld number true then none
      else some (s.setPipe number pipe, .ok bytes)
    | .file place offset mode =>
      match mode with
      | .read | .update =>
        let bytes := ((s.tree.bytesAt place).drop offset).take count
        some (s.setOpened o (.file place (offset + bytes.length) mode), .ok bytes)
      | .write | .append => some (s, .error .badDescriptor)
    | .device .null => some (s, .ok [])
    | .device _ => some (s, .ok (List.replicate count 0))
    | .text rest => some (s.setOpened o (.text (rest.drop count)), .ok (rest.take count))
    | .directory _ => some (s, .error .isADirectory)
    | .pipe _ true | .errors => some (s, .error .badDescriptor)

/-- Bytes with others in their place from an offset on. -/
def overwrite (old : Bytes) (offset : Nat) (bytes : Bytes) : Bytes :=
  (old ++ List.replicate (offset - old.length) 0).take offset ++ bytes ++
    old.drop (offset + bytes.length)

/-- Writes to a descriptor, unless there is no room yet. A process that writes where nobody can read
gets a signal first. -/
def write (s : System) (t : Task) (descriptor : Nat) (bytes : Bytes) :
    Option (System × Except OsError Unit) :=
  match (t.opened? descriptor).bind fun o => (s.opened? o).map fun opened => (o, opened) with
  | none => some (s, .error .badDescriptor)
  | some (o, opened) =>
    match opened with
    | .pipe number true =>
      if bytes = [] then some (s, .ok ())
      else if !s.isHeld number false then
        some (s.deliver t.id Signal.pipe, .error .brokenPipe)
      else
        let pipe := s.pipe number
        if Pipe.capacity ≤ pipe.size then none
        else some (s.setPipe number (pipe.push bytes), .ok ())
    | .file place offset mode =>
      let old := s.tree.bytesAt place
      match mode with
      | .read => some (s, .error .badDescriptor)
      | .append => some ({ s with tree := s.tree.setBytes place (old ++ bytes) }, .ok ())
      | .write | .update =>
        let s := { s with tree := s.tree.setBytes place (overwrite old offset bytes) }
        some (s.setOpened o (.file place (offset + bytes.length) mode), .ok ())
    | .device .full => some (s, .error .noSpace)
    | .device _ => some (s, .ok ())
    | .errors => some ({ s with errors := bytes :: s.errors }, .ok ())
    | .pipe _ false | .text _ | .directory _ => some (s, .error .badDescriptor)

/-- Opens something and lets the least free descriptor refer to it. -/
def openAs (s : System) (t : Task) (opened : Opened) : System × Task × Nat :=
  let (s, number) := s.addOpened opened
  let descriptor := t.freeFrom 0
  (s, t.refer descriptor number, descriptor)

/-- Opens what is at a place. -/
def openPlace (s : System) (t : Task) (place : Place) (mode : OpenMode) :
    System × Task × Except OsError Nat :=
  match s.tree.node? place with
  | some (.device (.descriptor number)) =>
    match t.opened? number with
    | some o =>
      let descriptor := t.freeFrom 0
      (s, t.refer descriptor o, .ok descriptor)
    | none => (s, t, .error .notFound)
  | some (.device .terminal) => (s, t, .error .noDevice)
  | some (.device device) =>
    let (s, t, descriptor) := s.openAs t (.device device)
    (s, t, .ok descriptor)
  | some .directory =>
    let (s, t, descriptor) := s.openAs t (.directory place)
    (s, t, .ok descriptor)
  | some (.program _) =>
    let (s, t, descriptor) := s.openAs t (.text [])
    (s, t, .ok descriptor)
  | _ =>
    let s := match mode with
      | .write => { s with tree := s.tree.setBytes place [] }
      | _ => s
    let (s, t, descriptor) := s.openAs t (.file place 0 mode)
    (s, t, .ok descriptor)

/-- Opens a file. -/
def openFile (s : System) (t : Task) (path : String) (mode : OpenMode) :
    System × Task × Except OsError Nat :=
  match mode with
  | .read =>
    match s.tree.locate t.directory path true with
    | .error e => (s, t, .error e)
    | .ok place => s.openPlace t place mode
  | .write | .append | .update =>
    match s.tree.locateToWrite t.directory path with
    | .error e => (s, t, .error e)
    | .ok (tree, place) => { s with tree := tree }.openPlace t place mode

/-- Whether a process is a child that is waited for. -/
def isAwaited (t : Task) (child : Option Nat) (other : Task) : Bool :=
  other.parent == t.id && child.all fun id => other.id == id

/-- Looks for a child that has ended, and forgets it. -/
def reap (s : System) (t : Task) (child : Option Nat) : System × Waited :=
  match s.tasks.filter (isAwaited t child) with
  | [] => (s, .noChild)
  | children =>
    let first (best : Option (Task × ExitStatus)) (t : Task) : Option (Task × ExitStatus) :=
      match t.ended, best with
      | none, _ => best
      | some status, none => some (t, status)
      | some status, some (other, old) =>
        if t.due < other.due then some (t, status) else some (other, old)
    match children.foldl first none with
    | some (ended, status) =>
      ({ s with tasks := s.tasks.filter fun other => other.id != ended.id },
        .ended ended.id status)
    | none => (s, .running)

/-- Waits for a child to end. -/
def wait (s : System) (t : Task) (child : Option Nat) (untilSignal : Bool) :
    Option (System × Waited) :=
  match s.reap t child with
  | (_, .running) => if untilSignal ∧ t.notes ≠ [] then some (s, .interrupted) else none
  | result => some result

/-- What is told about an open thing. -/
def statusOf (s : System) (t : Task) (descriptor : Nat) : Except OsError FileStatus :=
  match (t.opened? descriptor).bind s.opened? with
  | none => .error .badDescriptor
  | some opened =>
    match opened with
    | .pipe .. | .errors | .text _ => .ok ⟨.file [] false, [], true⟩
    | .file place .. | .directory place =>
      .ok ⟨(s.tree.node? place).getD (.file [] false), place, false⟩
    | .device device => .ok ⟨.device device, [], false⟩

/-- What is told about the end of a path. What stands for a descriptor is what it refers to. -/
def status (s : System) (t : Task) (path : String) (followLast : Bool) :
    Except OsError FileStatus := do
  let place ← s.tree.locate t.directory path followLast
  match s.tree.node? place with
  | some (.device (.descriptor number)) =>
    match s.statusOf t number with
    | .ok status => return status
    | .error _ => .error .notFound
  | node => return ⟨node.getD .directory, place, false⟩

/-- Changes the tree, unless that fails. -/
def changeTree (s : System) (t : Task) (result : Except OsError FileTree) :
    System × Task × Except OsError Unit :=
  match result with
  | .ok tree => ({ s with tree := tree }, t, .ok ())
  | .error e => (s, t, .error e)

/-- Answers a call, unless the process has to wait. -/
def answer (s : System) (t : Task) : (call : SystemCall) → Option (Result call)
  | .read descriptor count => (s.read t descriptor count).map fun (s, a) => (s, t, a)
  | .write descriptor bytes =>
    (s.write t descriptor bytes).map fun (s, a) => (s, (s.task? t.id).getD t, a)
  | .openFile path mode => some (s.openFile t path mode)
  | .openText bytes => some (s.openAs t (.text bytes))
  | .close descriptor =>
    if (t.opened? descriptor).isSome then some (s, t.close descriptor, .ok ())
    else some (s, t, .error .badDescriptor)
  | .duplicate descriptor target =>
    match t.opened? descriptor with
    | some o => some (s, t.refer target o, .ok ())
    | none => some (s, t, .error .badDescriptor)
  | .keep descriptor =>
    match t.opened? descriptor with
    | some o =>
      let kept := t.freeFrom Task.leastKept
      some (s, t.refer kept o, .ok kept)
    | none => some (s, t, .error .badDescriptor)
  | .pipe =>
    let (s, reader, writer) := s.addPipe
    let first := t.freeFrom 0
    let t := t.refer first reader
    let second := t.freeFrom 0
    some (s, t.refer second writer, (first, second))
  | .wait child untilSignal => (s.wait t child untilSignal).map fun (s, a) => (s, t, a)
  | .poll child =>
    let (s, a) := s.reap t child
    some (s, t, a)
  | .signal process signal =>
    match s.task? process with
    | none => some (s, t, .error .noProcess)
    | some _ =>
      let s := s.deliver process signal
      some (s, (s.task? t.id).getD { t with ended := some (.signaled signal) }, .ok ())
  | .dispose signal disposition =>
    some (s, { t with dispositions :=
      (signal, disposition) :: t.dispositions.filter fun (other, _) => other != signal }, ())
  | .notes => some (s, { t with notes := [] }, t.notes)
  | .sleep _ | .pause => some (s, t, ())
  | .clock => some (s, t, s.clock)
  | .identity => some (s, t, (t.id, t.parent))
  | .directory => some (s, t, t.directory)
  | .enter path =>
    match s.tree.locateDirectory t.directory path with
    | .ok place => some (s, { t with directory := place }, .ok ())
    | .error e => some (s, t, .error e)
  | .status path followLast => some (s, t, s.status t path followLast)
  | .statusOf descriptor => some (s, t, s.statusOf t descriptor)
  | .list path =>
    some (s, t, (s.tree.locateDirectory t.directory path).map fun place => s.tree.names place)
  | .make path node => some (s.changeTree t (s.tree.make t.directory path node))
  | .remove path => some (s.changeTree t (s.tree.remove t.directory path))
  | .removeDirectory path => some (s.changeTree t (s.tree.removeDirectory t.directory path))
  | .rename path target => some (s.changeTree t (s.tree.rename t.directory path target))
  | .setNode path node =>
    some (s.changeTree t ((s.tree.locate t.directory path true).map fun place =>
      s.tree.put place node))
  | .canonicalize path => some (s, t, s.tree.canonicalize t.directory path)
  | .replace =>
    some (s, { t with
      descriptors := t.descriptors.filter fun (d, _) => d < Task.leastKept
      dispositions := t.dispositions.filter fun (_, d) => d == .ignored }, ())

/-! ### Steps -/

/-- The nanoseconds that a call takes. -/
def cost : SystemCall → Nat
  | .sleep nanoseconds => nanoseconds + 50000
  | .pause => 5000
  | .replace => 400000
  | _ => 2000

/-- The nanoseconds until the end of a process is seen. -/
def endCost : Nat := 100000

/-- The nanoseconds until a process goes on that has split, and until the other one starts. -/
def forkCosts : Nat × Nat := (80000, 200000)

/-- The nanoseconds until a process goes on that has waited. -/
def wakeCost : Nat := 25000

/-- Whether a process can take a step. -/
def canProceed (s : System) (t : Task) : Bool :=
  t.ended.isNone && !t.suspended &&
    match t.next with
    | .call (.read descriptor count) _ => (s.read t descriptor count).isSome
    | .call (.write descriptor _) _ =>
      match (t.opened? descriptor).bind s.opened? with
      | some (.pipe number true) =>
        (s.pipe number).size < Pipe.capacity || !s.isHeld number false
      | _ => true
    | .call (.wait child untilSignal) _ => (s.wait t child untilSignal).isSome
    | _ => true

/-- The process that takes the next step. -/
def nextTask? (s : System) : Option Task :=
  (s.tasks.filter s.canProceed).foldl
    (fun best t =>
      match best with
      | none => some t
      | some other => if t.due < other.due then some t else best)
    none

/-- A process that goes on as a program after some time. -/
def resume (s : System) (t : Task) (delay : Nat) (next : Program) : System :=
  let ending := match next with
    | .ended _ => endCost
    | _ => 0
  s.setTask { t with next := next, due := s.clock + delay + ending }

/-- Lets a process take its next step. -/
def advance (s : System) (t : Task) : System :=
  let s := { s with clock := max s.clock t.due }
  match t.next with
  | .ended status => s.endTask t.id status
  | .fork child next =>
    let (delay, childDelay) := forkCosts
    let id := s.nextId
    let other : Task :=
      { t with id := id, parent := t.id, next := child, notes := [], due := s.clock + childDelay }
    { s with tasks := s.tasks ++ [other], nextId := id + 1 }.resume t delay (next id)
  | .call call next =>
    match s.answer t call with
    | none => s
    | some (s, t, a) => if t.ended.isSome then s else s.resume t (cost call) (next a)

/-- Takes the next step, of a process that can take one. A process that has waited up to now goes on
a little later. -/
def step (s : System) (t : Task) : System :=
  let waiting := s.tasks.filter fun other => !s.canProceed other
  let s := s.advance t
  let wake (other : Task) : Task :=
    if (waiting.any fun w => w.id == other.id) && s.canProceed other then
      { other with due := max other.due (s.clock + wakeCost) }
    else other
  if waiting = [] then s else { s with tasks := s.tasks.map wake }

/-- Takes at most so many steps up to a time, until something is the case. -/
def run (stop : System → Bool) (limit : Nat) : Nat → System → System
  | 0, s => s
  | steps + 1, s =>
    if stop s then s
    else
      match s.nextTask? with
      | none => s
      | some t => if limit < max s.clock t.due then s else run stop limit steps (s.step t)

end System

end LspSession
