import Std.Data.HashMap
import LspSession.Host.Utility.Basic
import LspSession.Host.Utility.Records.Reader

/-!
# `LspSession.Host.Utility.Records.Run`: running scripts over records

The inputs are cut into records and these into fields. For every record the rules of a script are
gone through. What a script writes is gathered and goes out before another program is started, and
at the end.
-/

set_option autoImplicit false

namespace LspSession.Utility.Records

open Shell (Activity Fraction Text ofString ofNat ofBytes isBlank)

/-- How words are run as a command. -/
abbrev Starter := List Text → Activity Nat

/-! ### The state -/

/-- What goes by a name. -/
inductive Slot where
  | unset
  | scalar (d : Datum)
  /-- An array, by its number. -/
  | array (id : Nat)
  deriving DecidableEq, Repr, Inhabited

/-- What names an element: the number of its array and its key. -/
structure CellName where
  array : Nat
  key : Text
  deriving DecidableEq, Repr

/-- Elements are told apart by array and key. -/
instance : BEq CellName := ⟨fun a b => decide (a = b)⟩

/-- Elements are spread by array and key. -/
instance : Hashable CellName :=
  ⟨fun name => name.key.foldl (fun h c => mixHash h c.toNat.toUInt64) name.array.toUInt64⟩

/-- Something that records are read from. -/
structure Source where
  descriptor : Nat
  /-- What has been read and not used. -/
  rest : Text
  isOver : Bool
  /-- The process that writes, if there is one. -/
  child : Option Nat

/-- Something that is written to besides the standard output. -/
structure Target where
  descriptor : Nat
  /-- The process that reads, if there is one. -/
  child : Option Nat

/-- The state of a script that is running. -/
structure State where
  procedures : List (Text × Procedure)
  globals : List (Text × Slot)
  locals : List (Text × Slot)
  /-- The elements of all arrays, with numbers that tell which came first. -/
  cells : Std.HashMap CellName (Nat × Datum)
  arrays : Nat
  elements : Nat
  record : Datum
  fields : List Datum
  /-- The number of the operand to be read next. -/
  operand : Nat
  input : Option Source
  /-- Whether any input has been opened. -/
  isOpened : Bool
  sources : List (Text × Source)
  targets : List (Text × Target)
  /-- What has been written and not gone out, in reverse, and how much that is. -/
  written : List Text
  size : Nat
  /-- The numbers of the rules that hold up to some record to come. -/
  ongoing : List Nat
  status : Nat

/-- Why something stops before its end. -/
inductive Jump where
  | leave
  | again
  | next
  | nextInput
  | exit
  | returned (d : Datum)
  | fault (message : String)
  deriving Inhabited

/-- Something that a script does. -/
abbrev Run := ExceptT Jump (StateT State Activity)

/-- Looks at the state. -/
def state : Run State := getThe State

/-- Changes the state. -/
def update (f : State → State) : Run Unit := modifyThe State f

/-- Stops. -/
def jump {α : Type} (j : Jump) : Run α := throwThe Jump j

/-- Asks the system for something. -/
def ask (c : SystemCall) : Run c.Answer := liftM (n := Run) (Activity.call c)

/-- Does something as a process. -/
def perform {α : Type} (activity : Activity α) : Run α := liftM (n := Run) activity

/-! ### Variables -/

/-- A list with another value for a key. -/
def put {α : Type} (key : Text) (a : α) : List (Text × α) → List (Text × α)
  | [] => [(key, a)]
  | (other, b) :: rest => if other = key then (key, a) :: rest else (other, b) :: put key a rest

/-- What goes by a name. -/
def slot (name : Text) : Run Slot := do
  let s ← state
  return (s.locals.lookup name).getD ((s.globals.lookup name).getD .unset)

/-- Lets something go by a name. -/
def setSlot (name : Text) (new : Slot) : Run Unit :=
  update fun s =>
    if (s.locals.lookup name).isSome then { s with locals := put name new s.locals }
    else { s with globals := put name new s.globals }

/-- The value that a variable holds. -/
def held (name : String) : Run Datum := do
  match ← slot name.toList with
  | .scalar d => return d
  | _ => return .unset

/-- A value as a text. -/
def textOf (d : Datum) : Run Text := do
  match d with
  | .number _ => return d.toText ((← held "CONVFMT").toText [])
  | d => return d.toText []

/-- The text that a variable holds. -/
def heldText (name : String) : Run Text := do textOf (← held name)

/-- Puts a number into a variable. -/
def setNumber (name : String) (x : Fraction) : Run Unit :=
  setSlot name.toList (.scalar (.number x))

/-- The number of the array that goes by a name. -/
def arrayOf (name : Text) : Run Nat := do
  match ← slot name with
  | .array id => return id
  | .unset =>
    let id := (← state).arrays
    update fun s => { s with arrays := id + 1 }
    setSlot name (.array id)
    return id
  | .scalar _ => jump (.fault "type error in arg")

/-- Sets an element of an array. -/
def setCell (id : Nat) (key : Text) (d : Datum) : Run Unit :=
  update fun s =>
    match s.cells.get? ⟨id, key⟩ with
    | some (n, _) => { s with cells := s.cells.insert ⟨id, key⟩ (n, d) }
    | none => { s with
        cells := s.cells.insert ⟨id, key⟩ (s.elements, d)
        elements := s.elements + 1 }

/-- An element of an array, which is there from now on. -/
def cell (id : Nat) (key : Text) : Run Datum := do
  match (← state).cells.get? ⟨id, key⟩ with
  | some (_, d) => return d
  | none =>
    setCell id key .unset
    return .unset

/-- Removes all elements of an array. -/
def clear (id : Nat) : Run Unit :=
  update fun s => { s with cells := s.cells.filter fun name _ => name.array != id }

/-- The number that elements are spread by. -/
def spread (key : Text) : Nat :=
  key.foldl (fun h c => (h ^^^ c.toNat) * 16777619 % 4294967296) 2166136261

/-- The keys of an array in the order in which they are gone through: spread over so many places,
and where two meet the later one first. -/
def keysOf (id : Nat) : Run (List Text) := do
  let found := (← state).cells.toList.filterMap fun (name, (n, _)) =>
    if name.array = id then some (name.key, n) else none
  let doublings := (List.range 40).find? fun k => found.length ≤ 128 * Nat.pow 2 k
  let places := 64 * Nat.pow 2 (doublings.getD 0)
  let place (entry : Text × Nat) : Nat := spread entry.1 % places
  return (found.mergeSort fun a b =>
    place a < place b || (place a == place b && b.2 ≤ a.2)).map (·.1)

/-! ### Records and fields -/

/-- What stands between fields. -/
inductive Separator where
  | blanks
  | char (c : Char)
  /-- Every character is a field. -/
  | nothing
  | pattern (r : Regex)

/-- The separator that a text names. -/
def separator (text : Text) : Run Separator := do
  match text with
  | [' '] => return .blanks
  | [] => return .nothing
  | [c] => return .char c
  | text =>
    match Regex.ofText true text with
    | .ok r => return .pattern r
    | .error _ => jump (.fault "regular expression compile failure")

/-- The parts of a text that are separated by what is found of a pattern, in at most so many
steps. -/
def partsBy (r : Regex) (s : Regex.Subject) : Nat → Nat → Nat → List Text
  | 0, low, _ => [s.slice low s.text.size]
  | steps + 1, low, from_ =>
    match r.find? s from_ with
    | none => [s.slice low s.text.size]
    | some (start, found) =>
      if found.position = start then
        if s.text.size ≤ start then [s.slice low s.text.size] else partsBy r s steps low (start + 1)
      else s.slice low start :: partsBy r s steps found.position found.position

/-- The fields of a text. Lines may end fields as well. -/
def Separator.split (sep : Separator) (linesToo : Bool) (text : Text) : List Text :=
  if text = [] then []
  else
    match sep with
    | .blanks => (text.splitOnP fun c => isBlank c || c == '\n').filter (· ≠ [])
    | .char c => text.splitOnP fun d => d == c || (linesToo && d == '\n')
    | .nothing => text.map fun c => [c]
    | .pattern r =>
      let r := if linesToo then .either r (.char '\n') else r
      partsBy r ⟨text.toArray, false⟩ (text.length + 1) 0 0

/-- The fields of a text by the separator of fields. -/
def fieldsOf (text : Text) : Run (List Datum) := do
  let sep ← separator (← heldText "FS")
  return (sep.split ((← heldText "RS").isEmpty) text).map .input

/-- Takes another record. -/
def setRecord (text : Text) : Run Unit := do
  let fields ← fieldsOf text
  update fun s => { s with record := .input text, fields := fields }

/-- Puts the record together from its fields. -/
def rebuild : Run Unit := do
  let texts ← (← state).fields.mapM textOf
  let gap ← heldText "OFS"
  update fun s => { s with record := .input (gap.intercalate texts) }

/-- A field, or the record as the field zero. -/
def field (index : Int) : Run Datum := do
  if index < 0 then jump (.fault ("negative field index $" ++ Decimal.renderInt index))
  let s ← state
  return if index = 0 then s.record else s.fields[index.toNat - 1]?.getD .unset

/-- Changes the number of fields. -/
def setFieldCount (count : Nat) : Run Unit := do
  update fun s => { s with
    fields := s.fields.take count ++ List.replicate (count - s.fields.length) (.text []) }
  rebuild

/-- Changes a field. -/
def setField (index : Int) (d : Datum) : Run Unit := do
  if index < 0 then jump (.fault ("negative field index $" ++ Decimal.renderInt index))
  else if index = 0 then setRecord (← textOf d)
  else
    if (← state).fields.length < index.toNat then setFieldCount index.toNat
    update fun s => { s with fields := s.fields.set (index.toNat - 1) d }
    rebuild

/-- The value of a variable. -/
def getVariable (name : Text) : Run Datum := do
  if name = "NF".toList then return .number (ofCount (← state).fields.length)
  match ← slot name with
  | .scalar d => return d
  | .unset => return .unset
  | .array _ => jump (.fault "type error in arg")

/-- Puts a value into a variable. -/
def setVariable (name : Text) (d : Datum) : Run Unit := do
  if name = "NF".toList then setFieldCount ((whole d.toNumber).getD 0).toNat
  else
    match ← slot name with
    | .array _ => jump (.fault "type error in arg")
    | _ => setSlot name (.scalar d)

/-! ### Reading -/

/-- The first record of a text, and what follows it, if it is there as a whole. -/
def firstRecord? (mark : Text) (r : Option Regex) (isOver : Bool) (text : Text) :
    Option (Text × Text) :=
  match mark with
  | [] =>
    let text := text.dropWhile (· == '\n')
    let rec paragraph (before : Text) : Text → Option (Text × Text)
      | '\n' :: '\n' :: rest =>
        let after := rest.dropWhile (· == '\n')
        if after = [] ∧ !isOver then none else some (before.reverse, after)
      | c :: rest => paragraph (c :: before) rest
      | [] =>
        let before := before.dropWhile (· == '\n')
        if isOver ∧ before ≠ [] then some (before.reverse, []) else none
    paragraph [] text
  | [c] =>
    let front := text.takeWhile (· != c)
    match text.drop front.length with
    | _ :: rest => some (front, rest)
    | [] => if isOver ∧ front ≠ [] then some (front, []) else none
  | _ =>
    let s : Regex.Subject := ⟨text.toArray, false⟩
    let last := if isOver ∧ text ≠ [] then
        some (text, [])
      else none
    match r.bind fun r => r.find? s 0 with
    | some (low, found) =>
      if low = found.position then last
      else if isOver ∨ found.position < s.text.size then
        some (s.slice 0 low, text.drop found.position)
      else none
    | none => last

/-- Takes a record from a source, with at most so many reads. -/
def takeRecord (mark : Text) (r : Option Regex) : Nat → Source → Run (Option Text × Source)
  | 0, source => return (none, source)
  | reads + 1, source => do
    match firstRecord? mark r source.isOver source.rest with
    | some (found, rest) => return (some found, { source with rest := rest })
    | none =>
      if source.isOver then return (none, { source with rest := [] })
      match ← ask (.read source.descriptor 4096) with
      | .ok bytes =>
        takeRecord mark r reads { source with
          rest := source.rest ++ ofBytes bytes
          isOver := bytes.isEmpty }
      | .error _ => takeRecord mark r reads { source with isOver := true }

/-- Takes a record from a source as the separator of records says. -/
def recordFrom (source : Source) : Run (Option Text × Source) := do
  let mark ← heldText "RS"
  let r := if 1 < mark.length then (Regex.ofText true mark).toOption else none
  takeRecord mark r Activity.unlimited source

/-- The variable and the value that an operand sets, if it does so. -/
def assignment? (word : Text) : Option (Text × Text) :=
  let name := word.takeWhile (· != '=')
  if name.length < word.length ∧ name.head?.any Shell.isNameStart ∧ name.all Shell.isNameChar then
    some (name, word.drop (name.length + 1))
  else none

/-- The text of a value that stands among the words of a command. -/
def givenValue (text : Text) : Datum :=
  match Token.literal (text.length + 2) [] (text ++ ['"']) with
  | some (t, _) => .input t
  | none => .input text

/-- Opens the next of the inputs, looking at at most so many operands. -/
def openNext : Nat → Run Bool
  | 0 => return false
  | steps + 1 => do
    let s ← state
    let count := ((whole (← held "ARGC").toNumber).getD 0).toNat
    let opened (source : Source) (name : Text) : Run Bool := do
      update fun s => { s with input := some source, isOpened := true }
      setSlot "FILENAME".toList (.scalar (.text name))
      setNumber "FNR" .zero
      return true
    if count ≤ s.operand then
      if s.isOpened then return false else opened ⟨0, [], false, none⟩ ['-']
    else
      update fun s => { s with operand := s.operand + 1 }
      let arguments ← arrayOf "ARGV".toList
      let word ← match (← state).cells.get? ⟨arguments, ofNat s.operand⟩ with
        | some (_, d) => textOf d
        | none => pure []
      match assignment? word with
      | some (name, value) =>
        setVariable name (givenValue value)
        openNext steps
      | none =>
        if word = [] then openNext steps
        else if word = ['-'] then opened ⟨0, [], false, none⟩ word
        else
          match ← ask (.openFile (Shell.toPath word) .read) with
          | .ok descriptor => opened ⟨descriptor, [], false, none⟩ word
          | .error e =>
            jump (.fault ("cannot open \"" ++ Shell.toPath word ++ "\" (" ++ e.text ++ ")"))

/-- Takes the next record of the inputs, going through at most so many of them. -/
def nextRecord : Nat → Run (Option Text)
  | 0 => return none
  | steps + 1 => do
    match (← state).input with
    | some source =>
      let (found, source) ← recordFrom source
      match found with
      | some text =>
        update fun s => { s with input := some source }
        setNumber "NR" (sum (← held "NR").toNumber one)
        setNumber "FNR" (sum (← held "FNR").toNumber one)
        return some text
      | none =>
        if source.descriptor ≠ 0 then
          let _ ← ask (.close source.descriptor)
        update fun s => { s with input := none }
        nextRecord steps
    | none =>
      if ← openNext ((← state).operand + 100000) then nextRecord steps else return none

/-! ### Writing -/

/-- Lets go out what has been written. -/
def flush : Run Unit := do
  let s ← state
  update fun s => { s with written := [], size := 0 }
  if s.written ≠ [] then
    let _ ← perform (Activity.write 1 s.written.reverse.flatten)

/-- How much is gathered before it goes out. -/
def greatestSize : Nat := 4096

/-- Writes to the standard output. -/
def emit (text : Text) : Run Unit := do
  update fun s => { s with written := text :: s.written, size := s.size + text.length }
  if greatestSize ≤ (← state).size then flush

/-- Starts a command whose standard input or output is one end of a pipe. The answer is the other
end and the process. -/
def startCommand (start : Starter) (command : Text) (reads : Bool) : Run (Nat × Nat) := do
  flush
  let others := (← state).targets.map fun (_, t) => t.descriptor
  let (reader, writer) : Nat × Nat ← ask .pipe
  let child ← perform <| Activity.fork do
    others.forM Activity.close
    if reads then
      Activity.close writer
      Activity.move reader 0
    else
      Activity.close reader
      Activity.move writer 1
    start [ofString "sh", ofString "-c", command]
  if reads then
    perform (Activity.close reader)
    return (writer, child)
  else
    perform (Activity.close writer)
    return (reader, child)

/-- Waits for a process, and gives its status. -/
def waitFor (child : Nat) : Run Nat := do
  match ← ask (.wait (some child) false) with
  | .ended _ status => return Shell.statusOf status
  | _ => return Shell.unknown

/-- Runs a command, and gives its status. -/
def runCommand (start : Starter) (command : Text) : Run Nat := do
  flush
  waitFor (← perform (Activity.fork (start [ofString "sh", ofString "-c", command])))

/-- Writes to what a name stands for, and opens it first if need be. -/
def emitTo (start : Starter) (outlet : Outlet) (name text : Text) : Run Unit := do
  match (← state).targets.lookup name with
  | some target =>
    let _ ← perform (Activity.write target.descriptor text)
  | none =>
    if outlet ≠ .command ∧ (name = "/dev/stdout".toList ∨ name = ['-']) then emit text
    else if outlet ≠ .command ∧ name = "/dev/stderr".toList then
      let _ ← perform (Activity.write 2 text)
    else
      let target : Target ← match outlet with
        | .command => do
          let (descriptor, child) ← startCommand start name true
          pure ⟨descriptor, some child⟩
        | _ => do
          match ← ask (.openFile (Shell.toPath name)
              (if outlet = .append then .append else .write)) with
          | .ok descriptor => pure ⟨descriptor, none⟩
          | .error e =>
            jump (.fault ("cannot open \"" ++ Shell.toPath name ++ "\" for output (" ++ e.text ++
              ")"))
      update fun s => { s with targets := (name, target) :: s.targets }
      let _ ← perform (Activity.write target.descriptor text)

/-- Closes what a name stands for, and gives a status. -/
def closeName (name : Text) : Run Int := do
  let s ← state
  update fun s => { s with
    targets := s.targets.filter fun (other, _) => other != name
    sources := s.sources.filter fun (other, _) => other != name }
  let found := ((s.targets.lookup name).map fun t => (t.descriptor, t.child)).or
    ((s.sources.lookup name).map fun t => (t.descriptor, t.child))
  match found with
  | none => return -1
  | some (descriptor, child) =>
    let _ ← ask (.close descriptor)
    match child with
    | some child => return (← waitFor child : Nat)
    | none => return 0

/-! ### Texts -/

/-- The first characters of a replacement, in which an ampersand stands for what was found. -/
def replacement (found : Text) : Text → Text
  | [] => []
  | '\\' :: '&' :: rest => '&' :: replacement found rest
  | '\\' :: '\\' :: rest => '\\' :: replacement found rest
  | '&' :: rest => found ++ replacement found rest
  | c :: rest => c :: replacement found rest

/-- A text with what is found of a pattern replaced, once or everywhere, and how often that was. The
last place where something was found is given. It takes at most so many steps. -/
def replaced (r : Regex) (s : Regex.Subject) (new : Text) (everywhere : Bool) :
    Nat → Nat → Option Nat → Nat × Text
  | 0, low, _ => (0, s.slice low s.text.size)
  | steps + 1, low, last =>
    match r.find? s low with
    | none => (0, s.slice low s.text.size)
    | some (start, found) =>
      let high := found.position
      let front := s.slice low start
      if high = start ∧ last = some start then
        match s.text[start]? with
        | none => (0, front)
        | some c =>
          let (n, rest) := replaced r s new everywhere steps (start + 1) none
          (n, front ++ c :: rest)
      else
        let middle := replacement (s.slice start high) new
        let (n, rest) :=
          if !everywhere then (0, s.slice high s.text.size)
          else if high = start then
            match s.text[start]? with
            | none => (0, [])
            | some c =>
              let (n, rest) := replaced r s new everywhere steps (start + 1) none
              (n, c :: rest)
          else replaced r s new everywhere steps high (some high)
        (n + 1, front ++ middle ++ rest)

/-- The characters of a text from a position on, at most so many. -/
def part (text : Text) (start : Fraction) (length : Option Fraction) : Text :=
  match whole start, length.map whole with
  | some b, none => text.drop (b - 1).toNat
  | some b, some (some n) =>
    let low := max 1 b
    (text.drop (low - 1).toNat).take (b + n - low).toNat
  | _, _ => []

/-! ### Expressions and statements -/

/-- A place that a value can be put into. -/
inductive Place where
  | variable (name : Text)
  | cell (id : Nat) (key : Text)
  | field (index : Int)

/-- The value in a place. -/
def Place.get : Place → Run Datum
  | .variable name => getVariable name
  | .cell id key => Records.cell id key
  | .field index => Records.field index

/-- Puts a value into a place. -/
def Place.set (d : Datum) : Place → Run Unit
  | .variable name => setVariable name d
  | .cell id key => setCell id key d
  | .field index => setField index d

/-- What an operator makes of two numbers. -/
def Arithmetic.apply : Arithmetic → Fraction → Fraction → Fraction
  | .add, x, y => sum x y
  | .subtract, x, y => sum x (opposite y)
  | .multiply, x, y => product x y
  | .divide, x, y => quotient x y
  | .modulo, x, y => remainder x y
  | .raise, x, y => power x y

/-- Whether a comparison holds for an order. -/
def Comparison.holds : Comparison → Ordering → Bool
  | .less, o => o == .lt
  | .lessEqual, o => o != .gt
  | .equal, o => o == .eq
  | .notEqual, o => o != .eq
  | .greater, o => o == .gt
  | .greaterEqual, o => o != .lt

/-- Whether a comparison holds between values. -/
def comparing (c : Comparison) (a b : Datum) : Run Bool := do
  match a.comparable?, b.comparable? with
  | some x, some y =>
    return match order? x y with
      | some o => c.holds o
      | none => c == .notEqual
  | _, _ => return c.holds (compareOfLessAndEq (← textOf a) (← textOf b))

/-- Whether a pattern is found in a text. -/
def isFound (r : Regex) (text : Text) : Bool := (r.find? ⟨text.toArray, false⟩ 0).isSome

/-- How often a loop is gone through before others get their turn. -/
def turn : Nat := 64

/-- Goes on after a loop that is left, and tells whether the loop goes on. -/
def inLoop (body : Run Unit) : Run Bool :=
  tryCatchThe Jump (do body; return true) fun
    | .leave => return false
    | .again => return true
    | j => jump j

mutual

/-- Works out an expression, going down at most so many steps. -/
def eval (start : Starter) : Nat → Expression → Run Datum
  | 0, _ => return .unset
  | steps + 1, e => do
    let number (e : Expression) : Run Fraction := do return (← eval start steps e).toNumber
    match e with
    | .number x => return .number x
    | .text t => return .text t
    | .pattern r => return .ofTruth (isFound r (← textOf (← state).record))
    | .variable name => getVariable name
    | .element .. | .field _ => (← place start steps e).get
    | .assign p operator value =>
      let p ← place start steps p
      let new ← eval start steps value
      let new ← match operator with
        | none => pure new
        | some o => do pure (.number (o.apply (← p.get).toNumber new.toNumber))
      p.set new
      return new
    | .step p up before =>
      let p ← place start steps p
      let old := (← p.get).toNumber
      let new := sum old (if up then one else opposite one)
      p.set (.number new)
      return .number (if before then old else new)
    | .negative e => return .number (opposite (← number e))
    | .positive e => return .number (← number e)
    | .not e => return .ofTruth (!(← eval start steps e).isTrue)
    | .calculate o a b =>
      let x ← number a
      return .number (o.apply x (← number b))
    | .compare c a b =>
      let x ← eval start steps a
      return .ofTruth (← comparing c x (← eval start steps b))
    | .join a b =>
      let x ← textOf (← eval start steps a)
      return .text (x ++ (← textOf (← eval start steps b)))
    | .finds negated subject p =>
      let text ← textOf (← eval start steps subject)
      return .ofTruth (isFound (← pattern start steps p) text != negated)
    | .isIn subscripts name =>
      let key ← subscript start steps subscripts
      let id ← arrayOf name
      return .ofTruth ((← state).cells.contains ⟨id, key⟩)
    | .both a b =>
      if (← eval start steps a).isTrue then return .ofTruth (← eval start steps b).isTrue
      else return .ofTruth false
    | .either a b =>
      if (← eval start steps a).isTrue then return .ofTruth true
      else return .ofTruth (← eval start steps b).isTrue
    | .choice condition yes no =>
      if (← eval start steps condition).isTrue then eval start steps yes else eval start steps no
    | .call name arguments =>
      match (← state).procedures.lookup name with
      | some p => callProcedure start steps p arguments
      | none => callFunction start steps (String.ofList name) arguments
    | .readRecord target isCommand source => readRecord start steps target isCommand source

/-- The place that an expression names. -/
def place (start : Starter) : Nat → Expression → Run Place
  | 0, _ => jump (.fault "no place")
  | steps + 1, e => do
    match e with
    | .variable name => return .variable name
    | .element name subscripts =>
      let key ← subscript start steps subscripts
      return .cell (← arrayOf name) key
    | .field index =>
      return .field ((whole (← eval start steps index).toNumber).getD 0)
    | _ => jump (.fault "no place")

/-- The key that subscripts make up. -/
def subscript (start : Starter) : Nat → List Expression → Run Text
  | 0, _ => return []
  | steps + 1, subscripts => do
    let texts ← subscripts.mapM fun e => do textOf (← eval start steps e)
    return (← heldText "SUBSEP").intercalate texts

/-- The pattern that an expression stands for. -/
def pattern (start : Starter) : Nat → Expression → Run Regex
  | 0, _ => jump (.fault "no pattern")
  | steps + 1, e => do
    match e with
    | .pattern r => return r
    | e =>
      match Regex.ofText true (← textOf (← eval start steps e)) with
      | .ok r => return r
      | .error _ => jump (.fault "regular expression compile failure")

/-- Calls a function of the script. An array goes to it as it is, and what it makes an array of what
nothing is known about is one afterwards. -/
def callProcedure (start : Starter) : Nat → Procedure → List Expression → Run Datum
  | 0, _, _ => return .unset
  | steps + 1, p, arguments => do
    let given ← arguments.mapM fun e => do
      match e with
      | .variable name =>
        match ← slot name with
        | .array id => pure (Slot.array id, none)
        | .unset =>
          if name = "NF".toList then pure (.scalar (← getVariable name), none)
          else pure (.unset, some name)
        | found => pure (found, none)
      | e => do pure (.scalar (← eval start steps e), none)
    let outer := (← state).locals
    let slots := p.parameters.zipIdx.map fun (name, i) =>
      (name, (given[i]?.map (·.1)).getD Slot.unset)
    update fun s => { s with locals := slots }
    let result ← tryCatchThe Jump (do
        execute start steps p.body
        return Datum.unset) fun
      | .returned d => return d
      | j => jump j
    let inner := (← state).locals
    update fun s => { s with locals := outer }
    for (name, (_, origin)) in p.parameters.zip given do
      match origin, inner.lookup name with
      | some variable_, some (.array id) => setSlot variable_ (.array id)
      | _, _ => pure ()
    return result

/-- Calls one of the functions that there always are. -/
def callFunction (start : Starter) : Nat → String → List Expression → Run Datum
  | 0, _, _ => return .unset
  | steps + 1, name, arguments => do
    let text (e : Expression) : Run Text := do textOf (← eval start steps e)
    let number (e : Expression) : Run Fraction := do return (← eval start steps e).toNumber
    let count (n : Nat) : Datum := .number (ofCount n)
    let substitute (everywhere : Bool) (p new target : Expression) : Run Datum := do
      let r ← pattern start steps p
      let new ← text new
      let goal ← place start steps target
      let old ← textOf (← goal.get)
      let (n, found) := replaced r ⟨old.toArray, false⟩ new everywhere (2 * old.length + 2) 0 none
      if n ≠ 0 then goal.set (.text found)
      return count n
    match name, arguments with
    | "length", [] => return count (← textOf (← state).record).length
    | "length", [.variable name] =>
      match ← slot name with
      | .array id => return count (← keysOf id).length
      | _ => return count (← textOf (← getVariable name)).length
    | "length", [e] => return count (← text e).length
    | "substr", [e, b] => return .text (part (← text e) (← number b) none)
    | "substr", [e, b, n] =>
      let t ← text e
      let b ← number b
      return .text (part t b (some (← number n)))
    | "index", [e, what] =>
      let t ← text e
      let what ← text what
      let found := (List.range (t.length + 1)).find? fun i => what.isPrefixOf (t.drop i)
      return count ((found.map (· + 1)).getD 0)
    | "split", e :: .variable name :: rest =>
      let t ← text e
      let sep ← match rest with
        | [] => do separator (← heldText "FS")
        | .pattern r :: _ => pure (.pattern r)
        | sep :: _ => do separator (← text sep)
      let id ← arrayOf name
      clear id
      let parts := sep.split false t
      for (piece, i) in parts.zipIdx 1 do
        setCell id (ofNat i) (.input piece)
      return count parts.length
    | "sub", [p, new] => substitute false p new (.field (.number .zero))
    | "sub", [p, new, target] => substitute false p new target
    | "gsub", [p, new] => substitute true p new (.field (.number .zero))
    | "gsub", [p, new, target] => substitute true p new target
    | "match", [e, p] =>
      let t ← text e
      let r ← pattern start steps p
      let (low, length) : Nat × Int := match r.find? ⟨t.toArray, false⟩ 0 with
        | some (low, found) => (low + 1, found.position - low)
        | none => (0, -1)
      setNumber "RSTART" (ofCount low)
      setNumber "RLENGTH" (.ofInt length)
      return count low
    | "sprintf", all =>
      match ← format start steps all with
      | (text, true) => return .text text
      | (_, false) => jump (.fault "not enough arguments passed to sprintf")
    | "sin", [e] => return .number (byMachine Float.sin (← number e))
    | "cos", [e] => return .number (byMachine Float.cos (← number e))
    | "exp", [e] => return .number (byMachine Float.exp (← number e))
    | "log", [e] => return .number (byMachine Float.log (← number e))
    | "sqrt", [e] => return .number (byMachine Float.sqrt (← number e))
    | "atan2", [a, b] =>
      let y ← number a
      return .number (ofFloat (Float.atan2 (toFloat y) (toFloat (← number b))))
    | "int", [e] =>
      let x ← number e
      return .number ((whole x).elim x fun n => ofRatio n 1)
    | "toupper", [e] => return .text ((← text e).map Char.toUpper)
    | "tolower", [e] => return .text ((← text e).map Char.toLower)
    | "system", [e] => return count (← runCommand start (← text e))
    | "close", [e] => return .number (.ofInt (← closeName (← text e)))
    | "fflush", _ =>
      flush
      return count 0
    | name, _ => jump (.fault ("function " ++ name ++ " never defined"))

/-- Writes values by a format, the first of them. The answer says whether all was there. -/
def format (start : Starter) : Nat → List Expression → Run (Text × Bool)
  | 0, _ => return ([], true)
  | steps + 1, all => do
    match all with
    | [] => jump (.fault "no arguments in call to printf")
    | first :: rest =>
      let form ← textOf (← eval start steps first)
      let shown ← rest.mapM fun e => do
        let d ← eval start steps e
        let isNumber := match d with
          | .number _ => true
          | _ => false
        pure (Shown.mk d.toNumber (← textOf d) isNumber)
      return formatted (form.length + 1) form shown []

/-- Reads a record and puts it somewhere. -/
def readRecord (start : Starter) :
    Nat → Option Expression → Bool → Option Expression → Run Datum
  | 0, _, _, _ => return .unset
  | steps + 1, target, isCommand, source => do
    let keep (text : Text) : Run Unit := do
      match target with
      | none => setRecord text
      | some e => (← place start steps e).set (.input text)
    let answer (n : Int) : Run Datum := return .number (.ofInt n)
    match source with
    | none =>
      match ← nextRecord Activity.unlimited with
      | some text =>
        keep text
        answer 1
      | none => answer 0
    | some e =>
      let name ← textOf (← eval start steps e)
      let opened : Option Source ← match (← state).sources.lookup name with
        | some source => pure (some source)
        | none => do
          if isCommand then
            let (descriptor, child) ← startCommand start name false
            pure (some ⟨descriptor, [], false, some child⟩)
          else if name = ['-'] ∨ name = "/dev/stdin".toList then
            pure (some ⟨0, [], false, none⟩)
          else
            match ← ask (.openFile (Shell.toPath name) .read) with
            | .ok descriptor => pure (some ⟨descriptor, [], false, none⟩)
            | .error _ => pure none
      match opened with
      | none => answer (-1)
      | some source =>
        let (found, source) ← recordFrom source
        update fun s => { s with sources := put name source s.sources }
        match found with
        | none => answer 0
        | some text =>
          keep text
          answer 1

/-- Carries out a statement, going down at most so many steps. -/
def execute (start : Starter) : Nat → Statement → Run Unit
  | 0, _ => return ()
  | steps + 1, statement => do
    match statement with
    | .simple e =>
      let _ ← eval start steps e
    | .block body => body.forM (execute start steps)
    | .print byFormat values target =>
      let (text, isWhole) ←
        if byFormat then format start steps values
        else do
          let line ← match values with
            | [] => do textOf (← state).record
            | values => do
              let style ← heldText "OFMT"
              let texts ← values.mapM fun e => do return (← eval start steps e).toText style
              pure ((← heldText "OFS").intercalate texts)
          pure (line ++ (← heldText "ORS"), true)
      match target with
      | none => emit text
      | some (outlet, e) => emitTo start outlet (← textOf (← eval start steps e)) text
      if !isWhole then jump (.fault "not enough arguments passed to printf")
    | .choice condition yes no =>
      if (← eval start steps condition).isTrue then execute start steps yes
      else execute start steps no
    | .loop testsFirst condition step body =>
      repeatWhile start steps testsFirst condition step body
    | .each name array body =>
      let id ← arrayOf array
      let keys ← keysOf id
      repeatFor start steps name body keys
    | .next => jump .next
    | .nextInput => jump .nextInput
    | .exit status =>
      match status with
      | some e =>
        let n := word (← eval start steps e).toNumber
        update fun s => { s with status := (n % 256).toNat }
      | none => pure ()
      jump .exit
    | .leave => jump .leave
    | .again => jump .again
    | .giveBack value =>
      match value with
      | some e => jump (.returned (← eval start steps e))
      | none => jump (.returned .unset)
    | .delete name subscripts =>
      let id ← arrayOf name
      if subscripts.isEmpty then clear id
      else
        let key ← subscript start steps subscripts
        update fun s => { s with cells := s.cells.erase ⟨id, key⟩ }

/-- Repeats a statement as long as a condition holds. -/
def repeatWhile (start : Starter) :
    Nat → Bool → Expression → Statement → Statement → Run Unit
  | 0, _, _, _, _ => return ()
  | steps + 1, testsFirst, condition, step, body => do
    if steps % turn = 0 then ask .pause
    if testsFirst then
      if !(← eval start steps condition).isTrue then return
    if ← inLoop (execute start steps body) then
      execute start steps step
      repeatWhile start steps true condition step body

/-- Repeats a statement for some keys. -/
def repeatFor (start : Starter) : Nat → Text → Statement → List Text → Run Unit
  | 0, _, _, _ => return ()
  | _ + 1, _, _, [] => return ()
  | steps + 1, name, body, key :: rest => do
    if steps % turn = 0 then ask .pause
    setVariable name (.input key)
    if ← inLoop (execute start steps body) then repeatFor start steps name body rest

end

/-! ### Scripts -/

/-- Whether a rule holds for the record. -/
def Rule.holds (start : Starter) (number : Nat) (r : Rule) : Run Bool := do
  let isTrue (e : Expression) : Run Bool := do
    return (← eval start Activity.unlimited e).isTrue
  match r.occasion with
  | .start | .finish => return false
  | .always => return true
  | .whenever e => isTrue e
  | .between first last =>
    let isOngoing := (← state).ongoing.contains number
    if isOngoing || (← isTrue first) then
      let others := (← state).ongoing.filter (· != number)
      let ends ← isTrue last
      update fun s => { s with ongoing := if ends then others else number :: others }
      return true
    else return false

/-- Does what a rule says. -/
def Rule.act (start : Starter) (r : Rule) : Run Unit :=
  execute start Activity.unlimited (r.body.getD (.print false [] none))

/-- Goes through the records, at most so many. -/
def throughRecords (start : Starter) (rules : List Rule) : Nat → Run Unit
  | 0 => return ()
  | most + 1 => do
    match ← nextRecord Activity.unlimited with
    | none => return ()
    | some text =>
      setRecord text
      tryCatchThe Jump
        (for (r, number) in rules.zipIdx do
          if ← r.holds start number then r.act start)
        fun
          | .next => return ()
          | .nextInput => update fun s => { s with input := none }
          | j => jump j
      throughRecords start rules most

/-- Runs a script, and gives its status. -/
def Script.run (start : Starter) (s : Script) : Run Nat := do
  let isStart (r : Rule) : Bool := match r.occasion with
    | .start => true
    | _ => false
  let isFinish (r : Rule) : Bool := match r.occasion with
    | .finish => true
    | _ => false
  let others := s.rules.filter fun r => !isStart r
  let untilExit (work : Run Unit) : Run Unit := tryCatchThe Jump work fun
    | .exit => return ()
    | j => jump j
  tryCatchThe Jump
    (do
      let goesOn ← tryCatchThe Jump
        (do
          (s.rules.filter isStart).forM fun r => r.act start
          if others.isEmpty then return false
          throughRecords start others Activity.unlimited
          return true)
        fun
          | .exit => return true
          | j => jump j
      if goesOn then untilExit ((s.rules.filter isFinish).forM fun r => r.act start))
    fun
      | .fault message => do
        flush
        let _ ← perform (refuse "awk" ("run time error: " ++ message) Shell.misused)
        update fun s => { s with status := Shell.misused }
      | _ => return ()
  flush
  for (name, _) in (← state).targets.reverse do
    let _ ← closeName name
  return (← state).status

/-- What is known before a script starts. -/
def State.initial (s : Script) (words : List Text) (environment : List (Text × Text)) : State :=
  let text (t : String) : Slot := .scalar (.text t.toList)
  let keyed (id : Nat) (all : List (Text × Text)) : List (CellName × (Nat × Datum)) :=
    all.zipIdx.map fun ((key, value), i) => (⟨id, key⟩, (i, .input value))
  let arguments := (words.zipIdx).map fun (w, i) => (ofNat i, w)
  let zero : Slot := .scalar (.number .zero)
  { procedures := s.procedures
    globals := [("FS".toList, text " "), ("OFS".toList, text " "), ("ORS".toList, text "\n"),
      ("RS".toList, text "\n"), ("NR".toList, zero), ("FNR".toList, zero),
      ("SUBSEP".toList, text "\x1c"), ("CONVFMT".toList, text "%.6g"),
      ("OFMT".toList, text "%.6g"), ("RSTART".toList, zero),
      ("RLENGTH".toList, .scalar (.number (.ofInt (-1)))),
      ("ARGC".toList, .scalar (.number (ofCount words.length))), ("ARGV".toList, .array 0),
      ("ENVIRON".toList, .array 1)]
    locals := []
    cells := .ofList (keyed 0 arguments ++ keyed 1 environment)
    arrays := 2
    elements := words.length + environment.length
    record := .unset
    fields := []
    operand := 1
    input := none
    isOpened := false
    sources := []
    targets := []
    written := []
    size := 0
    ongoing := []
    status := Shell.success }

/-- Runs the script that its arguments give on the inputs that they name. -/
def awk (start : Starter) (words : List Text) : Activity Nat := do
  match OptionTable.read ⟨[], ['F', 'v', 'f', 'W'], []⟩ false (words.length + 1) words with
  | .error message => refuse "awk" message Shell.misused
  | .ok o =>
    let (files, status) ← if o.has 'f' then readEach "awk" (o.values 'f') else pure ([], 0)
    if status ≠ Shell.success then return Shell.misused
    let (text, operands) := if o.has 'f' then
        ((files.map fun (_, text) => text ++ ['\n']).flatten, o.operands)
      else (o.operands.headD [], o.operands.tail)
    if !o.has 'f' && o.operands.isEmpty then
      Activity.complain (ofString "Usage: awk [Options] [Program] [file ...]") Shell.misused
    else
      match Script.ofText? text with
      | none => refuse "awk" "line 1: syntax error" Shell.misused
      | some script =>
        let initial := State.initial script (ofString "awk" :: operands)
          (← Activity.environment)
        let prepare : Run Unit := do
          for word in o.values 'v' do
            match assignment? word with
            | some (name, value) => setVariable name (givenValue value)
            | none => pure ()
          match o.value? 'F' with
          | some mark => setVariable "FS".toList (givenValue mark)
          | none => pure ()
        let work : Run Nat := do
          prepare
          script.run start
        let (result, _) ← (work.run).run initial
        match result with
        | .ok status => return status
        | .error _ => return Shell.misused

end LspSession.Utility.Records
