import LspSession.Host.Shell.Arithmetic
import LspSession.Host.Utility.Copy
import LspSession.Host.Utility.Regex

/-!
# `LspSession.Host.Utility.Stream`: edits of lines

A script of edits is applied to each line of the inputs. It is kept as a row of steps, so that a
branch is the number of a step, and each step can be limited to some lines by addresses. Lines can
also be written to files, and files can be read: what they hold is read before the first edit, and
what is written to them is gathered up to the end.
-/

set_option autoImplicit false

namespace LspSession.Utility

open Shell Shell.Activity

/-! ### Scripts of edits -/

/-- Which lines a step is for. -/
inductive Address where
  | line (number : Nat)
  | last
  /-- Lines in which an expression is found, or the one that was used last. -/
  | found (r : Option Regex) (foldsCase : Bool)
  /-- Every so many lines from one on. -/
  | every (first step : Nat)
  /-- So many lines after the first one of a range. -/
  | after (count : Nat)
  /-- The next line of a range whose number is a multiple of one. -/
  | multiple (n : Nat)
  deriving DecidableEq, Repr

/-- A part of what is put in the place of a text. -/
inductive Insertion where
  | char (c : Char)
  /-- What was found, or a group of it. -/
  | group (number : Nat)
  /-- From here on letters are changed: all of them or only the next one, to capital letters or
  small ones, or not any more. -/
  | letters (mode : Char)
  deriving DecidableEq, Repr

/-- What is put in the place of what. -/
structure Substitution where
  pattern : Option Regex
  foldsCase : Bool
  replacement : List Insertion
  /-- Which of the places where the pattern is found counts first. -/
  nth : Nat
  /-- Whether all places after that count too. -/
  all : Bool
  prints : Bool
  /-- The file that a changed line is written to. -/
  target : Option Text
  deriving DecidableEq, Repr

/-- An edit. -/
inductive Edit where
  /-- The start of a block. -/
  | opening
  | closing
  | label (name : Text)
  | substitute (s : Substitution)
  | translate (table : List (Char × Char))
  | append (text : Text)
  | insert (text : Text)
  | change (text : Text)
  /-- Writes what a file holds after the line. -/
  | readFile (path : Text)
  /-- Writes the line to a file. -/
  | writeFile (path : Text)
  /-- Goes to a label, or to the end of the script. -/
  | branch (name : Text)
  /-- The same if something has been substituted, or if nothing has been. -/
  | branchIf (substituted : Bool) (name : Text)
  | quit (prints : Bool) (status : Nat)
  /-- An edit without anything more to say. -/
  | plain (letter : Char)
  deriving DecidableEq, Repr

/-- A step of a script. -/
structure Step where
  first : Option Address
  second : Option Address
  negated : Bool
  edit : Edit
  deriving DecidableEq, Repr

namespace Script

/-- Reads a part of a script. What is wrong is told with what is left of the script. -/
abbrev Reader := StateT Text (Except (String × Nat))

/-- Finds fault with a script. -/
def fault {α : Type} (message : String) : Reader α := do throw (message, (← get).length)

/-- Skips characters of a kind. -/
def skip (kind : Char → Bool) : Reader Unit := modify (List.dropWhile kind)

/-- Takes characters of a kind. -/
def takeWhile (kind : Char → Bool) : Reader Text := do
  let found := (← get).takeWhile kind
  modify (List.drop found.length)
  return found

/-- Takes the next character if it is a certain one. -/
def takeIf (c : Char) : Reader Bool := do
  match ← get with
  | d :: rest =>
    if c = d then
      set rest
      return true
    else return false
  | [] => return false

/-- Takes a text up to a mark. A backslash keeps a mark from ending the text. -/
def delimited (mark : Char) (isPattern : Bool) : Nat → Text → Text → Option (Text × Text)
  | 0, _, _ => none
  | _ + 1, _, [] => none
  | steps + 1, before, c :: rest =>
    if c = mark then some (before.reverse, rest)
    else if c = '\\' then
      match rest with
      | d :: rest =>
        if d = mark then delimited mark isPattern steps (d :: before) rest
        else if d = 'n' ∧ isPattern then delimited mark isPattern steps ('\n' :: before) rest
        else if d = 't' ∧ isPattern then delimited mark isPattern steps ('\t' :: before) rest
        else delimited mark isPattern steps (d :: c :: before) rest
      | [] => none
    else delimited mark isPattern steps (c :: before) rest

/-- Takes a text up to a mark. -/
def takeDelimited (mark : Char) (isPattern : Bool) (message : String) : Reader Text := do
  let text ← get
  match delimited mark isPattern (text.length + 1) [] text with
  | some (found, rest) =>
    set rest
    return found
  | none =>
    set ([] : Text)
    fault message

/-- Reads an expression. An empty one stands for the one that was used last. -/
def expression (extended : Bool) (text : Text) : Reader (Option Regex) := do
  if text = [] then return none
  match Regex.ofText extended text with
  | .ok r => return some r
  | .error message => fault message

/-- Reads an address, if there is one. -/
def address? (extended isSecond : Bool) : Reader (Option Address) := do
  match ← get with
  | c :: rest =>
    if isDigit c then
      let n := valueIn 10 (← takeWhile isDigit)
      if ← takeIf '~' then
        return some (.every n (valueIn 10 (← takeWhile isDigit)))
      else return some (.line n)
    else if c = '$' then
      set rest
      return some .last
    else if c = '+' ∧ isSecond then
      set rest
      return some (.after (valueIn 10 (← takeWhile isDigit)))
    else if c = '~' ∧ isSecond then
      set rest
      return some (.multiple (valueIn 10 (← takeWhile isDigit)))
    else if c = '/' ∨ c = '\\' then
      set rest
      let mark ← if c = '/' then pure '/' else do
        match ← get with
        | mark :: rest =>
          set rest
          pure mark
        | [] => fault "unexpected ,"
      let text ← takeDelimited mark true "unterminated address regex"
      let folds ← takeIf 'I'
      return some (.found (← expression extended text) folds)
    else return none
  | [] => return none

/-- The insertions that a replacement is made of, found in at most so many steps. -/
def insertions : Nat → Text → List Insertion
  | 0, _ => []
  | _ + 1, [] => []
  | steps + 1, '\\' :: c :: rest =>
    let first : Insertion :=
      if isDigit c then .group (c.toNat - 48)
      else if ['U', 'L', 'u', 'l', 'E'].contains c then .letters c
      else if c = 'n' then .char '\n'
      else if c = 't' then .char '\t'
      else .char c
    first :: insertions steps rest
  | steps + 1, '&' :: rest => .group 0 :: insertions steps rest
  | steps + 1, c :: rest => .char c :: insertions steps rest

/-- Takes the path of a file, which goes up to the end of the line. -/
def takePath : Reader Text := do
  skip isBlank
  match ← takeWhile (· != '\n') with
  | [] => fault "missing filename in r/R/w/W commands"
  | path => return path

/-- Reads the flags of a substitution, in at most so many steps. -/
def flags : Nat → Substitution → Reader Substitution
  | 0, s => return s
  | steps + 1, s => do
    match ← get with
    | c :: rest =>
      if c = 'g' then
        set rest
        flags steps { s with all := true }
      else if c = 'p' then
        set rest
        flags steps { s with prints := true }
      else if c = 'w' then
        set rest
        return { s with target := some (← takePath) }
      else if c = 'i' ∨ c = 'I' then
        set rest
        flags steps { s with foldsCase := true }
      else if isDigit c then
        let n := valueIn 10 (← takeWhile isDigit)
        if n = 0 then fault "number option to \x60s' command may not be zero"
        flags steps { s with nth := n }
      else if c = ';' ∨ c = '\n' ∨ c = '\x7d' ∨ c = '#' ∨ isBlank c then return s
      else
        set rest
        fault "unknown option to \x60s'"
    | [] => return s

/-- Takes the text that an edit adds: the rest of the line, and more lines behind backslashes. The
characters before are given in reverse. -/
def addedText : Nat → Text → Text → Text × Text
  | 0, before, rest => (before.reverse, rest)
  | _ + 1, before, [] => (before.reverse, [])
  | _ + 1, before, '\n' :: rest => (before.reverse, rest)
  | steps + 1, before, '\\' :: c :: rest => addedText steps (c :: before) rest
  | steps + 1, before, c :: rest => addedText steps (c :: before) rest

/-- Takes the text that an edit adds. -/
def takeAdded : Reader Text := do
  skip isBlank
  if ← takeIf '\\' then
    let rest := (← get).dropWhile isBlank
    if rest.head? = some '\n' then set rest.tail
  let text ← get
  if text = [] then fault "expected \\ after \x60a', \x60c' or \x60i'"
  let (found, rest) := addedText (text.length + 1) [] text
  set rest
  return found

/-- Takes the name of a label. -/
def takeLabel : Reader Text := do
  skip isBlank
  takeWhile fun c => c != '\n' && c != ';' && !isBlank c && c != '\x7d'

/-- Reads an edit that starts with a letter. -/
def edit (extended : Bool) (letter : Char) : Reader Edit := do
  match letter with
  | '\x7b' => return .opening
  | '\x7d' => return .closing
  | ':' =>
    let name ← takeLabel
    if name = [] then fault "\":\" lacks a label"
    return .label name
  | 's' =>
    match ← get with
    | [] => fault "unterminated \x60s' command"
    | mark :: rest =>
      set rest
      let pattern ← takeDelimited mark true "unterminated \x60s' command"
      let replacement ← takeDelimited mark false "unterminated \x60s' command"
      let s ← flags (← get).length
        ⟨none, false, insertions (replacement.length + 1) replacement, 1, false, false, none⟩
      return .substitute { s with pattern := ← expression extended pattern }
  | 'y' =>
    match ← get with
    | [] => fault "unterminated \x60y' command"
    | mark :: rest =>
      set rest
      let source ← takeDelimited mark true "unterminated \x60y' command"
      let target ← takeDelimited mark true "unterminated \x60y' command"
      let plain (text : Text) : Text := (insertions (text.length + 1) text).filterMap fun
        | .char c => some c
        | .group 0 => some '&'
        | _ => none
      let (source, target) := (plain source, plain target)
      if source.length ≠ target.length then
        fault "strings for \x60y' command are different lengths"
      return .translate (source.zip target)
  | 'a' => return .append (← takeAdded)
  | 'i' => return .insert (← takeAdded)
  | 'c' => return .change (← takeAdded)
  | 'r' => return .readFile (← takePath)
  | 'w' => return .writeFile (← takePath)
  | 'b' => return .branch (← takeLabel)
  | 't' => return .branchIf true (← takeLabel)
  | 'T' => return .branchIf false (← takeLabel)
  | 'q' | 'Q' =>
    skip isBlank
    return .quit (letter == 'q') (valueIn 10 (← takeWhile isDigit))
  | letter =>
    if ['p', 'P', 'd', 'D', 'n', 'N', 'h', 'H', 'g', 'G', 'x', '=', 'l', 'z'].contains letter then
      return .plain letter
    else fault ("unknown command: \x60" ++ String.singleton letter ++ "'")

/-- Reads steps inside so many blocks, at most so many. -/
def steps (extended : Bool) : Nat → Nat → Reader (List Step)
  | 0, _ => return []
  | times + 1, depth => do
    skip fun c => isBlank c || c == '\n' || c == ';'
    match ← get with
    | [] => if depth ≠ 0 then throw ("unmatched \x60\x7b'", 0) else return []
    | '#' :: _ =>
      skip (· != '\n')
      steps extended times depth
    | _ =>
      let first ← address? extended false
      skip isBlank
      let second ← if first.isSome then do
          if ← takeIf ',' then
            skip isBlank
            match ← address? extended true with
            | some second => pure (some second)
            | none => fault "unexpected \x60,'"
          else pure none
        else pure none
      skip isBlank
      let negated ← takeIf '!'
      skip fun c => isBlank c || c == '!'
      match ← get with
      | [] => fault "missing command"
      | letter :: rest =>
        set rest
        let found ← edit extended letter
        if found = .closing ∧ depth = 0 then fault "unexpected \x60\x7d'"
        let depth := match found with
          | .opening => depth + 1
          | .closing => depth - 1
          | _ => depth
        let added := match found with
          | .append _ | .insert _ | .change _ => true
          | _ => false
        if found ≠ .opening ∧ found ≠ .closing ∧ !added then
          skip isBlank
          match ← get with
          | c :: _ =>
            if c ≠ ';' ∧ c ≠ '\n' ∧ c ≠ '\x7d' ∧ c ≠ '#' then
              modify List.tail
              fault "extra characters after command"
          | [] => pure ()
        return ⟨first, second, negated, found⟩ :: (← steps extended times depth)

/-- Reads a script, or says what is wrong with it and after how many characters. -/
def ofText (extended : Bool) (text : Text) : Except (String × Nat) (Array Step) := do
  match (steps extended (text.length + 1) 0).run text with
  | .ok (found, _) => return found.toArray
  | .error ("unmatched \x60\x7b'", _) => throw ("unmatched \x60\x7b'", 0)
  | .error (message, left) => throw (message, text.length - left)

/-- The files that a script reads. -/
def sources (script : Array Step) : List Text :=
  script.toList.filterMap fun step =>
    match step.edit with
    | .readFile path => some path
    | _ => none

/-- The files that a script writes. -/
def targets (script : Array Step) : List Text :=
  (script.toList.filterMap fun step =>
    match step.edit with
    | .writeFile path => some path
    | .substitute e => e.target
    | _ => none).eraseDups

/-! ### Running scripts -/

/-- What a script works on. -/
structure State where
  /-- The line at work. -/
  line : Text
  /-- The text that has been put aside. -/
  aside : Text
  number : Nat
  rest : List Text
  /-- What is written after the line. -/
  appended : List Text
  /-- What has been written, last first. -/
  written : List Text
  substituted : Bool
  /-- The expression that was used last. -/
  used : Option Regex
  /-- The steps that are inside their range, each with the line where it ends if that is known. -/
  ranges : List (Nat × Option Nat)
  /-- The status, once the script has come to its end. -/
  ended : Option Nat
  /-- Whether lines are only written when they are asked for. -/
  silent : Bool
  /-- What ends a line. -/
  mark : Char
  /-- What files hold. -/
  sources : List (Text × Text)
  /-- What has been written to files, last first. -/
  targets : List (Text × Text)

namespace State

/-- Writes a line. -/
def write (s : State) (line : Text) : State :=
  { s with written := (line ++ [s.mark]) :: s.written }

/-- Writes the line at work to a file. -/
def writeTo (s : State) (path : Text) : State :=
  if path = "/dev/stdout".toList then s.write s.line
  else { s with targets := (path, s.line ++ [s.mark]) :: s.targets }

/-- Whether an expression is found in the line at work. -/
def finds (s : State) (r : Option Regex) (foldsCase : Bool) : State × Bool :=
  match r.or s.used with
  | none => (s, false)
  | some r => ({ s with used := some r }, (r.find? ⟨s.line.toArray, foldsCase⟩ 0).isSome)

/-- Whether an address is that of the line at work. -/
def isAt (s : State) : Address → State × Bool
  | .line n => (s, s.number == n)
  | .last => (s, s.rest.isEmpty)
  | .found r foldsCase => s.finds r foldsCase
  | .every first step =>
    (s, if step = 0 then s.number == first
      else first ≤ s.number && (s.number - first) % step == 0)
  | .after _ | .multiple _ => (s, false)

/-- Whether a step is for the line at work. -/
def applies (s : State) (index : Nat) (step : Step) : State × Bool :=
  match step.first, step.second with
  | none, _ => (s, true)
  | some first, none => s.isAt first
  | some first, some second =>
    match s.ranges.lookup index with
    | some stop =>
      let leave (s : State) : State := { s with ranges := s.ranges.filter fun (i, _) => i != index }
      match stop with
      | some n =>
        if s.number < n then (s, true)
        else if s.number = n then (leave s, true)
        else
          let s := leave s
          s.isAt first
      | none =>
        let (s, ends) := s.isAt second
        (if ends then leave s else s, true)
    | none =>
      let (s, starts) :=
        if first = .line 0 ∧ s.number = 1 then (s, true) else s.isAt first
      if !starts then (s, false)
      else
        let enter (stop : Option Nat) : State := { s with ranges := (index, stop) :: s.ranges }
        match second with
        | .line n => (if s.number < n then enter (some n) else s, true)
        | .after n => (if n = 0 then s else enter (some (s.number + n)), true)
        | .multiple n =>
          let stop := if n = 0 then s.number else (s.number + n - 1) / n * n
          (if s.number < stop then enter (some stop) else s, true)
        | second =>
          if first = .line 0 then
            let (s, ends) := s.isAt second
            (if ends then s else { s with ranges := (index, none) :: s.ranges }, true)
          else (enter none, true)

/-- Changes a letter as it is asked for. -/
def letter (mode : Option Char) (c : Char) : Char :=
  match mode with
  | some 'U' | some 'u' => c.toUpper
  | some 'L' | some 'l' => c.toLower
  | _ => c

/-- What is put in the place of a text that was found. -/
def replacement (subject : Regex.Subject) (low : Nat) (found : Regex.Found) :
    List Insertion → Option Char → Option Char → Text
  | [], _, _ => []
  | .letters mode :: rest, all, next =>
    if mode = 'E' then replacement subject low found rest none none
    else if mode = 'U' ∨ mode = 'L' then replacement subject low found rest (some mode) next
    else replacement subject low found rest all (some mode)
  | .char c :: rest, all, next =>
    letter (next.or all) c :: replacement subject low found rest all none
  | .group n :: rest, all, next =>
    let text := if n = 0 then subject.slice low found.position
      else match found.groups.lookup n with
        | some (low, high) => subject.slice low high
        | none => []
    let shown := match text with
      | c :: more => letter (next.or all) c :: more.map (letter all)
      | [] => []
    shown ++ replacement subject low found rest all (if text = [] then next else none)

/-- Puts a text in the place of what is found in a line, from a place on, at most so many times. The
answer says too whether anything was found. -/
def replaceFrom (s : Substitution) (r : Regex) (subject : Regex.Subject) :
    Nat → Nat → Nat → Option Nat → Text × Bool
  | 0, _, place, _ => (subject.slice place subject.text.size, false)
  | times + 1, nth, place, lastEnd =>
    match r.find? subject place with
    | none => (subject.slice place subject.text.size, false)
    | some (low, found) =>
      let high := found.position
      let before := subject.slice place low
      let isEmptyAgain := low = high ∧ lastEnd = some low
      let counts := !isEmptyAgain && (nth == s.nth || (s.all && s.nth ≤ nth))
      let new := if counts then replacement subject low found s.replacement none none
        else subject.slice low high
      let step := if low = high then subject.slice low (low + 1) else []
      let next := if low = high then low + 1 else high
      if counts ∧ !s.all then (before ++ new ++ subject.slice high subject.text.size, true)
      else if subject.text.size < next then (before ++ new, counts)
      else
        let (rest, more) := replaceFrom s r subject times (if isEmptyAgain then nth else nth + 1)
          next (some high)
        (before ++ new ++ step ++ rest, counts || more)

/-- Carries out a substitution. -/
def substitute (s : State) (e : Substitution) : State :=
  match e.pattern.or s.used with
  | none => s
  | some r =>
    let s := { s with used := some r }
    let (line, found) :=
      replaceFrom e r ⟨s.line.toArray, e.foldsCase⟩ (s.line.length + 2) 1 0 none
    if !found then s
    else
      let s := { s with line := line, substituted := true }
      let s := if e.prints then s.write line else s
      match e.target with
      | some path => s.writeTo path
      | none => s

/-- Takes the next line, if there is one. -/
def advance? (s : State) : Option State :=
  match s.rest with
  | [] => none
  | line :: rest => some { s with line := line, rest := rest, number := s.number + 1 }

/-- Writes what is to follow a line. -/
def flush (s : State) : State :=
  { s with written := s.appended.reverse ++ s.written, appended := [] }

/-- Ends the work on a line. -/
def finishLine (s : State) : State := (if s.silent then s else s.write s.line).flush

/-- A line as it is shown with all its characters, without a limit on its length. -/
def listed (line : Text) : Text :=
  let char (c : Char) : Text :=
    match c with
    | '\\' => ['\\', '\\']
    | '\t' => ['\\', 't']
    | '\n' => ['\\', 'n']
    | '\r' => ['\\', 'r']
    | '\x07' => ['\\', 'a']
    | '\x08' => ['\\', 'b']
    | '\x0b' => ['\\', 'v']
    | '\x0c' => ['\\', 'f']
    | c =>
      if ' ' ≤ c && c ≤ '~' then [c]
      else
        let digits := Nat.toDigits 8 c.toNat
        '\\' :: List.replicate (3 - digits.length) '0' ++ digits
  line.flatMap char ++ ['$']

end State

/-- What follows a step. -/
inductive Next where
  | step (index : Nat)
  /-- The work on the line is over. -/
  | lineEnd
  /-- It is over, and the line is not written. -/
  | dropped
  /-- The script starts again without another line. -/
  | again
  deriving DecidableEq, Repr

/-- The step that closes the block that one opens. -/
def closingStep (script : Array Step) (index : Nat) : Nat :=
  let depths := (script.toList.drop index).zipIdx.foldl
    (fun ((depth, found) : Nat × Option Nat) (step, i) =>
      match found, step.edit with
      | some _, _ => (depth, found)
      | none, .opening => (depth + 1, none)
      | none, .closing => (depth - 1, if depth = 1 then some (index + i) else none)
      | none, _ => (depth, none)) (0, none)
  depths.2.getD script.size

/-- The step that a branch leads to. -/
def labelStep (script : Array Step) (name : Text) : Nat :=
  (script.findIdx? fun step => step.edit == .label name).getD script.size

/-- Carries out an edit that has nothing more to say. -/
def State.perform (s : State) (index : Nat) (letter : Char) : State × Next :=
  let goOn (s : State) : State × Next := (s, .step (index + 1))
  let firstLine := s.line.takeWhile (· != '\n')
  match letter with
  | 'p' => goOn (s.write s.line)
  | 'P' => goOn (s.write firstLine)
  | 'd' => (s, .dropped)
  | 'D' =>
    if s.line.contains '\n' then ({ s with line := s.line.drop (firstLine.length + 1) }, .again)
    else (s, .dropped)
  | 'n' =>
    if s.rest = [] then ({ s with ended := some success }, if s.silent then .dropped else .lineEnd)
    else goOn ((s.finishLine.advance?).getD s)
  | 'N' =>
    match s.flush.advance? with
    | some next => goOn { next with line := s.line ++ '\n' :: next.line }
    | none => ({ s with ended := some success }, .lineEnd)
  | 'h' => goOn { s with aside := s.line }
  | 'H' => goOn { s with aside := s.aside ++ '\n' :: s.line }
  | 'g' => goOn { s with line := s.aside }
  | 'G' => goOn { s with line := s.line ++ '\n' :: s.aside }
  | 'x' => goOn { s with line := s.aside, aside := s.line }
  | '=' => goOn (s.write (ofNat s.number))
  | 'l' => goOn (s.write (State.listed s.line))
  | 'z' => goOn { s with line := [] }
  | _ => goOn s

/-- Carries out a step. -/
def State.step (script : Array Step) (s : State) (index : Nat) (step : Step) : State × Next :=
  let (s, applies) := s.applies index step
  let goOn (s : State) : State × Next := (s, .step (index + 1))
  if applies == step.negated then
    match step.edit with
    | .opening => (s, .step (closingStep script index))
    | _ => goOn s
  else
    match step.edit with
    | .opening | .closing | .label _ => goOn s
    | .substitute e => goOn (s.substitute e)
    | .translate table => goOn { s with line := s.line.map fun c => (table.lookup c).getD c }
    | .append text => goOn { s with appended := s.appended ++ [text ++ ['\n']] }
    | .insert text => goOn (s.write text)
    | .change text =>
      let inside := (s.ranges.lookup index).isSome && !step.negated
      (if inside then s else s.write text, .dropped)
    | .readFile path =>
      goOn { s with appended := s.appended ++ [(s.sources.lookup path).getD []] }
    | .writeFile path => goOn (s.writeTo path)
    | .branch name => (s, .step (labelStep script name))
    | .branchIf substituted name =>
      if s.substituted = substituted then
        ({ s with substituted := false }, .step (labelStep script name))
      else goOn { s with substituted := false }
    | .quit prints status =>
      ({ s with ended := some status }, if prints then .lineEnd else .dropped)
    | .plain letter => s.perform index letter

/-- How many steps are taken at most for all lines. -/
def greatestSteps : Nat := 100000000

/-- Runs a script on the line at work and on all lines after it, in at most so many steps. -/
def runFrom (script : Array Step) : Nat → Nat → State → State
  | 0, _, s => s
  | times + 1, index, s =>
    let nextLine (s : State) : State :=
      match s.ended, s.advance? with
      | none, some next => runFrom script times 0 { next with substituted := false }
      | _, _ => s
    match script[index]? with
    | none => nextLine s.finishLine
    | some step =>
      match s.step script index step with
      | (s, .step index) => runFrom script times index s
      | (s, .lineEnd) => nextLine s.finishLine
      | (s, .dropped) => nextLine s.flush
      | (s, .again) => runFrom script times 0 s.flush

/-- What comes of a script. -/
structure Result where
  written : Text
  /-- What is written to files, last first. -/
  targets : List (Text × Text)
  status : Nat

/-- What comes of a script for a text. A text whose last line does not end is written so too. -/
def run (script : Array Step) (silent : Bool) (mark : Char) (sources : List (Text × Text))
    (text : Text) : Result :=
  match partsOf mark text with
  | [] => ⟨[], [], success⟩
  | line :: rest =>
    let s := runFrom script greatestSteps 0
      ⟨line, [], 1, rest, [], [], false, none, [], none, silent, mark, sources, []⟩
    let written := s.written.reverse.flatten
    let whole := text.getLast? = some mark
    ⟨if whole then written else written.dropLast, s.targets, s.ended.getD success⟩

end Script

/-- Writes a text to a file, whatever it held before. -/
def overwrite (path text : Text) : Activity Unit := do
  match ← call (.openFile (toPath path) .write) with
  | .ok descriptor =>
    let _ ← write descriptor text
    close descriptor
  | .error e =>
    let _ ← refuse "sed" ("couldn't open file " ++ toPath path ++ ": " ++ e.text) failed

/-- The script that options and operands give, and the paths that are left. -/
def givenScript (o : Options) : Activity (Option (Option Text × List Text)) := do
  let mut pieces : List Text := []
  for (letter, value) in o.found do
    if letter = "e" then pieces := pieces ++ [value]
    if letter = "f" then
      match ← readInput value with
      | .ok text => pieces := pieces ++ [if text.getLast? = some '\n' then text.dropLast else text]
      | .error e =>
        let _ ← refuse "sed" ("couldn't open file " ++ toPath value ++ ": " ++ e.text) failed
        return none
  return some (match pieces, o.operands with
    | [], script :: paths => (some script, paths)
    | [], [] => (none, [])
    | pieces, paths => (some (['\n'].intercalate pieces), paths))

/-- Applies a script to inputs, all together or one by one. -/
def applyEdits (o : Options) (script : Array Step) (paths : List Text) : Activity Nat := do
  let sources ← (Script.sources script).mapM fun path => do
    return (path, (← readInput path).toOption.getD [])
  let mark := if o.has 'z' then '\x00' else '\n'
  let run := Script.run script (o.has 'n') mark sources
  let (found, trouble) ← readEach "sed" paths
  let inPlace := o.has 'i'
  let inputs := if inPlace || o.has 's' then found else [([], found.flatMap (·.2))]
  let mut status := if trouble = success then success else misused
  let mut targets : List (Text × Text) := []
  for (path, text) in inputs do
    let result := run text
    targets := result.targets ++ targets
    if inPlace then overwrite path result.written
    else status := ← printing "sed" result.written status
    status := max status result.status
  for path in Script.targets script do
    if path ≠ "/dev/stdout".toList then
      overwrite path ((targets.reverse.filter fun (other, _) => other == path).flatMap (·.2))
  return status

/-- Applies a script of edits to the lines of inputs. -/
def sed (words : List Text) : Activity Nat :=
  let words := words.map fun word => if "-i".toList.isPrefixOf word then "-i".toList else word
  withOptions "sed" ⟨['n', 'E', 'r', 's', 'u', 'z', 'i', '!'], ['e', 'f'],
    [("quiet", 'n'), ("silent", 'n'), ("regexp-extended", 'E'), ("expression", 'e'), ("file", 'f'),
      ("in-place", 'i'), ("separate", 's'), ("null-data", 'z'), ("unbuffered", 'u'),
      ("posix", '!')]⟩ words failed fun o => do
    match ← givenScript o with
    | none => return failed
    | some (none, _) =>
      complain (ofString ("Usage: sed [OPTION]... \x7bscript-only-if-no-other-script\x7d " ++
        "[input-file]...")) failed
    | some (some script, paths) =>
      let silent := "#n\n".toList.isPrefixOf script
      match Script.ofText (o.has 'E' || o.has 'r') script with
      | .error (message, place) =>
        refuse "sed" ("-e expression #1, char " ++ Decimal.render place ++ ": " ++ message) failed
      | .ok steps =>
        let o := if silent then { o with found := ("n", []) :: o.found } else o
        applyEdits o steps paths

end LspSession.Utility
