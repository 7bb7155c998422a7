import LspSession.Host.Shell.Format
import LspSession.Host.Shell.Pattern
import LspSession.Host.Utility.Copy

/-!
# `LspSession.Host.Utility.Lines`: programs that rearrange what they read

These utilities read all of their input and write it again in another form: with other characters,
with some columns or some lines only, in another order, numbered or broken.
-/

set_option autoImplicit false

namespace LspSession.Utility

open Shell Shell.Activity

/-- All characters. -/
def allChars : Text := (List.range 256).map Char.ofNat

/-! ### Characters -/

/-- A part of a set of characters as it is written. -/
inductive SetPart where
  | char (c : Char)
  | range (first last : Char)
  | named (name : Text)
  /-- A character as often as said, or as often as is needed. -/
  | times (c : Char) (count : Nat)
  deriving DecidableEq, Repr

namespace SetPart

/-- The character at the start of a text, which may be a backslash sequence, and what follows it. -/
def char? : Text → Option (Char × Text)
  | [] => none
  | '\\' :: rest =>
    match escape? false rest, rest with
    | some found, _ => some found
    | none, c :: rest => some (c, rest)
    | none, [] => some ('\\', [])
  | c :: rest => some (c, rest)

/-- The part in brackets at the start of a text, and what follows it. -/
def bracket? : Text → Option (SetPart × Text)
  | '[' :: ':' :: rest =>
    let name := rest.takeWhile fun c => 'a' ≤ c && c ≤ 'z'
    match rest.drop name.length with
    | ':' :: ']' :: rest => some (.named name, rest)
    | _ => none
  | '[' :: '=' :: c :: '=' :: ']' :: rest => some (.char c, rest)
  | '[' :: rest =>
    match char? rest with
    | some (c, '*' :: rest) =>
      let digits := rest.takeWhile isDigit
      match rest.drop digits.length with
      | ']' :: rest => some (.times c (spanNumber digits).1, rest)
      | _ => none
    | _ => none
  | _ => none

/-- The parts of a set, found in at most so many steps. -/
def ofText : Nat → Text → List SetPart
  | 0, _ => []
  | steps + 1, text =>
    match bracket? text with
    | some (part, rest) => part :: ofText steps rest
    | none =>
      match char? text with
      | none => []
      | some (first, '-' :: c :: rest) =>
        match char? (c :: rest) with
        | some (last, rest) => .range first last :: ofText steps rest
        | none => [.char first]
      | some (c, rest) => .char c :: ofText steps rest

/-- The ends of a range of which the last comes before the first. -/
def reversed? : SetPart → Option (Char × Char)
  | .range first last => if last < first then some (first, last) else none
  | _ => none

/-- The characters of a part. -/
def chars : SetPart → Text
  | .char c => [c]
  | .range first last => allChars.filter fun c => first ≤ c && c ≤ last
  | .named name => allChars.filter (isInClass name)
  | .times c count => List.replicate count c

/-- The characters of a set, as many as are needed. -/
def allOf (needed : Nat) (parts : List SetPart) : Text :=
  let fixed := (parts.flatMap chars).length
  parts.flatMap fun
    | .times c 0 => List.replicate (needed - fixed) c
    | part => part.chars

end SetPart

/-- A text in which of equal characters of a set only the first in a row is kept. -/
def squeezeChars (set : Text) (text : Text) : Text :=
  (text.foldl (fun (found : List Char) c =>
    if found.head? = some c ∧ set.contains c then found else c :: found) []).reverse

/-- Changes every piece of the standard input as it comes, with at most so many reads. -/
def changePieces (utility : String) (change : Text → Text) : Nat → Activity Nat
  | 0 => return success
  | reads + 1 => do
    match ← take 0 8192 with
    | [] => return success
    | text =>
      match ← printing utility (change text) success with
      | 0 => changePieces utility change reads
      | status => return status

/-- What stands for a character of one set in another. -/
def translation (first second : Text) (c : Char) : Char :=
  match (first.zip second).reverse.lookup c with
  | some d => d
  | none => if first.contains c then second.getLast?.getD c else c

/-- Translates, deletes and squeezes characters. -/
def tr (words : List Text) : Activity Nat := do
  match OptionTable.read ⟨['c', 'C', 'd', 's', 't'], [],
      [("complement", 'c'), ("delete", 'd'), ("squeeze-repeats", 's'), ("truncate-set1", 't')]⟩
      false (words.length + 1) words with
  | .error message =>
    refuseWithHelp "tr" message failed
  | .ok o =>
    let parts (text : Text) : List SetPart := SetPart.ofText (text.length + 1) text
    match (o.operands.flatMap parts).findSome? SetPart.reversed? with
    | some (first, last) =>
      return ← refuse "tr" ("range-endpoints of " ++ quote [first, '-', last] ++
        " are in reverse collating sequence order") failed
    | none => pure ()
    let complete (set : Text) : Text :=
      if o.has 'c' || o.has 'C' then allChars.filter fun c => !set.contains c else set
    let help : Activity Nat := complain (ofString "Try 'tr --help' for more information.") failed
    match o.operands with
    | [] => missingOperand "tr"
    | [one] =>
      let set := complete (SetPart.allOf 0 (parts one))
      if o.has 'd' then
        if o.has 's' then
          let _ ← refuse "tr" ("missing operand after " ++ quote one) failed
          let _ ← complain
            (ofString "Two strings must be given when both deleting and squeezing repeats.") failed
          help
        else changePieces "tr" (fun text => text.filter fun c => !set.contains c) unlimited
      else if o.has 's' then
        let (text, status) ← readInputs "tr" []
        printing "tr" (squeezeChars set text) status
      else
        let _ ← refuse "tr" ("missing operand after " ++ quote one) failed
        let _ ← complain (ofString "Two strings must be given when translating.") failed
        help
    | [one, two] =>
      let first := complete (SetPart.allOf 0 (parts one))
      let second := SetPart.allOf first.length (parts two)
      if o.has 'd' then
        if o.has 's' then
          let (text, status) ← readInputs "tr" []
          let kept := text.filter fun c => !first.contains c
          printing "tr" (squeezeChars second kept) status
        else
          let _ ← refuse "tr" ("extra operand " ++ quote two) failed
          let _ ← complain (ofString
            "Only one string may be given when deleting without squeezing repeats.") failed
          help
      else
        let first := if o.has 't' then first.take second.length else first
        if second = [] then
          refuse "tr" "when not truncating set1, string2 must be non-empty" failed
        else if o.has 's' then
          let (text, status) ← readInputs "tr" []
          printing "tr" (squeezeChars second (text.map (translation first second))) status
        else changePieces "tr" (fun text => text.map (translation first second)) unlimited
    | _ :: _ :: extra :: _ =>
      let _ ← refuse "tr" ("extra operand " ++ quote extra) failed
      help

/-! ### Columns -/

/-- A range of positions, counted from one. It may have no end. -/
structure Positions where
  first : Nat
  last : Option Nat

/-- Whether a position is in one of some ranges. -/
def isListed (ranges : List Positions) (position : Nat) : Bool :=
  ranges.any fun r => r.first ≤ position && r.last.all fun last => position ≤ last

/-- Reads a range of positions. -/
def Positions.ofText? (text : Text) : Option Positions :=
  let first := text.takeWhile (· != '-')
  match text.drop first.length with
  | [] => (natural? first).map fun n => ⟨n, some n⟩
  | _ :: last =>
    match first, last with
    | [], [] => none
    | [], last => (natural? last).map fun n => ⟨1, some n⟩
    | first, [] => (natural? first).map fun n => ⟨n, none⟩
    | first, last => do
      let a ← natural? first
      let b ← natural? last
      if b < a then none else some ⟨a, some b⟩

/-- The things at positions that are listed, or at the others. -/
def pick {α : Type} (ranges : List Positions) (others : Bool) (all : List α) : List α :=
  ((all.zipIdx 1).filter fun (_, i) => isListed ranges i != others).map (·.1)

/-- Copies some columns of lines. -/
def cut (words : List Text) : Activity Nat :=
  withOptions "cut" ⟨['s', 'n', 'z'], ['b', 'c', 'f', 'd', 'o', 'p'],
    [("bytes", 'b'), ("characters", 'c'), ("fields", 'f'), ("delimiter", 'd'),
      ("only-delimited", 's'), ("output-delimiter", 'o')]⟩
    (words.map fun w => if w = "--complement".toList then "-p1".toList else w) failed fun o => do
    let help : Activity Nat := complain (ofString "Try 'cut --help' for more information.") failed
    let lists := o.found.filter fun (letter, _) => ["b", "c", "f"].contains letter
    let others := o.has 'p'
    match lists with
    | [] =>
      let _ ← refuse "cut" "you must specify a list of bytes, characters, or fields" failed
      help
    | [(kind, list)] =>
      let isDecreasing (part : Text) : Bool :=
        match (part.splitOn '-').map natural? with
        | [some a, some b] => b < a
        | _ => false
      match (list.splitOn ',').mapM Positions.ofText? with
      | none =>
        if (list.splitOn ',').any isDecreasing then
          let _ ← refuse "cut" "invalid decreasing range" failed
          return ← help
        let what := if kind = "f" then "field" else "byte/character"
        let _ ← refuse "cut" ("invalid " ++ what ++ " value " ++ quote list) failed
        help
      | some ranges =>
        if ranges.any fun r => r.first = 0 then
          let what := if kind = "f" then "fields" else "byte/character positions"
          let _ ← refuse "cut" (what ++ " are numbered from 1") failed
          help
        else
          let delimiter := (o.value? 'd').getD ['\t']
          if kind = "f" ∧ 1 < delimiter.length then
            let _ ← refuse "cut" "the delimiter must be a single character" failed
            help
          else
            let (text, status) ← readInputs "cut" o.operands
            let mark := delimiter.headD '\x00'
            let joint := (o.value? 'o').getD [mark]
            let line (text : Text) : Option Text :=
              if kind ≠ "f" then some (pick ranges others text)
              else if !text.contains mark then (if o.has 's' then none else some text)
              else some (joint.intercalate (pick ranges others (text.splitOn mark)))
            printing "cut" (ofLines ((linesOf text).filterMap line)) status
    | _ =>
      let _ ← refuse "cut" "only one list may be specified" failed
      help

/-- Lines side by side, with characters of a list between them in turn. -/
def besides (marks : Text) (columns : List (List Text)) : List Text :=
  let height := (columns.map List.length).foldl max 0
  (List.range height).map fun row =>
    ((columns.zipIdx).map fun (column, i) =>
      let mark := if i = 0 ∨ marks = [] then [] else
        match marks[(i - 1) % marks.length]? with
        | some '\x00' | none => []
        | some c => [c]
      mark ++ column.getD row []).flatten

/-- Puts lines of inputs side by side, or all lines of each input. -/
def paste (words : List Text) : Activity Nat :=
  withOptions "paste" ⟨['s', 'z'], ['d'], [("serial", 's'), ("delimiters", 'd')]⟩ words failed
    fun o => do
    let marks := (unescape true ((o.value? 'd').getD ['\t'])).1
    let mut columns : List (List Text) := []
    let mut status := success
    for path in if o.operands = [] then [['-']] else o.operands do
      let (text, more) ← readInputs "paste" [path]
      status := max status more
      columns := columns ++ [linesOf text]
    let streams := o.operands.countP (· == ['-'])
    let shared : List (List Text) :=
      if 1 < streams ∧ columns.length = streams then
        let all := columns.headD []
        (List.range streams).map fun i =>
          ((all.zipIdx).filter fun (_, j) => j % streams == i).map (·.1)
      else columns
    let lines := if o.has 's' then
        columns.flatMap fun column => besides marks (column.map fun line => [line])
      else besides marks shared
    printing "paste" (ofLines lines) status

/-- Breaks a line into pieces of a width, after blanks if that is asked for, in at most so many
steps. -/
def breakLine (atBlanks : Bool) (width : Nat) : Nat → Text → List Text
  | 0, line => [line]
  | steps + 1, line =>
    if line.length ≤ width then [line]
    else
      let piece := line.take width
      let kept := if atBlanks then (piece.reverse.dropWhile fun c => !isBlank c).reverse else piece
      let piece := if kept = [] then piece else kept
      piece :: breakLine atBlanks width steps (line.drop piece.length)

/-- Breaks lines. -/
def fold (words : List Text) : Activity Nat :=
  let words := match words with
    | ('-' :: c :: more) :: rest =>
      if isDigit c then ['-', 'w'] :: (c :: more) :: rest else words
    | words => words
  withOptions "fold" ⟨['s', 'b'], ['w'], [("spaces", 's'), ("bytes", 'b'), ("width", 'w')]⟩ words
    failed fun o => do
    match ((o.value? 'w').getD ['8', '0']) |> natural? with
    | none | some 0 =>
      refuse "fold" ("invalid number of columns: " ++ quote ((o.value? 'w').getD [])) failed
    | some width =>
      let (text, status) ← readInputs "fold" o.operands
      let whole := text.getLast? = some '\n' ∨ text = []
      let lines := (linesOf text).flatMap fun line =>
        breakLine (o.has 's') width (line.length + 1) line
      printing "fold" (if whole then ofLines lines else (ofLines lines).dropLast) status

/-! ### Order -/

/-- Writes lines backwards. -/
def rev (words : List Text) : Activity Nat := do
  let (text, status) ← readInputs "rev" words
  let whole := text.getLast? = some '\n' ∨ text = []
  let lines := ofLines ((linesOf text).map List.reverse)
  printing "rev" (if whole then lines else lines.dropLast) status

/-- Writes lines in reverse order. -/
def tac (words : List Text) : Activity Nat := do
  let (text, status) ← readInputs "tac" words
  let lines := linesOf text
  let ended := if text.getLast? = some '\n' then lines.map (· ++ ['\n'])
    else lines.dropLast.map (· ++ ['\n']) ++ lines.getLast?.toList
  printing "tac" ended.reverse.flatten status

/-- How two texts are compared. -/
structure SortOrder where
  numeric : Bool
  /-- Whether numbers have letters for their size behind them. -/
  human : Bool
  /-- Whether numbers inside a text count as such. -/
  version : Bool
  /-- Whether only letters, digits and blanks count. -/
  dictionary : Bool
  foldsCase : Bool
  skipsBlanks : Bool
  reversed : Bool

/-- The order that letters ask for. -/
def SortOrder.ofLetters (has : Char → Bool) : SortOrder :=
  ⟨has 'n' || has 'g', has 'h', has 'V', has 'd', has 'f', has 'b', has 'r'⟩

/-- A field of a line that lines are ordered by: from a character of a field to one of another. -/
structure SortKey where
  first : Nat
  firstChar : Nat
  last : Option Nat
  lastChar : Nat
  order : SortOrder

/-- The number at the start of a text, in a scale of so many places. -/
def numberAt (text : Text) : Int :=
  let places := 12
  let text := text.dropWhile isBlank
  let digits := if text.head? = some '-' then text.tail else text
  let whole := digits.takeWhile isDigit
  let fraction := match digits.drop whole.length with
    | '.' :: rest => (rest.takeWhile isDigit).take places
    | _ => []
  let scaled := valueIn 10 (whole ++ fraction) * Nat.pow 10 (places - fraction.length)
  if text.head? = some '-' then -(scaled : Int) else scaled

/-- A number with a letter for its size: the size counts first. -/
def humanAt (text : Text) : Int × Int :=
  let n := numberAt text
  let digits := (text.dropWhile isBlank).dropWhile fun c => isDigit c || c == '-' || c == '.'
  let size : Int := match digits.head? with
    | some c => match ['K', 'M', 'G', 'T', 'P', 'E', 'Z', 'Y'].idxOf? c.toUpper with
      | some i => i + 1
      | none => 0
    | none => 0
  (if n = 0 then 0 else if n < 0 then -size - 1 else size + 1, n)

/-- A text as numbers and what stands between them, in at most so many steps. -/
def versionParts : Nat → Text → List (Text × Nat)
  | 0, _ => []
  | steps + 1, text =>
    if text = [] then []
    else
      let front := text.takeWhile fun c => !isDigit c
      let digits := (text.drop front.length).takeWhile isDigit
      (front, valueIn 10 digits) :: versionParts steps (text.drop (front.length + digits.length))

/-- Compares two rows of numbers and what stands between them. -/
def compareVersions : List (Text × Nat) → List (Text × Nat) → Ordering
  | [], [] => .eq
  | [], _ :: _ => .lt
  | _ :: _, [] => .gt
  | (a, m) :: as, (b, n) :: bs =>
    match compareOfLessAndEq a b with
    | .eq =>
      match compareOfLessAndEq m n with
      | .eq => compareVersions as bs
      | result => result
    | result => result

/-- Compares two texts. -/
def SortOrder.compare (o : SortOrder) (a b : Text) : Ordering :=
  let shape (text : Text) : Text :=
    let text := if o.skipsBlanks then text.dropWhile isBlank else text
    let text := if o.dictionary then text.filter fun c => c.isAlphanum || isBlank c else text
    if o.foldsCase then text.map Char.toUpper else text
  let result := if o.numeric then compareOfLessAndEq (numberAt a) (numberAt b)
    else if o.human then
      match compareOfLessAndEq (humanAt a).1 (humanAt b).1 with
      | .eq => compareOfLessAndEq (humanAt a).2 (humanAt b).2
      | result => result
    else if o.version then
      compareVersions (versionParts (a.length + 1) a) (versionParts (b.length + 1) b)
    else compareOfLessAndEq (shape a) (shape b)
  if o.reversed then result.swap else result

/-- The fields of a line. Without a mark between them a field starts with the blanks in front of
it. -/
def sortFields (mark : Option Char) (line : Text) : List Text :=
  match mark with
  | some c => line.splitOn c
  | none => go (line.length + 1) line
where
  /-- Splits fields off, at most so many. -/
  go : Nat → Text → List Text
    | 0, _ => []
    | steps + 1, text =>
      if text = [] then []
      else
        let blanks := text.takeWhile isBlank
        let word := (text.drop blanks.length).takeWhile fun c => !isBlank c
        (blanks ++ word) :: go steps (text.drop (blanks.length + word.length))

/-- The part of a line that a key names. -/
def SortKey.part (k : SortKey) (mark : Option Char) (line : Text) : Text :=
  let fields := sortFields mark line
  let joint := mark.toList
  let chosen := match k.last with
    | none => fields.drop (k.first - 1)
    | some last => (fields.take last).drop (k.first - 1)
  let text := joint.intercalate chosen
  let text := match k.last with
    | some last =>
      if k.lastChar = 0 then text
      else
        let tail := (fields[last - 1]?.getD []).length
        text.take (text.length - (tail - k.lastChar))
    | none => text
  text.drop (k.firstChar - 1)

/-- Reads a key. -/
def SortKey.ofText? (base : SortOrder) (text : Text) : Option SortKey :=
  let side (text : Text) : Option (Nat × Nat × Text) :=
    let field := text.takeWhile isDigit
    let rest := text.drop field.length
    let (char, rest) := match rest with
      | '.' :: more =>
        let digits := more.takeWhile isDigit
        (valueIn 10 digits, more.drop digits.length)
      | rest => (0, rest)
    if field = [] then none else some (valueIn 10 field, char, rest)
  let order (letters : Text) : SortOrder :=
    if letters = [] then base
    else SortOrder.ofLetters letters.contains
  match text.splitOn ',' with
  | [first] => (side first).map fun (f, c, letters) => ⟨f, max 1 c, none, 0, order letters⟩
  | [first, last] => do
    let (f, c, letters) ← side first
    let (l, d, more) ← side last
    some ⟨f, max 1 c, some l, d, order (letters ++ more)⟩
  | _ => none

/-- Compares two lines by keys, and then as a whole. -/
def compareLines (keys : List SortKey) (whole : SortOrder) (mark : Option Char) (lastResort : Bool)
    (a b : Text) : Ordering :=
  let byKeys := keys.foldl (fun result k =>
    match result with
    | .eq => k.order.compare (k.part mark a) (k.part mark b)
    | result => result) Ordering.eq
  let result := if keys = [] then whole.compare a b else byKeys
  match result with
  | .eq => if !lastResort then .eq
    else
      let rest := compareOfLessAndEq a b
      if whole.reversed then rest.swap else rest
  | result => result

/-- Writes lines in order. -/
def sort (words : List Text) : Activity Nat :=
  withOptions "sort" ⟨"nrufbscCzghVdmiR".toList, ['k', 't', 'o', 'S', 'T'],
    [("numeric-sort", 'n'), ("reverse", 'r'), ("unique", 'u'), ("ignore-case", 'f'),
      ("ignore-leading-blanks", 'b'), ("stable", 's'), ("check", 'c'), ("key", 'k'),
      ("field-separator", 't'), ("output", 'o'), ("zero-terminated", 'z'),
      ("general-numeric-sort", 'g'), ("human-numeric-sort", 'h'), ("version-sort", 'V'),
      ("dictionary-order", 'd'), ("merge", 'm'), ("random-sort", 'R')]⟩ words misused fun o => do
    let order := SortOrder.ofLetters o.has
    match (o.values 'k').mapM (SortKey.ofText? order) with
    | none => refuse "sort" "invalid number at field start" misused
    | some keys =>
      let mark := ((o.value? 't').getD []).head?
      let lastResort := !o.has 's' && !o.has 'u'
      let compare := if o.has 'R' then fun _ _ => .lt else compareLines keys order mark lastResort
      let (text, status) ← readInputs "sort" o.operands
      let lineMark := if o.has 'z' then '\x00' else '\n'
      let lines := partsOf lineMark text
      if status ≠ success then return misused
      if o.has 'c' || o.has 'C' then
        let pairs := lines.zip lines.tail
        match pairs.zipIdx.find? fun ((a, b), _) =>
            compare a b == .gt || (o.has 'u' && compare a b == .eq) with
        | some ((_, b), i) =>
          let name := toPath (o.operands.headD ['-'])
          if o.has 'C' then return failed
          refuse "sort" (name ++ ":" ++ Decimal.render (i + 2) ++ ": disorder: " ++ toPath b) failed
        | none => return status
      else
        let sorted := lines.mergeSort fun a b => compare a b != .gt
        let sorted := if o.has 'u' then unique compare sorted else sorted
        let written := sorted.flatMap fun line => line ++ [lineMark]
        match o.value? 'o' with
        | none => printing "sort" written status
        | some path =>
          match ← openAs path .write 1 with
          | some e => refuse "sort" ("open failed: " ++ toPath path ++ ": " ++ e.text) misused
          | none => printing "sort" written status
where
  /-- Keeps the first of lines that are equal. -/
  unique (compare : Text → Text → Ordering) (lines : List Text) : List Text :=
    (lines.foldl (fun (found : List Text) line =>
      match found with
      | last :: _ => if compare last line == .eq then found else line :: found
      | [] => [line]) []).reverse

/-- Writes lines, or numbers of a range, or its arguments in some order. Their own order will do. -/
def shuf (words : List Text) : Activity Nat :=
  withOptions "shuf" ⟨['e', 'z', 'r'], ['n', 'i', 'o'], [("echo", 'e'), ("head-count", 'n'),
    ("input-range", 'i'), ("zero-terminated", 'z')]⟩ words failed fun o => do
    let range := ((o.value? 'i').getD []).splitOn '-' |>.map natural?
    let (all, status) ← match o.has 'e', range with
      | true, _ => pure (o.operands, success)
      | _, [some first, some last] =>
        pure ((List.range (last + 1 - first)).map fun i => ofNat (first + i), success)
      | _, _ => do
        let (text, status) ← readInputs "shuf" (o.operands.take 1)
        pure (linesOf text, status)
    let chosen := match (o.value? 'n').bind natural? with
      | some n => all.take n
      | none => all
    printing "shuf" (chosen.flatMap fun line => line ++ [if o.has 'z' then '\x00' else '\n'])
      status

/-! ### Repetitions and numbers -/

/-- The lines in a row that count as equal, with their number. -/
def runsOf (key : Text → Text) (lines : List Text) : List (Text × Nat) :=
  (lines.foldl (fun (found : List (Text × Nat)) line =>
    match found with
    | (first, n) :: rest =>
      if key first = key line then (first, n + 1) :: rest else (line, 1) :: found
    | [] => [(line, 1)]) []).reverse

/-- Writes each of equal lines in a row once. -/
def uniq (words : List Text) : Activity Nat :=
  withOptions "uniq" ⟨['c', 'd', 'u', 'i', 'z'], ['f', 's', 'w'],
    [("count", 'c'), ("repeated", 'd'), ("unique", 'u'), ("ignore-case", 'i'),
      ("skip-fields", 'f'), ("skip-chars", 's'), ("check-chars", 'w')]⟩ words failed fun o => do
    let number (letter : Char) : Option Nat := (o.value? letter).bind natural?
    let key (line : Text) : Text :=
      let line := ((sortFields none line).drop ((number 'f').getD 0)).flatten
      let line := line.drop ((number 's').getD 0)
      let line := match number 'w' with
        | some n => line.take n
        | none => line
      if o.has 'i' then line.map Char.toLower else line
    let (text, status) ← readInputs "uniq" (o.operands.take 1)
    let runs := (runsOf key (linesOf text)).filter fun (_, n) =>
      (!o.has 'd' || 1 < n) && (!o.has 'u' || n == 1)
    let line (run : Text × Nat) : Text :=
      if o.has 'c' then
        let digits := ofNat run.2
        List.replicate (7 - digits.length) ' ' ++ digits ++ ' ' :: run.1
      else run.1
    match o.operands[1]? with
    | none => printing "uniq" (ofLines (runs.map line)) status
    | some path =>
      match ← openAs path .write 1 with
      | some e => refuseFile "uniq" path e
      | none => printing "uniq" (ofLines (runs.map line)) status

/-- Numbers lines. -/
def nl (words : List Text) : Activity Nat :=
  withOptions "nl" ⟨['p'], ['b', 'w', 's', 'v', 'i', 'n', 'h', 'f', 'd', 'l'],
    [("body-numbering", 'b'), ("number-width", 'w'), ("number-separator", 's'),
      ("starting-line-number", 'v'), ("line-increment", 'i'), ("number-format", 'n')]⟩ words failed
    fun o => do
    let number (letter : Char) (default : Nat) : Nat :=
      ((o.value? letter).bind natural?).getD default
    let width := number 'w' 6
    let separator := (o.value? 's').getD ['\t']
    let style := (o.value? 'b').getD ['t']
    let format := (o.value? 'n').getD ['r', 'n']
    let (text, status) ← readInputs "nl" o.operands
    let (lines, _) := (linesOf text).foldl (fun ((found, n) : List Text × Nat) line =>
      if style = ['a'] ∨ (style = ['t'] ∧ line ≠ []) then
        let digits := ofNat n
        let room := width - digits.length
        let cell := if format = ['l', 'n'] then digits ++ List.replicate room ' '
          else List.replicate room (if format = ['r', 'z'] then '0' else ' ') ++ digits
        ((cell ++ separator ++ line) :: found, n + number 'i' 1)
      else ((List.replicate (width + separator.length) ' ' ++ line) :: found, n))
      (([] : List Text), number 'v' 1)
    printing "nl" (ofLines lines.reverse) status

/-! ### Other ways to write bytes -/

/-- The digits of the 64 that a number is written with. -/
def digits64 : Text :=
  "ABCDEFGHIJKLMNOPQRSTUVWXYZabcdefghijklmnopqrstuvwxyz0123456789+/".toList

/-- Three characters at a time as four digits, in at most so many steps. -/
def encode64 : Nat → Text → Text
  | 0, _ => []
  | steps + 1, text =>
    let digit (n : Nat) : Char := digits64[n % 64]?.getD '='
    match text with
    | [] => []
    | [a] =>
      let n := a.toNat * 16
      [digit (n / 64), digit n, '=', '=']
    | [a, b] =>
      let n := (a.toNat * 256 + b.toNat) * 4
      [digit (n / 4096), digit (n / 64), digit n, '=']
    | a :: b :: c :: rest =>
      let n := (a.toNat * 256 + b.toNat) * 256 + c.toNat
      digit (n / 262144) :: digit (n / 4096) :: digit (n / 64) :: digit n :: encode64 steps rest

/-- Four digits at a time as three characters, in at most so many steps. -/
def decode64 : Nat → List Nat → Text
  | 0, _ => []
  | steps + 1, digits =>
    let char (n : Nat) : Char := Char.ofNat (n % 256)
    match digits with
    | a :: b :: c :: d :: rest =>
      let n := ((a * 64 + b) * 64 + c) * 64 + d
      char (n / 65536) :: char (n / 256) :: char n :: decode64 steps rest
    | [a, b, c] =>
      let n := (a * 64 + b) * 64 + c
      [char (n / 1024), char (n / 4)]
    | [a, b] => [char ((a * 64 + b) / 16)]
    | _ => []

/-- Writes bytes as digits that can be read, or reads them. -/
def base64 (words : List Text) : Activity Nat :=
  withOptions "base64" ⟨['d', 'i'], ['w'], [("decode", 'd'), ("wrap", 'w')]⟩ words failed
    fun o => do
    let (text, status) ← readInputs "base64" o.operands
    if o.has 'd' then
      let text := text.filter (· != '\n')
      let isDigit64 (c : Char) : Bool := digits64.contains c
      let text := if o.has 'i' then text.filter fun c => isDigit64 c || c == '=' else text
      let front := text.takeWhile isDigit64
      let fill := text.drop front.length
      let whole := (front.length + fill.length) % 4 = 0 ∧
        fill = List.replicate ((4 - front.length % 4) % 4) '='
      let decoded := decode64 (text.length + 1) (front.filterMap digits64.idxOf?)
      let status := max status (← printing "base64" decoded status)
      if whole then return status else refuse "base64" "invalid input" failed
    else
      let encoded := encode64 (text.length + 1) text
      match ((o.value? 'w').bind natural?).getD 76 with
      | 0 => printing "base64" encoded status
      | width =>
        let lines := breakLine false width (encoded.length + 1) encoded
        printing "base64" (if encoded = [] then [] else ofLines lines) status

/-- How a byte is dumped. -/
inductive DumpKind where
  | char
  /-- A number of so many bytes in a base, with so many digits. -/
  | number (bytes base digits : Nat)
  deriving DecidableEq, Repr

/-- The kind of a dump that is named. -/
def DumpKind.ofText? (text : Text) : Option DumpKind :=
  match String.ofList text with
  | "c" => some .char
  | "o1" => some (.number 1 8 3)
  | "o2" | "o" => some (.number 2 8 6)
  | "a" => some .char
  | "x1" => some (.number 1 16 2)
  | "x2" => some (.number 2 16 4)
  | "x4" | "x" => some (.number 4 16 8)
  | "u1" => some (.number 1 10 3)
  | "u2" => some (.number 2 10 5)
  | _ => none

/-- A character in a dump, in four columns. -/
def dumpChar (c : Char) : Text :=
  let shown := match c with
    | '\x00' => ['\\', '0']
    | '\x07' => ['\\', 'a']
    | '\x08' => ['\\', 'b']
    | '\t' => ['\\', 't']
    | '\n' => ['\\', 'n']
    | '\x0b' => ['\\', 'v']
    | '\x0c' => ['\\', 'f']
    | '\r' => ['\\', 'r']
    | c =>
      if ' ' ≤ c && c ≤ '~' then [c]
      else
        let digits := Nat.toDigits 8 c.toNat
        List.replicate (3 - digits.length) '0' ++ digits
  List.replicate (4 - shown.length) ' ' ++ shown

/-- A line of a dump, without the place. -/
def DumpKind.line (kind : DumpKind) (text : Text) : Text :=
  match kind with
  | .char => text.flatMap dumpChar
  | .number bytes base digits =>
    let groups := (List.range ((text.length + bytes - 1) / bytes)).map fun i =>
      (text.drop (i * bytes)).take bytes
    groups.flatMap fun group =>
      let value := group.foldr (fun c n => 256 * n + c.toNat) 0
      let written := Nat.toDigits base value
      let fill := if base = 10 then ' ' else '0'
      ' ' :: List.replicate (digits - written.length) fill ++ written

/-- Writes bytes as numbers or characters, sixteen on a line. Lines that are like the one before are
left out. -/
def od (words : List Text) : Activity Nat :=
  withOptions "od" ⟨['c', 'b', 'x', 'o', 'd', 'v'], ['A', 't', 'N', 'j', 'w'],
    [("address-radix", 'A'), ("format", 't'), ("read-bytes", 'N'), ("skip-bytes", 'j'),
      ("output-duplicates", 'v'), ("width", 'w')]⟩ words failed fun o => do
    let named := (o.values 't').flatMap fun text => text.splitOn ' '
    let kinds := named.filterMap DumpKind.ofText? ++
      (if o.has 'c' then [.char] else []) ++ (if o.has 'b' then [.number 1 8 3] else []) ++
      (if o.has 'x' then [.number 2 16 4] else []) ++ (if o.has 'o' then [.number 2 8 6] else []) ++
      (if o.has 'd' then [.number 2 10 5] else [])
    let kinds := if kinds = [] then [.number 2 8 6] else kinds
    let (text, status) ← readInputs "od" o.operands
    let text := text.drop (((o.value? 'j').bind sized?).getD 0)
    let text := match (o.value? 'N').bind sized? with
      | some n => text.take n
      | none => text
    let width := max 1 (((o.value? 'w').bind natural?).getD 16)
    let base := (o.value? 'A').getD ['o']
    let place (n : Nat) : Text :=
      let number (base digits : Nat) : Text :=
        let written := Nat.toDigits base n
        List.replicate (digits - written.length) '0' ++ written
      match base with
      | ['n'] => []
      | ['d'] => number 10 7
      | ['x'] => number 16 6
      | _ => number 8 7
    let rows := (List.range ((text.length + width - 1) / width)).map fun i =>
      (i * width, (text.drop (i * width)).take width)
    let block (row : Nat × Text) : Text :=
      ofLines (kinds.zipIdx.map fun (kind, i) =>
        (if i = 0 then place row.1 else List.replicate (place row.1).length ' ') ++ kind.line row.2)
    let (shown, _, _) := rows.foldl (fun ((found, before, starred) : List Text × Option Text × Bool)
        row =>
      if before = some row.2 ∧ !o.has 'v' ∧ row.2.length = width then
        (if starred then found else ['*', '\n'] :: found, before, true)
      else (block row :: found, some row.2, false)) (([] : List Text), none, false)
    let last := if base = ['n'] then [] else place text.length ++ ['\n']
    printing "od" (shown.reverse.flatten ++ last) status

end LspSession.Utility
