import LspSession.Host.Utility.Basic

/-!
# `LspSession.Host.Utility.Copy`: programs that copy

These utilities copy what they read, as it comes, in blocks, in part or to several places at once,
or count what there is.
-/

set_option autoImplicit false

namespace LspSession.Utility

open Shell Shell.Activity

/-! ### Whole inputs -/

/-- Copies what a descriptor reads as, as it comes, with at most so many reads. -/
def copyFrom (utility : String) (descriptor : Nat) : Nat → Activity Nat
  | 0 => return success
  | reads + 1 => do
    match ← call (.read descriptor 131072) with
    | .error e => refuse utility ("-: " ++ e.text) failed
    | .ok [] => return success
    | .ok bytes =>
      match ← printing utility (ofBytes bytes) success with
      | 0 => copyFrom utility descriptor reads
      | status => return status

/-- A character of which nothing but its code can be seen, in signs that can. -/
def visible (c : Char) : Text :=
  let low (n : Nat) : Text :=
    if n < 32 then ['^', Char.ofNat (n + 64)] else if n = 127 then ['^', '?'] else [Char.ofNat n]
  if c.toNat < 128 then low c.toNat else ['M', '-'] ++ low (c.toNat - 128)

/-- A line as it is shown. -/
def shownLine (o : Options) (line : Text) : Text :=
  let shows (letters : List Char) : Bool := letters.any o.has
  line.flatMap fun c =>
    if c = '\t' then (if shows ['A', 'T', 't'] then ['^', 'I'] else [c])
    else if shows ['A', 'v', 'e', 't'] then visible c
    else [c]

/-- Numbers lines, or those of them that are not empty, from a number on. -/
def numberLines (all : Bool) : Nat → List Text → List Text
  | _, [] => []
  | n, line :: rest =>
    if all || line != [] then
      let digits := ofNat n
      (List.replicate (6 - digits.length) ' ' ++ digits ++ '\t' :: line) ::
        numberLines all (n + 1) rest
    else line :: numberLines all n rest

/-- Copies inputs, with changes that show more of them. -/
def catShown (o : Options) : Activity Nat := do
  let (text, status) ← readInputs "cat" o.operands
  let whole := text.getLast? = some '\n' ∨ text = []
  let lines := linesOf text
  let lines := if o.has 's' then squeeze false lines else lines
  let lines := lines.map (shownLine o)
  let lines := if ['A', 'E', 'e'].any o.has then lines.map (· ++ ['$']) else lines
  let lines := if o.has 'b' then numberLines false 1 lines
    else if o.has 'n' then numberLines true 1 lines else lines
  let shown := ofLines lines
  printing "cat" (if whole then shown else shown.dropLast) status
where
  /-- Lines of which no two empty ones follow each other. -/
  squeeze (after : Bool) : List Text → List Text
    | [] => []
    | line :: rest =>
      if line = [] ∧ after then squeeze true rest else line :: squeeze (line == []) rest

/-- Copies inputs, one after another. -/
def cat (words : List Text) : Activity Nat :=
  withOptions "cat" ⟨['u', 'n', 'b', 's', 'E', 'T', 'A', 'v', 'e', 't'], [],
    [("number", 'n'), ("number-nonblank", 'b'), ("show-ends", 'E'), ("show-tabs", 'T'),
      ("show-all", 'A'), ("squeeze-blank", 's'), ("show-nonprinting", 'v')]⟩ words failed fun o =>
    if o.found.all fun (letter, _) => letter == "u" then
      withInputs "cat" o.operands fun descriptor => copyFrom "cat" descriptor unlimited
    else catShown o

/-! ### Blocks -/

/-- How blocks are copied. -/
structure Blocks where
  size : Nat
  count : Option Nat
  /-- Whether a block is filled even if it comes in parts. -/
  full : Bool
  /-- How many blocks are left out at the start. -/
  skip : Nat
  input : Option Text
  output : Option Text
  appends : Bool
  /-- How much is said at the end. -/
  report : Text
  /-- How characters are changed. -/
  conversions : List Text

/-- Takes one operand of the block copier. -/
def Blocks.operand? (b : Blocks) (operand : Text) : Except String Blocks :=
  let name := operand.takeWhile (· != '=')
  let value := operand.drop (name.length + 1)
  let size (f : Nat → Blocks) : Except String Blocks :=
    match sized? value with
    | some n => .ok (f n)
    | none => .error ("invalid number: " ++ quote value)
  let positive (f : Nat → Blocks) : Except String Blocks :=
    match sized? value with
    | some (n + 1) => .ok (f (n + 1))
    | _ => .error ("invalid number: " ++ quote value)
  if name.length = operand.length then .error ("unrecognized operand " ++ quote operand)
  else
    match String.ofList name with
    | "bs" | "ibs" => positive fun n => { b with size := n }
    | "obs" | "cbs" => positive fun _ => b
    | "count" => size fun n => { b with count := some n }
    | "skip" | "iseek" => size fun n => { b with skip := n }
    | "seek" | "oseek" => size fun _ => b
    | "iflag" => .ok { b with full := b.full || (value.splitOn ',').contains "fullblock".toList }
    | "oflag" => .ok { b with appends := (value.splitOn ',').contains "append".toList }
    | "status" => .ok { b with report := value }
    | "conv" => .ok { b with conversions := value.splitOn ',' }
    | "if" => .ok { b with input := some value }
    | "of" => .ok { b with output := some value }
    | _ => .error ("unrecognized operand " ++ quote operand)

/-- Takes a block, which is filled up if that is asked for, with at most so many reads. -/
def takeBlock (full : Bool) (size : Nat) : Nat → Activity Text
  | 0 => return []
  | reads + 1 => do
    match ← take 0 size with
    | [] => return []
    | text =>
      if full ∧ text.length < size then return text ++ (← takeBlock full (size - text.length) reads)
      else return text

/-- Changes a block. -/
def Blocks.convert (b : Blocks) (text : Text) : Text :=
  if b.conversions.contains "ucase".toList then text.map Char.toUpper
  else if b.conversions.contains "lcase".toList then text.map Char.toLower
  else text

/-- Copies blocks until one is empty, at most so many of them. The answer holds how many were whole,
how many were not, how many characters there were and a status. -/
def copyBlocks (b : Blocks) : Nat → Nat → Nat × Nat × Nat → Activity ((Nat × Nat × Nat) × Nat)
  | _, 0, counts => return (counts, success)
  | 0, _, counts => return (counts, success)
  | steps + 1, left + 1, (whole, partly, size) => do
    match ← takeBlock b.full b.size (b.size + 1) with
    | [] => return ((whole, partly, size), success)
    | block =>
      let counts := if block.length = b.size then (whole + 1, partly, size + block.length)
        else (whole, partly + 1, size + block.length)
      if ← write 1 (b.convert block) then copyBlocks b steps left counts
      else return ((whole, partly, size), ← refuse "dd" "error writing 'standard output'" failed)

/-- Lets a standard descriptor refer to a file. -/
def openAs (path : Text) (mode : OpenMode) (descriptor : Nat) : Activity (Option OsError) := do
  match ← call (.openFile (toPath path) mode) with
  | .error e => return some e
  | .ok opened =>
    move opened descriptor
    return none

/-- Copies the standard input to the standard output in blocks. -/
def dd (operands : List Text) : Activity Nat := do
  match operands.foldlM Blocks.operand? ⟨512, none, false, 0, none, none, false, [], []⟩ with
  | .error message =>
    let status ← refuse "dd" message failed
    if "unrecognized".toList.isPrefixOf message.toList then
      complain (ofString "Try 'dd --help' for more information.") status
    else return status
  | .ok b =>
    let opened (path : Option Text) (mode : OpenMode) (descriptor : Nat) :
        Activity (Option (Text × OsError)) := do
      match path with
      | none => return none
      | some path => return (← openAs path mode descriptor).map fun e => (path, e)
    match ← opened b.input .read 0 with
    | some (path, e) => refuse "dd" ("failed to open " ++ quote path ++ ": " ++ e.text) failed
    | none =>
      match ← opened b.output (if b.appends then .append else .write) 1 with
      | some (path, e) => refuse "dd" ("failed to open " ++ quote path ++ ": " ++ e.text) failed
      | none =>
        for _ in List.range b.skip do
          let _ ← takeBlock true b.size (b.size + 1)
        let ((whole, partly, size), status) ← copyBlocks b unlimited
          (b.count.getD unlimited) (0, 0, 0)
        let counts := Decimal.render whole ++ "+" ++ Decimal.render partly ++ " records "
        if b.report ≠ "none".toList then
          let _ ← write 2 (ofString (counts ++ "in\n" ++ counts ++ "out\n"))
          if b.report ≠ "noxfer".toList then
            let _ ← write 2 (ofString (Decimal.render size ++ " bytes copied, 0.0001 s\n"))
        return status

/-! ### Parts -/

/-- What part of an input is copied. -/
structure Portion where
  /-- Whether characters are counted, and not lines. -/
  ofChars : Bool
  count : Nat
  /-- Whether the count is from the other end. -/
  fromOther : Bool

/-- Copies so many characters from the start of an input, with at most so many reads. -/
def headChars (descriptor : Nat) : Nat → Nat → Activity Nat
  | _, 0 => return success
  | 0, _ => return success
  | reads + 1, left => do
    match ← take descriptor (min 8192 left) with
    | [] => return success
    | text =>
      match ← printing "head" text success with
      | 0 => headChars descriptor reads (left - text.length)
      | status => return status

/-- The first lines of a text, and how many there are. -/
def firstLines : Nat → Text → Text × Nat
  | 0, _ => ([], 0)
  | count, text =>
    let found := (text.splitOn '\n').take count
    let lines := min count (text.count '\n')
    if count ≤ text.count '\n' then (ofLines found, lines) else (text, lines)

/-- Copies so many lines from the start of an input, with at most so many reads. -/
def headLines (descriptor : Nat) : Nat → Nat → Activity Nat
  | _, 0 => return success
  | 0, _ => return success
  | reads + 1, left => do
    match ← take descriptor 8192 with
    | [] => return success
    | text =>
      let (found, lines) := firstLines left text
      match ← printing "head" found success with
      | 0 => headLines descriptor reads (left - lines)
      | status => return status

/-- A text without so many lines at its end. -/
def withoutLast (count : Nat) (text : Text) : Text :=
  let lines := linesOf text
  if count = 0 then text
  else
    let kept := lines.take (lines.length - count)
    ofLines kept

/-- Copies the start of an input. -/
def headOf (p : Portion) (descriptor : Nat) : Activity Nat := do
  if p.fromOther then
    let text ← takeRest descriptor
    printing "head" (if p.ofChars then text.take (text.length - p.count)
      else withoutLast p.count text) success
  else if p.ofChars then headChars descriptor unlimited p.count
  else headLines descriptor unlimited p.count

/-- The last lines of a text. -/
def lastLines (count : Nat) (text : Text) : Text :=
  let whole := text.getLast? = some '\n' ∨ text = []
  let lines := linesOf text
  let found := ofLines (lines.drop (lines.length - count))
  if whole ∨ count = 0 then found else found.dropLast

/-- Copies the end of an input. -/
def tailOf (p : Portion) (descriptor : Nat) : Activity Nat := do
  let text ← takeRest descriptor
  printing "tail" (match p.ofChars, p.fromOther with
    | true, true => text.drop (p.count - 1)
    | true, false => text.drop (text.length - p.count)
    | false, true =>
      let skipped := (firstLines (p.count - 1) text).1
      text.drop skipped.length
    | false, false => lastLines p.count text) success

/-- Does something with each input, under a title if there are several. -/
def withTitles (utility : String) (o : Options) (work : Nat → Activity Nat) : Activity Nat := do
  let titled := o.has 'v' || (1 < o.operands.length && !o.has 'q')
  if !titled then withInputs utility o.operands work
  else
    let mut status := success
    let mut first := true
    for path in if o.operands = [] then [['-']] else o.operands do
      let title := if path = ['-'] then ofString "standard input" else path
      let line := (if first then [] else ['\n']) ++ ofString "==> " ++ title ++ ofString " <==\n"
      status := max status (← withInput utility path fun descriptor => do
        let _ ← write 1 line
        work descriptor)
      first := false
    return status

/-- Words in which a number with a dash in front is an option with that value, and also one with a
plus sign if that is so. -/
def numberAsOption (fromStart : Bool) (words : List Text) : List Text :=
  match words with
  | ('-' :: c :: more) :: rest =>
    if isDigit c then ['-', 'n'] :: (c :: more) :: rest else words
  | ('+' :: c :: more) :: rest =>
    if isDigit c && fromStart then ['-', 'n'] :: ('+' :: c :: more) :: rest else words
  | words => words

/-- The part of an input that options ask for. A sign says from which end it is counted. -/
def Portion.ofOptions (other : Char) (o : Options) : Except Text Portion :=
  let given := o.found.filter fun (letter, _) => letter == "n" || letter == "c"
  match given.getLast? with
  | none => .ok ⟨false, 10, false⟩
  | some (letter, value) =>
    let fromOther := value.head? = some other
    let digits := match value with
      | '-' :: rest | '+' :: rest => rest
      | value => value
    match sized? digits with
    | some n => .ok ⟨letter == "c", n, fromOther⟩
    | none => .error value

/-- Copies a part of each input. -/
def portion (utility : String) (other : Char) (work : Portion → Nat → Activity Nat)
    (words : List Text) : Activity Nat :=
  withOptions utility ⟨['q', 'v', 'f', 'z'], ['n', 'c'],
    [("lines", 'n'), ("bytes", 'c'), ("quiet", 'q'), ("silent", 'q'), ("verbose", 'v')]⟩
    (numberAsOption (other == '+') words) failed fun o =>
    match Portion.ofOptions other o with
    | .ok p => withTitles utility o (work p)
    | .error value =>
      let kind := if (o.found.getLast?.map (·.1)) == some "c" then "bytes" else "lines"
      refuse utility ("invalid number of " ++ kind ++ ": " ++ quote value) failed

/-- Copies the start of each input. -/
def head : List Text → Activity Nat := portion "head" '-' headOf

/-- Copies the end of each input. -/
def tail : List Text → Activity Nat := portion "tail" '+' tailOf

/-! ### Several places -/

/-- Copies what it reads to descriptors, with at most so many reads. -/
def copyTo (descriptors : List Nat) : Nat → Activity Nat
  | 0 => return success
  | reads + 1 => do
    match ← take 0 8192 with
    | [] => return success
    | text =>
      for descriptor in descriptors do
        let _ ← write descriptor text
      copyTo descriptors reads

/-- Copies the standard input to the standard output and to files. -/
def tee (words : List Text) : Activity Nat :=
  withOptions "tee" ⟨['a', 'i', 'p'], [], [("append", 'a')]⟩ words failed fun o => do
    let mut status := success
    let mut descriptors := [1]
    for path in o.operands do
      match ← call (.openFile (toPath path) (if o.has 'a' then .append else .write)) with
      | .ok descriptor => descriptors := descriptors ++ [descriptor]
      | .error e => status := ← refuseFile "tee" path e
    return max status (← copyTo descriptors unlimited)

/-- Writes a line again and again, at most so many times. -/
def repeatLine (text : Text) : Nat → Activity Nat
  | 0 => return success
  | times + 1 => do
    match ← printing "yes" text success with
    | 0 => repeatLine text times
    | status => return status

/-- Writes a line without an end. -/
def yes (words : List Text) : Activity Nat :=
  let words := if words.head? = some ['-', '-'] then words.tail else words
  let line := (if words = [] then ['y'] else [' '].intercalate words) ++ ['\n']
  repeatLine (List.replicate (8192 / line.length + 1) line).flatten unlimited

/-! ### Counts -/

/-- Whether a character stands between words. -/
def isSpace (c : Char) : Bool := c == ' ' || ('\t' ≤ c && c ≤ '\r')

/-- The number of words in a text. -/
def wordCount (text : Text) : Nat :=
  (text.foldl (fun (count, before) c =>
    (if before && !isSpace c then count + 1 else count, isSpace c)) (0, true)).1

/-- What is counted, in the order in which it is shown: lines, words, characters and the length of
the longest line. -/
def counts (text : Text) : List Nat :=
  [text.count '\n', wordCount text, text.length, text.length,
    ((text.splitOn '\n').map List.length).foldl max 0]

/-- Counts lines, words and characters. -/
def wc (words : List Text) : Activity Nat :=
  withOptions "wc" ⟨['l', 'w', 'c', 'm', 'L'], [],
    [("lines", 'l'), ("words", 'w'), ("bytes", 'c'), ("chars", 'm'), ("max-line-length", 'L')]⟩
    words failed fun o => do
    let asked := ['l', 'w', 'm', 'c', 'L'].map o.has
    let asked := if asked.any id then asked else [true, true, false, true, false]
    let pick (all : List Nat) : List Nat :=
      ((all.zip asked).filter (·.2)).map (·.1)
    let mut status := success
    let mut rows : List (List Nat × Text) := []
    let mut sizes := 0
    let mut streams := false
    for path in if o.operands = [] then [['-']] else o.operands do
      let (text, more) ← readInputs "wc" [path]
      status := max status more
      streams := streams || path == ['-']
      if more = success then
        rows := rows ++ [(counts text, if o.operands = [] then [] else path)]
        sizes := sizes + text.length
    let total := rows.foldl (fun sum (row, _) => (sum.zip row).map fun (a, b) => a + b)
      [0, 0, 0, 0, 0]
    let shown := if 1 < o.operands.length then rows ++ [(total, ofString "total")] else rows
    let width :=
      if o.operands.length ≤ 1 ∧ (pick total).length = 1 then 1
      else if streams then 7
      else (ofNat sizes).length
    let show_ (row : List Nat × Text) : Text :=
      let cells := (pick row.1).map fun n =>
        List.replicate (width - (ofNat n).length) ' ' ++ ofNat n
      [' '].intercalate cells ++ (if row.2 = [] then [] else ' ' :: row.2) ++ ['\n']
    printing "wc" (shown.flatMap show_) status

end LspSession.Utility
