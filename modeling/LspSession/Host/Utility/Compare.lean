import LspSession.Host.Utility.Basic

/-!
# `LspSession.Host.Utility.Compare`: programs that compare what they read

Two inputs are compared by their characters, by their lines in order, or by a longest row of lines
that both have.
-/

set_option autoImplicit false

namespace LspSession.Utility

open Shell Shell.Activity

/-- Reads two inputs and does something with them. A fault has a certain status. -/
def withTwo (utility : String) (status : Nat) (operands : List Text)
    (work : Text → Text → Activity Nat) : Activity Nat := do
  let faulty (message : String) : Activity Nat := do
    if status = failed then refuseWithHelp utility message status
    else
      let _ ← refuse utility message status
      refuse utility ("Try '" ++ utility ++ " --help' for more information.") status
  match operands with
  | [] =>
    faulty ("missing operand" ++ if status = failed then "" else " after '" ++ utility ++ "'")
  | [one] => faulty ("missing operand after " ++ quote one)
  | [one, two] =>
    match ← readInput one, ← readInput two with
    | .ok first, .ok second => work first second
    | first, second =>
      let mut status := status
      for (name, found) in [(one, first), (two, second)] do
        match found with
        | .error e => status ← refuse utility (toPath name ++ ": " ++ e.text) status
        | .ok _ => pure ()
      return status
  | _ :: _ :: extra :: _ => faulty ("extra operand " ++ quote extra)

/-- How many characters two texts have in common at their start, and how many ends of lines are
among them. -/
def commonStart : Text → Text → Nat × Nat
  | a :: as, b :: bs =>
    if a = b then
      let (n, lines) := commonStart as bs
      (n + 1, if a = '\n' then lines + 1 else lines)
    else (0, 0)
  | _, _ => (0, 0)

/-- Compares two inputs by their characters. -/
def cmp (words : List Text) : Activity Nat :=
  withOptions "cmp" ⟨['s', 'l', 'b'], ['n', 'i'], [("silent", 's'), ("quiet", 's'),
    ("verbose", 'l'), ("bytes", 'n')]⟩ words misused fun o =>
    let operands := if o.operands.length = 1 then o.operands ++ [['-']] else o.operands
    withTwo "cmp" misused operands fun first second => do
      let cut (text : Text) : Text := match (o.value? 'n').bind natural? with
        | some n => text.take n
        | none => text
      let (first, second) := (cut first, cut second)
      let names := (operands.headD [], operands.getD 1 [])
      let (n, lines) := commonStart first second
      if n = first.length ∧ n = second.length then return success
      else if o.has 's' then return failed
      else
        let shorter := min first.length second.length
        let name := if first.length < second.length then names.1 else names.2
        if o.has 'l' then
          let width := (ofNat shorter).length
          let pad (width : Nat) (t : Text) : Text := List.replicate (width - t.length) ' ' ++ t
          let lines := ((first.zip second).zipIdx 1).filterMap fun ((a, b), i) =>
            if a = b then none
            else some (pad width (ofNat i) ++ ' ' :: pad 3 (Nat.toDigits 8 a.toNat) ++ ' ' ::
              pad 3 (Nat.toDigits 8 b.toNat))
          let _ ← print (ofLines lines)
          if first.length ≠ second.length then
            refuse "cmp" ("EOF on " ++ toPath name ++ " after byte " ++ Decimal.render shorter)
              failed
          else return failed
        else if n = shorter then
          let place := if shorter = 0 then " which is empty" else
            " after byte " ++ Decimal.render n ++ ", " ++
              (if (first.take n).getLast? = some '\n' then "line " ++ Decimal.render lines
                else "in line " ++ Decimal.render (lines + 1))
          refuse "cmp" ("EOF on " ++ toPath name ++ place) failed
        else
          let _ ← print (names.1 ++ ' ' :: names.2 ++ ofString " differ: char " ++ ofNat (n + 1) ++
            ofString ", line " ++ ofNat (lines + 1) ++ ['\n'])
          return failed

/-- The lines of two lists in order, each with whether it is in the first, in the second or in
both, in at most so many steps. -/
def merged : Nat → List Text → List Text → List (Ordering × Text)
  | 0, _, _ => []
  | _ + 1, [], bs => bs.map fun b => (.gt, b)
  | _ + 1, as, [] => as.map fun a => (.lt, a)
  | steps + 1, a :: as, b :: bs =>
    match compareOfLessAndEq a b with
    | .lt => (.lt, a) :: merged steps as (b :: bs)
    | .gt => (.gt, b) :: merged steps (a :: as) bs
    | .eq => (.eq, a) :: merged steps as bs

/-- Writes the lines of two inputs in order, in columns that tell where they are. -/
def comm (words : List Text) : Activity Nat :=
  withOptions "comm" ⟨['1', '2', '3', 'z'], ['o'], [("output-delimiter", 'o')]⟩ words failed
    fun o => withTwo "comm" failed o.operands fun first second => do
      let mark := (o.value? 'o').getD ['\t']
      let column (c : Char) : Text := if o.has c then [] else mark
      let (first, second) := (linesOf first, linesOf second)
      let all := merged (first.length + second.length + 1) first second
      let line (entry : Ordering × Text) : Option Text :=
        match entry with
        | (.lt, t) => if o.has '1' then none else some t
        | (.gt, t) => if o.has '2' then none else some (column '1' ++ t)
        | (.eq, t) => if o.has '3' then none else some (column '1' ++ column '2' ++ t)
      printing "comm" (ofLines (all.filterMap line)) success

/-! ### Differences -/

/-- The lengths of the longest rows that the ends of two lists have in common. -/
def commonLengths (as bs : Array Text) : Array (Array Nat) :=
  let last : Array Nat := .replicate (bs.size + 1) 0
  ((List.range as.size).foldl (fun (rows : List (Array Nat)) back =>
    let a := as.getD (as.size - 1 - back) []
    let below := rows.headD last
    let row := (List.range bs.size).foldl (fun (row : List Nat) back =>
      let j := bs.size - 1 - back
      let best := if bs.getD j [] = a then below.getD (j + 1) 0 + 1
        else max (below.getD j 0) (row.headD 0)
      best :: row) [0]
    row.toArray :: rows) [last]).toArray

/-- A place where two lists differ: so many elements of the first stand for so many of the other. -/
structure Difference where
  first : Nat
  firstCount : Nat
  second : Nat
  secondCount : Nat
  deriving DecidableEq, Repr

/-- The places where two lists differ, from places in them on and in at most so many steps. The
difference at hand is given. -/
def differences (as bs : Array Text) (lengths : Array (Array Nat)) :
    Nat → Difference → List Difference
  | 0, d => [d]
  | steps + 1, d =>
    let (i, j) := (d.first + d.firstCount, d.second + d.secondCount)
    let length (i j : Nat) : Nat := (lengths.getD i #[]).getD j 0
    let isOpen := d.firstCount != 0 || d.secondCount != 0
    if as.size ≤ i ∧ bs.size ≤ j then (if isOpen then [d] else [])
    else if i < as.size ∧ j < bs.size ∧ as.getD i [] = bs.getD j [] then
      (if isOpen then [d] else []) ++ differences as bs lengths steps ⟨i + 1, 0, j + 1, 0⟩
    else if j < bs.size ∧ (as.size ≤ i ∨ length (i + 1) j < length i (j + 1)) then
      differences as bs lengths steps { d with secondCount := d.secondCount + 1 }
    else differences as bs lengths steps { d with firstCount := d.firstCount + 1 }

/-- A difference as it is written. -/
def Difference.lines (as bs : Array Text) (d : Difference) : List Text :=
  let range (start count : Nat) : Text :=
    if count = 0 then ofNat start
    else if count = 1 then ofNat (start + 1)
    else ofNat (start + 1) ++ ',' :: ofNat (start + count)
  let letter := if d.firstCount = 0 then 'a' else if d.secondCount = 0 then 'd' else 'c'
  let shown (sign : Char) (all : Array Text) (start count : Nat) : List Text :=
    ((all.toList.drop start).take count).map fun line => sign :: ' ' :: line
  [range d.first d.firstCount ++ letter :: range d.second d.secondCount] ++
    shown '<' as d.first d.firstCount ++
    (if letter = 'c' then [['-', '-', '-']] else []) ++
    shown '>' bs d.second d.secondCount

/-- Writes in which lines two inputs differ. -/
def diff (words : List Text) : Activity Nat :=
  withOptions "diff" ⟨['q', 's', 'a', 'i', 'w', 'b', 'N'], [], [("brief", 'q'),
    ("report-identical-files", 's'), ("ignore-case", 'i')]⟩ words misused fun o =>
    withTwo "diff" misused o.operands fun first second => do
      let names := (o.operands.headD [], o.operands.getD 1 [])
      let (as, bs) := ((linesOf first).toArray, (linesOf second).toArray)
      let shape (line : Text) : Text :=
        let line := if o.has 'i' then line.map Char.toLower else line
        if o.has 'w' then line.filter fun c => !isBlank c else line
      let (keysA, keysB) := (as.map shape, bs.map shape)
      if keysA = keysB then
        if o.has 's' then
          print (ofString "Files " ++ names.1 ++ ofString " and " ++ names.2 ++
            ofString " are identical\n")
        else return success
      else if o.has 'q' then
        let _ ← print (ofString "Files " ++ names.1 ++ ofString " and " ++ names.2 ++
          ofString " differ\n")
        return failed
      else
        let all := differences keysA keysB (commonLengths keysA keysB) (as.size + bs.size + 2)
          ⟨0, 0, 0, 0⟩
        printing "diff" (ofLines (all.flatMap fun d => d.lines as bs)) failed

end LspSession.Utility
