import LspSession.Host.Utility.Basic

/-!
# `LspSession.Host.Utility.Spacing`: tabs and blanks

A tab stands for the blanks up to the next stop. Stops come at equal distances, or they are listed
and behind the last of them a tab is one blank.
-/

set_option autoImplicit false

namespace LspSession.Utility

open Shell Shell.Activity

/-- Where the stops of tabs are. -/
inductive Stops where
  | every (width : Nat)
  | listed (columns : List Nat)
  deriving DecidableEq, Repr

/-- Reads where the stops of tabs are. -/
def Stops.ofText? (text : Text) : Option Stops := do
  let columns ← ((text.splitOnP fun c => c == ',' || c == ' ').filter (· ≠ [])).mapM natural?
  match columns with
  | [] => some (.every 8)
  | [0] => none
  | [width] => some (.every width)
  | columns => if columns.contains 0 then none else some (.listed columns)

/-- The first stop behind a column. -/
def Stops.next (s : Stops) (column : Nat) : Nat :=
  match s with
  | .every width => (column / width + 1) * width
  | .listed columns => (columns.find? (column < ·)).getD (column + 1)

/-- A line with blanks for tabs, from a column on. Behind other characters tabs may stay. -/
def expandLine (s : Stops) (initialOnly : Bool) (column : Nat) : Text → Text
  | [] => []
  | '\t' :: rest =>
    let stop := s.next column
    List.replicate (stop - column) ' ' ++ expandLine s initialOnly stop rest
  | '\x08' :: rest => '\x08' :: expandLine s initialOnly (column - 1) rest
  | c :: rest =>
    if initialOnly && c != ' ' then c :: rest else c :: expandLine s initialOnly (column + 1) rest

/-- A line with tabs for blanks, from a column on. The blanks since the last stop are counted, and
whether a tab was among them is given. -/
def unexpandLine (s : Stops) (everywhere : Bool) (column pending : Nat) : Text → Text
  | [] => List.replicate pending ' '
  | c :: rest =>
    if isBlank c then
      let stop := s.next column
      if c = '\t' then '\t' :: unexpandLine s everywhere stop 0 rest
      else if column + 1 = stop then
        (if pending = 0 ∧ !(rest.head?.any isBlank) ∧ everywhere then ' ' else '\t') ::
          unexpandLine s everywhere stop 0 rest
      else unexpandLine s everywhere (column + 1) (pending + 1) rest
    else
      let front := List.replicate pending ' '
      if everywhere then front ++ c :: unexpandLine s everywhere (column + 1) 0 rest
      else front ++ c :: rest

/-- The words with numbers behind a dash as stops of tabs. -/
def stopWords (words : List Text) : List Text :=
  words.map fun
    | '-' :: c :: more => if isDigit c then '-' :: 't' :: c :: more else '-' :: c :: more
    | word => word

/-- Changes every line of the inputs, given the stops of tabs. -/
def withStops (utility : String) (o : Options) (change : Stops → Text → Text) : Activity Nat := do
  match Stops.ofText? ((o.value? 't').getD ['8']) with
  | none =>
    let given := (o.value? 't').getD []
    refuse utility (if given.all isDigit then "tab size cannot be 0"
      else "tab size contains invalid character(s): " ++ quote (given.dropWhile isDigit)) failed
  | some stops =>
    let (text, status) ← readInputs utility o.operands
    let lines := (linesOf text).map (change stops)
    let whole := text.getLast? = some '\n' ∨ text = []
    printing utility (if whole then ofLines lines else (ofLines lines).dropLast) status

/-- Writes blanks for tabs. -/
def expand (words : List Text) : Activity Nat :=
  withOptions "expand" ⟨['i'], ['t'], [("initial", 'i'), ("tabs", 't')]⟩ (stopWords words) failed
    fun o => withStops "expand" o fun stops line => expandLine stops (o.has 'i') 0 line

/-- Writes tabs for blanks. -/
def unexpand (words : List Text) : Activity Nat :=
  withOptions "unexpand" ⟨['a', 'f'], ['t'], [("all", 'a'), ("first-only", 'f'), ("tabs", 't')]⟩
    (stopWords words) failed fun o => withStops "unexpand" o fun stops line =>
      unexpandLine stops ((o.has 'a' || o.has 't') && !o.has 'f') 0 0 line

end LspSession.Utility
