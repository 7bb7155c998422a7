import LspSession.Host.Shell.Arithmetic
import LspSession.Host.Utility.Basic
import LspSession.Host.Utility.Regex

/-!
# `LspSession.Host.Utility.Search`: lines with a pattern

The lines of an input are chosen by whether a regular expression is found in them. Chosen lines are
copied, perhaps with lines around them, or they are counted, or only the inputs are named that have
some.
-/

set_option autoImplicit false

namespace LspSession.Utility

open Shell Shell.Activity

/-- An expression that is found only between characters that belong to no word, or only as a whole
line. -/
def bounded (words lines : Bool) (r : Regex) : Regex :=
  if lines then .both .start (.both r .finish)
  else if words then .both (.edge true false) (.both r (.edge false true))
  else r

/-- An expression that stands for a text itself. -/
def literally (text : Text) : Regex := text.foldr (fun c r => .both (.char c) r) .empty

/-- Where an expression is found in a line, from a place on, at most so many times. -/
def findAll (r : Regex) (s : Regex.Subject) : Nat → Nat → List (Nat × Nat)
  | 0, _ => []
  | times + 1, place =>
    match r.find? s place with
    | none => []
    | some (low, found) =>
      let high := found.position
      (low, high) :: findAll r s times (if high = low then high + 1 else high)

/-- A line of an input. -/
structure Candidate where
  text : Text
  number : Nat
  /-- How many characters there are before it. -/
  offset : Nat
  isChosen : Bool

/-- The lines of an input, with what is known about them. -/
def candidates (chooses : Text → Bool) : Nat → Nat → List Text → List Candidate
  | _, _, [] => []
  | number, offset, line :: rest =>
    ⟨line, number, offset, chooses line⟩ ::
      candidates chooses (number + 1) (offset + line.length + 1) rest

/-- Candidates of which at most so many are chosen. Behind the last one come only those around
it. -/
def limit (around : Nat) : Nat → List Candidate → List Candidate
  | _, [] => []
  | 0, rest => (rest.take around).takeWhile fun c => !c.isChosen
  | most + 1, c :: rest => c :: limit around (if c.isChosen then most else most + 1) rest

/-- The candidates that are shown: those that are chosen, and so many before and after each. -/
def shown (before after : Nat) (all : List Candidate) : List Candidate :=
  let chosen := (all.filter (·.isChosen)).map (·.number)
  all.filter fun c => c.isChosen ||
    chosen.any fun n => (n ≤ c.number && c.number ≤ n + after) ||
      (c.number ≤ n && n ≤ c.number + before)

/-- What is written for the lines of an input: how many were chosen, and what is shown of them. -/
def searchLines (o : Options) (r : Regex) (name : Option Text) (text : Text) : Nat × Text :=
  let mark := if o.has 'z' then '\x00' else '\n'
  let subject (line : Text) : Regex.Subject := ⟨line.toArray, o.has 'i' || o.has 'y'⟩
  let count (letter : Char) : Option Nat := ((o.value? letter).or (o.value? 'C')).bind natural?
  let (before, after) := ((count 'B').getD 0, (count 'A').getD 0)
  let all := candidates (fun line => (r.find? (subject line) 0).isSome != o.has 'v') 1 0
    (partsOf mark text)
  let all := match (o.value? 'm').bind natural? with
    | some n => limit after n all
    | none => all
  let front (c : Candidate) (offset : Nat) : Text :=
    let sign := if c.isChosen then ':' else '-'
    (match name with
      | some name => name ++ [sign]
      | none => []) ++
    (if o.has 'n' then ofNat c.number ++ [sign] else []) ++
    (if o.has 'b' then ofNat offset ++ [sign] else [])
  let line (c : Candidate) : Text :=
    if o.has 'o' then
      let s := subject c.text
      if o.has 'v' || !c.isChosen then []
      else (findAll r s (c.text.length + 1) 0).flatMap fun (low, high) =>
        if low = high then [] else front c (c.offset + low) ++ s.slice low high ++ [mark]
    else front c c.offset ++ c.text ++ [mark]
  let rec join : Option Nat → List Candidate → List Text
    | _, [] => []
    | last, c :: rest =>
      let gap := (before != 0 || after != 0) && last.any fun n => n + 1 < c.number
      (if gap then ofString "--\n" else []) :: line c :: join (some c.number) rest
  (all.countP (·.isChosen), (join none (shown before after all)).flatten)

/-- What the searcher of lines takes as options. -/
def searchOptions : OptionTable :=
  ⟨['E', 'F', 'G', 'P', 'v', 'i', 'y', 'c', 'n', 'q', 's', 'l', 'L', 'o', 'w', 'x', 'h', 'H', 'a',
      'b', 'z', 'r', 'R', 'I', 'U'], ['e', 'm', 'f', 'A', 'B', 'C'],
    [("extended-regexp", 'E'), ("fixed-strings", 'F'), ("basic-regexp", 'G'), ("perl-regexp", 'P'),
      ("invert-match", 'v'), ("ignore-case", 'i'), ("count", 'c'), ("line-number", 'n'),
      ("quiet", 'q'), ("silent", 'q'), ("no-messages", 's'), ("files-with-matches", 'l'),
      ("files-without-match", 'L'), ("only-matching", 'o'), ("word-regexp", 'w'),
      ("line-regexp", 'x'), ("no-filename", 'h'), ("with-filename", 'H'), ("text", 'a'),
      ("byte-offset", 'b'), ("null-data", 'z'), ("recursive", 'r'), ("regexp", 'e'),
      ("file", 'f'), ("max-count", 'm'), ("after-context", 'A'), ("before-context", 'B'),
      ("context", 'C')]⟩

/-- A number with a dash in front counts the lines around a line. -/
def contextWords (words : List Text) : List Text :=
  words.map fun
    | '-' :: c :: more =>
      if (c :: more).all isDigit then '-' :: 'C' :: c :: more else '-' :: c :: more
    | word => word

/-- The expressions that are looked for, given the ways in which texts stand for them. -/
def searched (mode : Char) (o : Options) (texts : List Text) : Except String (Option Regex) := do
  let mode := (o.found.filterMap fun (letter, _) =>
    (["E", "F", "G", "P"].find? (· == letter)).map fun l => l.toList.headD 'G').getLast?.getD mode
  let read (text : Text) : Except String Regex :=
    if mode = 'F' then .ok (literally text) else Regex.ofText (mode == 'E' || mode == 'P') text
  match ← texts.mapM read with
  | [] => return none
  | first :: rest => return some (bounded (o.has 'w') (o.has 'x') (rest.foldl Regex.either first))

/-- Copies the lines of inputs in which a pattern is found. -/
def grep (mode : Char) (words : List Text) : Activity Nat :=
  withOptions "grep" searchOptions (contextWords words) misused fun o => do
    let (listed, status) ←
      if o.has 'f' then readEach "grep" (o.values 'f') else pure ([], success)
    if status ≠ success then return misused
    let given := o.values 'e' ++ listed.flatMap fun (_, text) => linesOf text
    let isGiven := o.has 'e' || o.has 'f'
    if !isGiven && o.operands.isEmpty then
      let _ ← complain (ofString "Usage: grep [OPTION]... PATTERNS [FILE]...") misused
      complain (ofString "Try 'grep --help' for more information.") misused
    else
      let (patterns, paths) := if isGiven then (given, o.operands)
        else (o.operands.take 1, o.operands.tail)
      match searched mode o (patterns.flatMap fun text => text.splitOn '\n') with
      | .error message => refuse "grep" message misused
      | .ok none => return failed
      | .ok (some r) =>
        let titled := o.has 'H' || (1 < paths.length && !o.has 'h')
        let mut count := 0
        let mut trouble := success
        for path in if paths = [] then [['-']] else paths do
          let name := if path = ['-'] then ofString "(standard input)" else path
          match ← readInput path with
          | .error e =>
            trouble := misused
            if !o.has 's' then
              let _ ← refuseFile "grep" path e
          | .ok text =>
            let (n, found) := searchLines o r (if titled then some name else none) text
            count := count + n
            if o.has 'q' then pure ()
            else if o.has 'l' || o.has 'L' then
              if (n != 0) == o.has 'l' then
                let _ ← print (name ++ ['\n'])
            else if o.has 'c' then
              let _ ← print ((if titled then name ++ [':'] else []) ++ ofNat n ++ ['\n'])
            else
              let _ ← printing "grep" found success
        if count ≠ 0 ∧ o.has 'q' then return success
        return if trouble ≠ success then trouble else if count = 0 then failed else success

end LspSession.Utility
