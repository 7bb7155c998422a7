import LspSession.Host.Shell.Arithmetic
import LspSession.Host.Utility.Basic

/-!
# `LspSession.Host.Utility.Calendar`: dates and times

A time is a number of seconds since the start of the year 1970. A day of the calendar is found by
counting in cycles of four hundred years, which start with the first of March.
-/

set_option autoImplicit false

namespace LspSession.Utility

open Shell Shell.Activity

/-- A day of the calendar. -/
structure Day where
  year : Int
  month : Nat
  day : Nat
  deriving DecidableEq, Repr

namespace Day

/-- How many days a cycle of four hundred years has. -/
def cycle : Int := 146097

/-- The number of days from the first of March of the year zero to the start of 1970. -/
def shift : Int := 719468

/-- The day with a number, counted from the start of 1970. -/
def ofNumber (n : Int) : Day :=
  let n := n + shift
  let era := n.fdiv cycle
  let inEra := (n - era * cycle).toNat
  let year := (inEra - inEra / 1460 + inEra / 36524 - inEra / 146096) / 365
  let inYear := inEra - (365 * year + year / 4 - year / 100)
  let month := (5 * inYear + 2) / 153
  let day := inYear - (153 * month + 2) / 5 + 1
  let month := if month < 10 then month + 3 else month - 9
  ⟨year + era * 400 + (if month ≤ 2 then 1 else 0), month, day⟩

/-- The number of a day, counted from the start of 1970. -/
def number (d : Day) : Int :=
  let year := if d.month ≤ 2 then d.year - 1 else d.year
  let era := year.fdiv 400
  let inCycle := (year - era * 400).toNat
  let month := if d.month ≤ 2 then d.month + 9 else d.month - 3
  let inYear := (153 * month + 2) / 5 + d.day - 1
  era * cycle + (inCycle * 365 + inCycle / 4 - inCycle / 100 + inYear : Nat) - shift

/-- The names of the days of the week, from Sunday on. -/
def weekNames : List String :=
  ["Sunday", "Monday", "Tuesday", "Wednesday", "Thursday", "Friday", "Saturday"]

/-- The names of the months. -/
def monthNames : List String :=
  ["January", "February", "March", "April", "May", "June", "July", "August", "September", "October",
    "November", "December"]

end Day

/-- Digits filled up to a width. -/
def padded (fill : Char) (width : Nat) (n : Int) : Text :=
  let digits := ofInt n
  List.replicate (width - digits.length) fill ++ digits

/-- What a letter of a format stands for at a time, in seconds and nanoseconds. -/
def dateField (seconds : Int) (nanoseconds : Nat) (letter : Char) : Text :=
  let days := seconds.fdiv 86400
  let rest := (seconds - days * 86400).toNat
  let day := Day.ofNumber days
  let weekday := ((days + 4).emod 7).toNat
  let (hour, minute, second) := (rest / 3600, rest / 60 % 60, rest % 60)
  let twelve := if hour % 12 = 0 then 12 else hour % 12
  let weekName := Day.weekNames.getD weekday ""
  let monthName := Day.monthNames.getD (day.month - 1) ""
  let short (name : String) : Text := name.toList.take 3
  let time := padded '0' 2 hour ++ ':' :: padded '0' 2 minute ++ ':' :: padded '0' 2 second
  let inYear := days - (Day.mk day.year 1 1).number
  match letter with
  | 'Y' => ofInt day.year
  | 'C' => padded '0' 2 (day.year.fdiv 100)
  | 'y' => padded '0' 2 (day.year.emod 100)
  | 'm' => padded '0' 2 day.month
  | 'd' => padded '0' 2 day.day
  | 'e' => padded ' ' 2 day.day
  | 'H' => padded '0' 2 hour
  | 'k' => padded ' ' 2 hour
  | 'I' => padded '0' 2 twelve
  | 'l' => padded ' ' 2 twelve
  | 'M' => padded '0' 2 minute
  | 'S' => padded '0' 2 second
  | 'N' => padded '0' 9 nanoseconds
  | 's' => ofInt seconds
  | 'j' => padded '0' 3 (inYear + 1)
  | 'u' => ofNat (if weekday = 0 then 7 else weekday)
  | 'w' => ofNat weekday
  | 'p' => if hour < 12 then ['A', 'M'] else ['P', 'M']
  | 'P' => if hour < 12 then ['a', 'm'] else ['p', 'm']
  | 'a' => short weekName
  | 'A' => weekName.toList
  | 'b' | 'h' => short monthName
  | 'B' => monthName.toList
  | 'F' => ofInt day.year ++ '-' :: padded '0' 2 day.month ++ '-' :: padded '0' 2 day.day
  | 'D' | 'x' => padded '0' 2 day.month ++ '/' :: padded '0' 2 day.day ++ '/' ::
      padded '0' 2 (day.year.emod 100)
  | 'T' | 'X' => time
  | 'R' => time.take 5
  | 'r' =>
    padded '0' 2 twelve ++ time.drop 2 ++ [' ', if hour < 12 then 'A' else 'P', 'M']
  | 'c' => short weekName ++ ' ' :: short monthName ++ ' ' :: padded ' ' 2 day.day ++ ' ' :: time ++
      ' ' :: ofInt day.year
  | 'Z' => ['U', 'T', 'C']
  | 'z' => "+0000".toList
  | 'n' => ['\n']
  | 't' => ['\t']
  | '%' => ['%']
  | c => ['%', c]

/-- A time written by a format. -/
def dateText (seconds : Int) (nanoseconds : Nat) : Text → Text
  | [] => []
  | '%' :: '-' :: c :: rest =>
    let field := dateField seconds nanoseconds c
    let trimmed := field.dropWhile fun c => c == '0' || c == ' '
    (if trimmed = [] then ['0'] else trimmed) ++ dateText seconds nanoseconds rest
  | '%' :: c :: rest => dateField seconds nanoseconds c ++ dateText seconds nanoseconds rest
  | c :: rest => c :: dateText seconds nanoseconds rest

/-- The time that a text stands for. -/
def timeOf? (text : Text) : Option Int :=
  let number (t : Text) : Option Nat := natural? t
  let day? (t : Text) : Option Int :=
    match (t.splitOn '-').map number with
    | [some y, some m, some d] =>
      let n := (Day.mk y m d).number
      if Day.ofNumber n = ⟨y, m, d⟩ then some (n * 86400) else none
    | _ => none
  let clock? (t : Text) : Option Int :=
    match (t.splitOn ':').map number with
    | [some h, some m] => if h < 24 ∧ m < 60 then some (h * 3600 + m * 60) else none
    | [some h, some m, some s] =>
      if h < 24 ∧ m < 60 ∧ s < 61 then some (h * 3600 + m * 60 + s) else none
    | _ => none
  match text with
  | '@' :: '-' :: digits => (number digits).map fun n => -(n : Int)
  | '@' :: digits => (number digits).map fun n => (n : Int)
  | text =>
    let words := (text.splitOnP fun c => c == ' ' || c == 'T').filter (· ≠ [])
    let words := words.filter fun w => w ≠ ['U', 'C'] ∧ w ≠ ['U', 'T', 'C'] ∧ w ≠ ['Z']
    let trim (t : Text) : Text := if t.getLast? = some 'Z' then t.dropLast else t
    match words.map trim with
    | [d] => day? d
    | [d, c] => do
      let day ← day? d
      return day + (← clock? c)
    | _ => none

/-- The time at which the clock stands at zero. -/
def clockStart : Int := 1750000000

/-- Writes the time. -/
def date (words : List Text) : Activity Nat :=
  withOptions "date" ⟨['u', 'R'], ['d', 'r', 'I'], [("utc", 'u'), ("universal", 'u'), ("date", 'd'),
    ("iso-8601", 'I'), ("rfc-email", 'R')]⟩
    (words.map fun w => if w = "-I".toList then "-Idate".toList else w) failed fun o => do
    let now : Nat ← call .clock
    let form : Text := match o.operands with
      | ('+' :: form) :: _ => form
      | _ =>
        if o.has 'R' then "%a, %d %b %Y %H:%M:%S %z".toList
        else
          match o.value? 'I' with
          | some ['s', 'e', 'c', 'o', 'n', 'd', 's'] => "%FT%T+00:00".toList
          | some _ => "%F".toList
          | none => "%a %b %e %H:%M:%S %Z %Y".toList
    match o.value? 'd' with
    | some text =>
      match timeOf? text with
      | some time => printing "date" (dateText time 0 form ++ ['\n']) success
      | none => refuse "date" ("invalid date " ++ quote text) failed
    | none =>
      printing "date" (dateText (clockStart + now / 1000000000) (now % 1000000000) form ++ ['\n'])
        success

end LspSession.Utility
