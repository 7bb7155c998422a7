import LspSession.Host.Utility.Records.Value
import LspSession.Host.Utility.Regex

/-!
# `LspSession.Host.Utility.Records.Syntax`: scripts over records

A script has rules and functions. A rule says for which records it holds and what is done then. What
is done is made of statements, and they of expressions.
-/

set_option autoImplicit false

namespace LspSession.Utility.Records

open Shell

/-- An operator between numbers. -/
inductive Arithmetic where
  | add | subtract | multiply | divide | modulo | raise
  deriving DecidableEq, Repr

/-- A way to compare values. -/
inductive Comparison where
  | less | lessEqual | equal | notEqual | greater | greaterEqual
  deriving DecidableEq, Repr

/-- An expression. -/
inductive Expression where
  | number (x : Fraction)
  | text (t : Text)
  /-- Whether a pattern is found in the record, or the pattern itself where one is expected. -/
  | pattern (r : Regex)
  | variable (name : Text)
  /-- An element of an array. -/
  | element (name : Text) (subscripts : List Expression)
  | field (index : Expression)
  /-- Puts a value into a place, perhaps combined with the value there. -/
  | assign (place : Expression) (operator : Option Arithmetic) (value : Expression)
  /-- Adds one to a place or takes one away. The value is the one before, if so said. -/
  | step (place : Expression) (up before : Bool)
  | negative (e : Expression)
  | positive (e : Expression)
  | not (e : Expression)
  | calculate (operator : Arithmetic) (a b : Expression)
  | compare (operator : Comparison) (a b : Expression)
  | join (a b : Expression)
  /-- Whether a pattern is found in a text, or is not. -/
  | finds (negated : Bool) (subject pattern : Expression)
  | isIn (subscripts : List Expression) (name : Text)
  | both (a b : Expression)
  | either (a b : Expression)
  | choice (condition yes no : Expression)
  | call (name : Text) (arguments : List Expression)
  /-- Reads the next record: of the inputs, of a file or of what a command writes. -/
  | readRecord (place : Option Expression) (isCommand : Bool) (source : Option Expression)
  deriving Inhabited

/-- Whether something can be put there. -/
def Expression.isPlace : Expression → Bool
  | .variable _ | .element .. | .field _ => true
  | _ => false

/-- Where output goes. -/
inductive Outlet where
  | write | append | command
  deriving DecidableEq, Repr

/-- A statement. -/
inductive Statement where
  | simple (e : Expression)
  /-- Writes values, by a format if so said. -/
  | print (byFormat : Bool) (values : List Expression) (target : Option (Outlet × Expression))
  | block (body : List Statement)
  | choice (condition : Expression) (yes no : Statement)
  /-- Does something again and again, and a step after each time. -/
  | loop (testsFirst : Bool) (condition : Expression) (step body : Statement)
  | each (name array : Text) (body : Statement)
  | next
  | nextInput
  | exit (status : Option Expression)
  | leave
  | again
  | giveBack (value : Option Expression)
  /-- Removes an element, or all of them. -/
  | delete (name : Text) (subscripts : List Expression)
  deriving Inhabited

/-- When a rule holds. -/
inductive Occasion where
  /-- Before all records. -/
  | start
  /-- After all records. -/
  | finish
  | always
  | whenever (condition : Expression)
  /-- From a record up to another one. -/
  | between (first last : Expression)

/-- A rule. Without a body the record is written. -/
structure Rule where
  occasion : Occasion
  body : Option Statement

/-- A function. -/
structure Procedure where
  parameters : List Text
  body : Statement

/-- A script. -/
structure Script where
  rules : List Rule
  procedures : List (Text × Procedure)

end LspSession.Utility.Records
