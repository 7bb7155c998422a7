import LspSession.Host.Shell.Arithmetic

/-!
# `LspSession.Host.Shell.Condition`: conditions

A condition is a row of words. It compares texts or numbers, asks about files, and can be put
together from others. With three words the one in the middle decides first whether two texts are
compared, so that texts that look like operators can be compared too.
-/

set_option autoImplicit false

namespace LspSession.Shell

namespace Condition

open Activity

/-- The operators in front of a word. -/
def unary : List String :=
  ["-r", "-w", "-x", "-e", "-f", "-d", "-c", "-b", "-p", "-u", "-g", "-k", "-s", "-t", "-z", "-n",
    "-h", "-O", "-G", "-L", "-S"]

/-- The operators between two words. -/
def binary : List String :=
  ["=", "!=", "<", ">", "-eq", "-ne", "-ge", "-gt", "-le", "-lt", "-nt", "-ot", "-ef"]

/-- Whether a word is one of some operators. -/
def isOneOf (operators : List String) (word : Text) : Bool :=
  operators.any fun o => o.toList == word

/-- Whether the first of some words is an operator in front of a word. -/
def startsUnary (words : List Text) : Bool :=
  match words with
  | [operator, _] => isOneOf unary operator
  | operator :: next :: _ => isOneOf unary operator && !isOneOf binary next
  | _ => false

/-- The decimal number that a word with blanks around it stands for, if it is not too large. -/
def number? (word : Text) : Option Int :=
  let text := word.dropWhile readNumber?.isInSpace
  let digits := match text with
    | '-' :: rest | '+' :: rest => rest
    | _ => text
  let found := digits.takeWhile isDigit
  let value : Int := valueIn 10 found
  let value := if text.head? = some '-' then -value else value
  if found ≠ [] ∧ (digits.drop found.length).all readNumber?.isInSpace ∧ clamp value = value then
    some value
  else none

/-- The number that a word stands for. -/
def number (word : Text) : Activity Int := do
  match number? word with
  | some n => return n
  | none => fail (ofString "Illegal number: " ++ word)

/-- What there is at the end of a path. -/
def statusOf? (path : Text) (followLast : Bool) : Activity (Option FileStatus) := do
  match ← call (.status (toPath path) followLast) with
  | .ok status => return some status
  | .error _ => return none

/-- How many bytes there are in something. -/
def sizeOf : Node → Nat
  | .file bytes _ => bytes.length
  | .program _ => 1
  | .directory => 4096
  | .link target => target.utf8ByteSize
  | .device _ => 0

/-- Whether something can be run. -/
def isExecutable : Node → Bool
  | .file _ executable => executable
  | .directory | .program _ => true
  | _ => false

/-- Whether what an operator says of a word is so. -/
def holdsFor (operator : String) (word : Text) : Activity Bool := do
  let status? := statusOf? word (operator != "-h" && operator != "-L")
  let ask (f : Node → Bool) : Activity Bool := do
    return (← status?).any fun status => f status.node
  match operator with
  | "-z" => return word.isEmpty
  | "-n" => return !word.isEmpty
  | "-t" =>
    let _ ← number word
    return false
  | "-f" => ask fun
    | .file .. | .program _ => true
    | _ => false
  | "-d" => ask Node.isDirectory
  | "-c" => ask fun
    | .device _ => true
    | _ => false
  | "-h" | "-L" => ask fun
    | .link _ => true
    | _ => false
  | "-s" => ask fun node => sizeOf node != 0
  | "-x" => ask isExecutable
  | "-e" | "-r" | "-w" | "-O" | "-G" => ask fun _ => true
  | _ => return false

/-- Whether what an operator says of two words is so. -/
def holdsBetween (operator : String) (left right : Text) : Activity Bool := do
  let compare (f : Int → Int → Bool) : Activity Bool := do
    return f (← number left) (← number right)
  match operator with
  | "=" => return left == right
  | "!=" => return left != right
  | "<" => return left < right
  | ">" => return right < left
  | "-eq" => compare (· == ·)
  | "-ne" => compare (· != ·)
  | "-ge" => compare (· ≥ ·)
  | "-gt" => compare (· > ·)
  | "-le" => compare (· ≤ ·)
  | "-lt" => compare (· < ·)
  | "-ef" =>
    match ← statusOf? left true, ← statusOf? right true with
    | some a, some b => return a.place == b.place && !a.isPipe
    | _, _ => return false
  | _ => return false

mutual

/-- Decides alternatives at the start of some words, and gives the words that follow. -/
def either : Nat → List Text → Activity (Bool × List Text)
  | 0, words => return (false, words)
  | steps + 1, words => do
    let (first, rest) ← both steps words
    match rest with
    | ['-', 'o'] :: rest =>
      let (second, rest) ← either steps rest
      return (first || second, rest)
    | rest => return (first, rest)

/-- Decides conditions that all have to hold, at the start of some words. -/
def both : Nat → List Text → Activity (Bool × List Text)
  | 0, words => return (false, words)
  | steps + 1, words => do
    let (first, rest) ← negation steps words
    match rest with
    | ['-', 'a'] :: rest =>
      let (second, rest) ← both steps rest
      return (first && second, rest)
    | rest => return (first, rest)

/-- Decides a condition that may be negated, at the start of some words. -/
def negation : Nat → List Text → Activity (Bool × List Text)
  | 0, words => return (false, words)
  | steps + 1, words => do
    match words with
    | ['!'] :: next :: rest =>
      let (inner, rest) ← negation steps (next :: rest)
      return (!inner, rest)
    | words => simple steps words

/-- Decides a condition that is not put together from others, at the start of some words. -/
def simple : Nat → List Text → Activity (Bool × List Text)
  | 0, words => return (false, words)
  | steps + 1, words => do
    match words with
    | [] => return (false, [])
    | ['('] :: next :: rest =>
      if next = [')'] then return (false, rest)
      let (inner, rest) ← either steps (next :: rest)
      match rest with
      | [')'] :: rest => return (inner, rest)
      | _ => fail (ofString "closing paren expected")
    | first :: second :: rest =>
      if startsUnary words then return (← holdsFor (String.ofList first) second, rest)
      else if isOneOf binary second then
        match rest with
        | third :: rest => return (← holdsBetween (String.ofList second) first third, rest)
        | [] => fail (second ++ ofString ": argument expected")
      else return (!first.isEmpty, second :: rest)
    | [only] => return (!only.isEmpty, [])

end

/-- Decides words that are put together from conditions. -/
def whole (words : List Text) : Activity Bool := do
  let (answer, rest) ← either (8 * words.length + 8) words
  match rest with
  | _ :: _ =>
    let last := words[words.length - rest.length - 1]?.getD []
    fail (last ++ ofString ": unexpected operator")
  | [] => return answer

/-- Decides a condition. -/
def holds (words : List Text) : Activity Bool := do
  match words with
  | [left, operator, right] =>
    if isOneOf binary operator then holdsBetween (String.ofList operator) left right
    else if left = ['!'] then return !(← whole [operator, right])
    else if left = ['('] ∧ right = [')'] then return !operator.isEmpty
    else whole words
  | [['!'], a, b, c] =>
    if isOneOf binary b then return !(← holdsBetween (String.ofList b) a c)
    else return !(← whole [a, b, c])
  | words => whole words

/-- The status of a condition. -/
def test (words : List Text) : Activity Nat := do
  return if ← holds words then success else failed

/-- The status of a condition between brackets. -/
def bracket (words : List Text) : Activity Nat := do
  if words.getLast? = some [']'] then test words.dropLast
  else fail (ofString "missing ]")

end Condition

end LspSession.Shell
