import LspSession.Host.Shell.State

/-!
# `LspSession.Host.Shell.Arithmetic`: arithmetic expressions

An arithmetic expression is made of whole numbers, variables and operators. `Expression.ofText`
reads one by the precedence of its operators, and `Expression.evaluate` works it out. Numbers have
64 bits, with a sign, and what does not fit wraps around. The value of a variable is a number, or
zero if it is empty or missing.
-/

set_option autoImplicit false

namespace LspSession.Shell

/-- The number that the last 64 bits of a number stand for. -/
def wrap (n : Int) : Int := Int.bmod n 18446744073709551616

/-- The value of a digit in a base up to sixteen. -/
def digitIn? (base : Nat) (c : Char) : Option Nat :=
  let value :=
    if isDigit c then some (c.toNat - 48)
    else if 'a' ≤ c && c ≤ 'f' then some (c.toNat - 87)
    else if 'A' ≤ c && c ≤ 'F' then some (c.toNat - 55)
    else none
  value.filter (· < base)

/-- The number that digits in a base make up. -/
def valueIn (base : Nat) (digits : Text) : Nat :=
  digits.foldl (fun value c => base * value + (digitIn? base c).getD 0) 0

/-- The number at the start of a text and what follows it. Numbers can be octal or hexadecimal. -/
def spanNumber (text : Text) : Nat × Text :=
  let inBase (base : Nat) (text : Text) : Nat × Text :=
    let digits := text.takeWhile fun c => (digitIn? base c).isSome
    (valueIn base digits, text.drop digits.length)
  match text with
  | '0' :: 'x' :: c :: rest | '0' :: 'X' :: c :: rest =>
    if (digitIn? 16 c).isSome then inBase 16 (c :: rest) else (0, text.tail)
  | '0' :: _ => inBase 8 text
  | _ => inBase 10 text

/-- The greatest number. -/
def greatestNumber : Int := 9223372036854775807

/-- A number that is cut off at the greatest and the least one. -/
def clamp (n : Int) : Int := max (-greatestNumber - 1) (min greatestNumber n)

/-- The number that a text with blanks around it stands for. -/
def readNumber? (text : Text) : Option Int :=
  let isSpace (c : Char) : Bool := isInSpace c
  let text := text.dropWhile isSpace
  let digits := match text with
    | '-' :: rest | '+' :: rest => rest
    | _ => text
  if !(digits.head?.any isDigit) then none
  else
    let (n, rest) := spanNumber digits
    if rest.all isSpace then some (clamp (if text.head? = some '-' then -n else n)) else none
where
  /-- Whether a character stands between numbers. -/
  isInSpace (c : Char) : Bool := c == ' ' || ('\t' ≤ c && c ≤ '\r')

/-- An arithmetic expression. -/
inductive Expression where
  | number (n : Int)
  | reference (name : Text)
  | unary (operator : String) (e : Expression)
  | binary (operator : String) (left right : Expression)
  | choice (condition yes no : Expression)
  /-- Sets a variable, to what an operator makes of it if there is one. -/
  | assign (name : Text) (operator : Option String) (e : Expression)
  deriving DecidableEq, Repr

namespace Expression

/-- What an expression is written with. -/
inductive Symbol where
  | number (n : Int)
  | name (name : Text)
  | operator (text : String)
  deriving DecidableEq, Repr

/-- The binary operators with their precedence, the lowest of which is one. -/
def precedences : List (String × Nat) :=
  [("||", 1), ("&&", 2), ("|", 3), ("^", 4), ("&", 5), ("==", 6), ("!=", 6), ("<", 7), ("<=", 7),
    (">", 7), (">=", 7), ("<<", 8), (">>", 8), ("+", 9), ("-", 9), ("*", 10), ("/", 10), ("%", 10)]

/-- The operators that set a variable, with what they make of it. -/
def assignments : List (String × Option String) :=
  [("=", none), ("*=", some "*"), ("/=", some "/"), ("%=", some "%"), ("+=", some "+"),
    ("-=", some "-"), ("<<=", some "<<"), (">>=", some ">>"), ("&=", some "&"), ("^=", some "^"),
    ("|=", some "|")]

/-- All operators, longer ones first. -/
def operators : List String :=
  let all := precedences.map (·.1) ++ assignments.map (·.1) ++ ["(", ")", "!", "~", "?", ":"]
  all.filter (·.length = 3) ++ all.filter (·.length = 2) ++ all.filter (·.length = 1)

/-- The symbols of a text, found in at most so many steps. A character that starts none is an
operator without a meaning. -/
def symbols : Nat → Text → List Symbol
  | 0, _ => []
  | _ + 1, [] => []
  | steps + 1, c :: rest =>
    if isBlank c || c == '\n' then symbols steps rest
    else if isDigit c then
      let (n, rest) := spanNumber (c :: rest)
      .number (clamp n) :: symbols steps rest
    else if isNameStart c then
      let name := (c :: rest).takeWhile isNameChar
      .name name :: symbols steps ((c :: rest).drop name.length)
    else
      match operators.find? fun o => o.toList.isPrefixOf (c :: rest) with
      | some o => .operator o :: symbols steps ((c :: rest).drop o.length)
      | none => .operator "" :: symbols steps rest

/-- Reads a part of an expression from its symbols. -/
abbrev Reader := StateT (List Symbol) (Except String)

/-- Takes an operator, if it comes next. -/
def takeIf (operator : String) : Reader Bool := do
  match ← get with
  | .operator other :: rest =>
    if other = operator then
      set rest
      return true
    else return false
  | _ => return false

mutual

/-- Reads an expression, going down at most so many steps. -/
def whole : Nat → Reader Expression
  | 0 => throw "expecting primary"
  | steps + 1 => do
    match ← get with
    | .name name :: .operator o :: rest =>
      match assignments.lookup o with
      | some operator =>
        set rest
        return .assign name operator (← whole steps)
      | none => conditional steps
    | _ => conditional steps

/-- Reads an expression that sets no variable. -/
def conditional : Nat → Reader Expression
  | 0 => throw "expecting primary"
  | steps + 1 => do
    let condition ← operation steps 1 (← primary steps)
    if ← takeIf "?" then
      let yes ← whole steps
      if !(← takeIf ":") then throw "expecting ':'"
      return .choice condition yes (← conditional steps)
    else return condition

/-- Reads the operators of at least some precedence that follow an operand. -/
def operation : Nat → Nat → Expression → Reader Expression
  | 0, _, left => return left
  | steps + 1, least, left => do
    match ← get with
    | .operator o :: rest =>
      match precedences.lookup o with
      | some precedence =>
        if precedence < least then return left
        set rest
        let right ← operation steps (precedence + 1) (← primary steps)
        operation steps least (.binary o left right)
      | none => return left
    | _ => return left

/-- Reads an operand. -/
def primary : Nat → Reader Expression
  | 0 => throw "expecting primary"
  | steps + 1 => do
    match ← get with
    | .number n :: rest =>
      set rest
      return .number n
    | .name name :: rest =>
      set rest
      return .reference name
    | .operator o :: rest =>
      if o = "(" then
        set rest
        let inner ← whole steps
        if ← takeIf ")" then return inner else throw "expecting ')'"
      else if ["+", "-", "!", "~"].contains o then
        set rest
        return .unary o (← primary steps)
      else throw "expecting primary"
    | [] => throw "expecting primary"

end

/-- The expression that a text stands for, or what is wrong with it. -/
def ofText (text : Text) : Except String Expression := do
  let found := symbols (text.length + 1) text
  let (e, rest) ← (whole (4 * found.length + 8)).run found
  if rest = [] then return e else throw "expecting EOF"

/-- The number that stands for the truth of something. -/
def ofBool (b : Bool) : Int := if b then 1 else 0

/-- What a function makes of the bits of two numbers. -/
def bitwise (f : Nat → Nat → Nat) (left right : Int) : Int :=
  let bits (n : Int) : Nat := (n % 18446744073709551616).toNat
  wrap (f (bits left) (bits right))

/-- What a binary operator makes of two numbers, unless it divides by zero. -/
def operate (operator : String) (left right : Int) : Option Int :=
  let count := (right % 64).toNat
  match operator with
  | "|" => some (bitwise Nat.lor left right)
  | "^" => some (bitwise Nat.xor left right)
  | "&" => some (bitwise Nat.land left right)
  | "==" => some (ofBool (left == right))
  | "!=" => some (ofBool (left != right))
  | "<" => some (ofBool (left < right))
  | "<=" => some (ofBool (left ≤ right))
  | ">" => some (ofBool (left > right))
  | ">=" => some (ofBool (left ≥ right))
  | "<<" => some (wrap (left * Nat.pow 2 count))
  | ">>" => some (left.fdiv (Nat.pow 2 count))
  | "+" => some (wrap (left + right))
  | "-" => some (wrap (left - right))
  | "*" => some (wrap (left * right))
  | "/" => if right = 0 then none else some (wrap (left.tdiv right))
  | "%" => if right = 0 then none else some (left.tmod right)
  | _ => none

/-- What a unary operator makes of a number. -/
def operateOne (operator : String) (n : Int) : Int :=
  match operator with
  | "-" => wrap (-n)
  | "!" => ofBool (n == 0)
  | "~" => -n - 1
  | _ => n

/-- The number that the value of a variable stands for. -/
def numberOf (name : Text) : Activity Int := do
  match ← Activity.valueOf name with
  | none | some [] => return 0
  | some text =>
    match readNumber? text with
    | some n => return n
    | none => Activity.fail (ofString "Illegal number: " ++ text)

/-- Works out an expression that a text stands for. -/
def evaluate (text : Text) : Expression → Activity Int
  | .number n => return n
  | .reference name => numberOf name
  | .unary operator e => do return operateOne operator (← evaluate text e)
  | .binary "&&" left right => do
    if (← evaluate text left) = 0 then return 0
    return ofBool ((← evaluate text right) != 0)
  | .binary "||" left right => do
    if (← evaluate text left) ≠ 0 then return 1
    return ofBool ((← evaluate text right) != 0)
  | .binary operator left right => do
    let a ← evaluate text left
    let b ← evaluate text right
    finish operator a b
  | .choice condition yes no => do
    if (← evaluate text condition) ≠ 0 then evaluate text yes else evaluate text no
  | .assign name operator e => do
    let n ← evaluate text e
    let n ← match operator with
      | some operator => do finish operator (← numberOf name) n
      | none => pure n
    Activity.assign name (ofInt n)
    return n
where
  /-- Applies an operator, or says that it divides by zero. -/
  finish (operator : String) (a b : Int) : Activity Int := do
    match operate operator a b with
    | some n => return n
    | none =>
      Activity.fail (ofString "arithmetic expression: division by zero: \"" ++ text ++ ['"'])

/-- The number that a text stands for. -/
def calculate (text : Text) : Activity Int := do
  match ofText text with
  | .ok e => evaluate text e
  | .error message =>
    Activity.fail (ofString ("arithmetic expression: " ++ message ++ ": \"") ++ text ++ ['"'])

end Expression

end LspSession.Shell
