import LspSession.Host.Utility.Records.Syntax

/-!
# `LspSession.Host.Utility.Records.Reader`: reading scripts over records

A text is cut into tokens first. Whether a slash divides or starts a pattern depends on whether
there is a value in front of it. The tokens are then read from the weakest operators down to the
single operands. Reading goes down at most so many steps, which are more than the tokens of a script
need.
-/

set_option autoImplicit false

namespace LspSession.Utility.Records

open Shell

/-! ### Tokens -/

/-- A token of a script. -/
inductive Token where
  | number (digits : Text)
  | text (t : Text)
  | pattern (t : Text)
  | name (t : Text)
  /-- A name with a parenthesis right behind it. -/
  | caller (t : Text)
  /-- An operator, a mark, a word with a meaning of its own or the end of a line. -/
  | symbol (s : String)
  deriving DecidableEq, Repr

namespace Token

/-- The words with a meaning of their own. -/
def keywords : List String :=
  ["BEGIN", "END", "function", "func", "if", "else", "while", "for", "do", "break", "continue",
    "next", "nextfile", "exit", "return", "delete", "in", "getline", "print", "printf"]

/-- The functions that there always are. -/
def functions : List String :=
  ["length", "substr", "index", "split", "sub", "gsub", "match", "sprintf", "sin", "cos", "atan2",
    "exp", "log", "sqrt", "int", "toupper", "tolower", "system", "close", "fflush"]

/-- The operators and marks, of which the first that fits counts. -/
def symbols : List String :=
  ["&&", "||", "++", "--", "+=", "-=", "*=", "/=", "%=", "^=", "==", "<=", ">=", "!=", "!~", ">>",
    "\x7b", "\x7d", "(", ")", "[", "]", ";", ",", "+", "-", "*", "/", "%", "^", "!", ">", "<", "|",
    "?", ":", "~", "$", "="]

/-- Whether a value can end with a token. -/
def endsValue : Option Token → Bool
  | some (.symbol s) => [")", "]", "++", "--", "$"].contains s
  | some _ => true
  | none => false

/-- Whether a line can go on behind a token. -/
def goesOn : Option Token → Bool
  | some (.symbol s) => ["\x7b", ",", "&&", "||", "do", "else"].contains s
  | _ => false

/-- Takes the text of a literal up to its closing quotation mark. -/
def literal : Nat → Text → Text → Option (Text × Text)
  | 0, _, _ => none
  | _ + 1, _, [] | _ + 1, _, '\n' :: _ => none
  | _ + 1, before, '"' :: rest => some (before.reverse, rest)
  | steps + 1, before, '\\' :: c :: rest =>
    let code := ((c :: rest).take 3).takeWhile fun c => (digitIn? 8 c).isSome
    if code ≠ [] then literal steps (ofOctal code :: before) ((c :: rest).drop code.length)
    else
      match c with
      | '"' => literal steps (c :: before) rest
      | '\n' => literal steps before rest
      | c =>
        match if c = 'e' then none else escapeOf? c with
        | some d => literal steps (d :: before) rest
        | none => literal steps (c :: '\\' :: before) rest
  | steps + 1, before, c :: rest => literal steps (c :: before) rest

/-- Takes the text of a pattern up to its closing slash. One between brackets closes nothing. -/
def patternText (inBrackets : Bool) (before : Text) : Text → Option (Text × Text)
  | [] => none
  | '\\' :: '/' :: rest => patternText inBrackets ('/' :: before) rest
  | '\\' :: c :: rest => patternText inBrackets (c :: '\\' :: before) rest
  | '\n' :: _ => none
  | '/' :: rest =>
    if inBrackets then patternText inBrackets ('/' :: before) rest
    else some (before.reverse, rest)
  | '[' :: rest => patternText true ('[' :: before) rest
  | ']' :: rest => patternText false (']' :: before) rest
  | c :: rest => patternText inBrackets (c :: before) rest

/-- Takes the digits of a number. -/
def numeral (text : Text) : Text × Text :=
  let front := text.takeWhile fun c => isDigit c || c == '.'
  let rest := text.drop front.length
  match rest with
  | c :: after =>
    let sign := after.takeWhile fun c => c == '+' || c == '-'
    let digits := (after.drop sign.length).takeWhile isDigit
    if (c = 'e' ∨ c = 'E') ∧ sign.length ≤ 1 ∧ digits ≠ [] then
      let power := c :: sign ++ digits
      (front ++ power, rest.drop power.length)
    else (front, rest)
  | [] => (front, [])

/-- Cuts a text into tokens, in at most so many steps. The tokens before are given in reverse. -/
def cut : Nat → List Token → Text → Option (List Token)
  | 0, before, _ => some before.reverse
  | _ + 1, before, [] => some before.reverse
  | steps + 1, before, c :: rest =>
    let last := before.head?
    if c = ' ' ∨ c = '\t' ∨ c = '\r' then cut steps before rest
    else if c = '#' then cut steps before (rest.dropWhile (· != '\n'))
    else if c = '\n' then
      cut steps (if goesOn last then before else .symbol "\n" :: before) rest
    else if c = '\\' ∧ rest.head? = some '\n' then cut steps before rest.tail
    else if c = '"' then do
      let (t, rest) ← literal (rest.length + 1) [] rest
      cut steps (.text t :: before) rest
    else if c = '/' ∧ !endsValue last then do
      let (t, rest) ← patternText false [] rest
      cut steps (.pattern t :: before) rest
    else if isDigit c ∨ (c = '.' ∧ rest.head?.any isDigit) then
      let (digits, rest) := numeral (c :: rest)
      cut steps (.number digits :: before) rest
    else if isNameStart c then
      let name := (c :: rest).takeWhile isNameChar
      let rest := (c :: rest).drop name.length
      let token := if keywords.contains (String.ofList name) then .symbol (String.ofList name)
        else if rest.head? = some '(' then .caller name
        else .name name
      cut steps (token :: before) rest
    else do
      let s ← symbols.find? fun s => s.toList.isPrefixOf (c :: rest)
      cut steps (.symbol s :: before) ((c :: rest).drop s.length)

end Token

/-! ### Expressions -/

/-- Reads a part of a script. -/
abbrev Reader := StateT (List Token) Option

namespace Reader

/-- The next token. -/
def next? : Reader (Option Token) := do return (← get).head?

/-- Takes a symbol, if it comes next. -/
def takeIf (s : String) : Reader Bool := do
  match ← get with
  | .symbol other :: rest =>
    if other = s then
      set rest
      return true
    else return false
  | _ => return false

/-- Takes a symbol that has to come next. -/
def expect (s : String) : Reader Unit := do if ← takeIf s then return () else failure

/-- Takes one of some symbols, and gives what goes with it. -/
def takeOneOf {α : Type} (found : List (String × α)) : Reader (Option α) := do
  match ← get with
  | .symbol s :: rest =>
    match found.lookup s with
    | some a =>
      set rest
      return some a
    | none => return none
  | _ => return none

/-- Takes a name. -/
def takeName : Reader Text := do
  match ← get with
  | .name t :: rest | .caller t :: rest =>
    set rest
    return t
  | _ => failure

/-- Skips ends of lines, and also semicolons if that is asked for. -/
def skipLines (semicolons : Bool) : Reader Unit :=
  modify fun tokens => tokens.dropWhile fun t =>
    t == .symbol "\n" || (semicolons && t == .symbol ";")

/-- The operators that combine a value with the one in a place. -/
def assignments : List (String × Option Arithmetic) :=
  [("=", none), ("+=", some .add), ("-=", some .subtract), ("*=", some .multiply),
    ("/=", some .divide), ("%=", some .modulo), ("^=", some .raise)]

/-- The operators that compare. In what is written the last two have another meaning. -/
def comparisons (inPrint : Bool) : List (String × Comparison) :=
  [("<", .less), ("<=", .lessEqual), ("==", .equal), ("!=", .notEqual), (">=", .greaterEqual)] ++
    if inPrint then [] else [(">", .greater)]

/-- Whether an operand can start with a token. -/
def startsOperand : Token → Bool
  | .symbol s => ["$", "(", "++", "--"].contains s
  | _ => true

/-- The expression of a pattern. -/
def regex (t : Text) : Reader Regex :=
  match Regex.ofText true t with
  | .ok r => return r
  | .error _ => failure

mutual

/-- Reads an expression. -/
def expression : Nat → Bool → Reader Expression
  | 0, _ => failure
  | steps + 1, inPrint => do
    let condition ← disjunction steps inPrint
    if ← takeIf "?" then
      skipLines false
      let yes ← expression steps inPrint
      skipLines false
      expect ":"
      skipLines false
      return .choice condition yes (← expression steps inPrint)
    else return condition

/-- Reads conditions one of which holds. -/
def disjunction : Nat → Bool → Reader Expression
  | 0, _ => failure
  | steps + 1, inPrint => do
    let a ← conjunction steps inPrint
    if ← takeIf "||" then return .either a (← disjunction steps inPrint) else return a

/-- Reads conditions that all hold. -/
def conjunction : Nat → Bool → Reader Expression
  | 0, _ => failure
  | steps + 1, inPrint => do
    let a ← membershipRest steps (← search steps inPrint)
    if ← takeIf "&&" then return .both a (← conjunction steps inPrint) else return a

/-- Reads the arrays that something is looked for in. -/
def membershipRest : Nat → Expression → Reader Expression
  | 0, a => return a
  | steps + 1, a => do
    if ← takeIf "in" then membershipRest steps (.isIn [a] (← takeName)) else return a

/-- Reads a text and the patterns that are looked for. -/
def search : Nat → Bool → Reader Expression
  | 0, _ => failure
  | steps + 1, inPrint => do searchRest steps inPrint (← comparison steps inPrint)

/-- Reads the patterns that are looked for. -/
def searchRest : Nat → Bool → Expression → Reader Expression
  | 0, _, a => return a
  | steps + 1, inPrint, a => do
    match ← takeOneOf [("~", false), ("!~", true)] with
    | some negated => searchRest steps inPrint (.finds negated a (← comparison steps inPrint))
    | none => return a

/-- Reads a comparison. -/
def comparison : Nat → Bool → Reader Expression
  | 0, _ => failure
  | steps + 1, inPrint => do
    let a ← pipedRest steps (← joined steps)
    match ← takeOneOf (comparisons inPrint) with
    | some operator => return .compare operator a (← pipedRest steps (← joined steps))
    | none => return a

/-- Reads what is done with what a command writes. -/
def pipedRest : Nat → Expression → Reader Expression
  | 0, a => return a
  | steps + 1, a => do
    match ← get with
    | .symbol "|" :: .symbol "getline" :: rest =>
      set rest
      pipedRest steps (.readRecord (← place? steps) true (some a))
    | _ => return a

/-- Reads texts that are put together. -/
def joined : Nat → Reader Expression
  | 0 => failure
  | steps + 1 => do joinedRest steps (← sum steps)

/-- Reads the texts that follow. -/
def joinedRest : Nat → Expression → Reader Expression
  | 0, a => return a
  | steps + 1, a => do
    if (← next?).any startsOperand then joinedRest steps (.join a (← sum steps)) else return a

/-- Reads a sum. -/
def sum : Nat → Reader Expression
  | 0 => failure
  | steps + 1 => do sumRest steps (← product steps)

/-- Reads the rest of a sum. -/
def sumRest : Nat → Expression → Reader Expression
  | 0, a => return a
  | steps + 1, a => do
    match ← takeOneOf [("+", Arithmetic.add), ("-", .subtract)] with
    | some operator => sumRest steps (.calculate operator a (← product steps))
    | none => return a

/-- Reads a product. -/
def product : Nat → Reader Expression
  | 0 => failure
  | steps + 1 => do productRest steps (← signed steps)

/-- Reads the rest of a product. -/
def productRest : Nat → Expression → Reader Expression
  | 0, a => return a
  | steps + 1, a => do
    match ← takeOneOf [("*", Arithmetic.multiply), ("/", .divide), ("%", .modulo)] with
    | some operator => productRest steps (.calculate operator a (← signed steps))
    | none => return a

/-- Reads an operand with a sign. -/
def signed : Nat → Reader Expression
  | 0 => failure
  | steps + 1 => do
    if ← takeIf "!" then return .not (← signed steps)
    else if ← takeIf "-" then return .negative (← signed steps)
    else if ← takeIf "+" then return .positive (← signed steps)
    else
      let a ← changed steps
      if ← takeIf "^" then return .calculate .raise a (← signed steps) else return a

/-- Reads an operand, which may be changed. -/
def changed : Nat → Reader Expression
  | 0 => failure
  | steps + 1 => do
    let a ← operand steps
    if !a.isPlace then return a
    match ← takeOneOf [("++", true), ("--", false)] with
    | some up => return .step a up true
    | none =>
      match ← takeOneOf assignments with
      | some operator =>
        skipLines false
        return .assign a operator (← expression steps false)
      | none => return a

/-- Reads a single operand. -/
def operand : Nat → Reader Expression
  | 0 => failure
  | steps + 1 => do
    match ← get with
    | .number digits :: rest =>
      set rest
      return .number (Datum.leading digits)
    | .text t :: rest =>
      set rest
      return .text t
    | .pattern t :: rest =>
      set rest
      return .pattern (← regex t)
    | .name t :: rest =>
      set rest
      if Token.functions.contains (String.ofList t) then
        if ← takeIf "(" then return .call t (← listUntil steps ")")
        else if t = "length".toList then return .call t []
        else failure
      else if ← takeIf "[" then return .element t (← listUntil steps "]")
      else return .variable t
    | .caller t :: _ :: rest =>
      set rest
      return .call t (← listUntil steps ")")
    | .symbol "(" :: rest =>
      set rest
      match ← listUntil steps ")" with
      | [] => failure
      | [a] => return a
      | all =>
        expect "in"
        return .isIn all (← takeName)
    | .symbol "$" :: rest =>
      set rest
      if ← takeIf "-" then return .field (.negative (← operand steps))
      else return .field (← operand steps)
    | .symbol "++" :: rest =>
      set rest
      return .step (← operand steps) true false
    | .symbol "--" :: rest =>
      set rest
      return .step (← operand steps) false false
    | .symbol "getline" :: rest =>
      set rest
      let place ← place? steps
      if ← takeIf "<" then return .readRecord place false (some (← operand steps))
      else return .readRecord place false none
    | _ => failure

/-- Reads a place, if one comes next. -/
def place? : Nat → Reader (Option Expression)
  | 0 => return none
  | steps + 1 => do
    match ← next? with
    | some (.name _) | some (.symbol "$") => return some (← operand steps)
    | _ => return none

/-- Reads expressions with commas between them up to a symbol. -/
def listUntil : Nat → String → Reader (List Expression)
  | 0, _ => failure
  | steps + 1, close => do
    skipLines false
    if ← takeIf close then return []
    let a ← expression steps false
    skipLines false
    if ← takeIf "," then
      let more ← listUntil steps close
      if more.isEmpty then failure else return a :: more
    else
      expect close
      return [a]

end

/-! ### Statements -/

/-- Reads expressions with commas between them, of which some are to be written. -/
def values : Nat → Reader (List Expression)
  | 0 => failure
  | steps + 1 => do
    let a ← expression steps true
    if ← takeIf "," then return a :: (← values steps) else return [a]

/-- Whether nothing more belongs to what is written. -/
def endsValues : Option Token → Bool
  | none => true
  | some (.symbol s) => [";", "\n", "\x7d", ">", ">>", "|"].contains s
  | some _ => false

/-- Reads what is written and where. -/
def print (steps : Nat) (byFormat : Bool) : Reader Statement := do
  let start ← get
  let listed : Option (List Expression) ← do
    if endsValues start.head? then pure (some [])
    else if ← takeIf "(" then
      match (listUntil steps ")").run (← get) with
      | some (all, rest) =>
        if endsValues rest.head? then
          set rest
          pure (some all)
        else
          set start
          pure none
      | none => failure
    else pure none
  let all ← match listed with
    | some all => pure all
    | none => values steps
  if byFormat && all.isEmpty then failure
  match ← takeOneOf [(">", Outlet.write), (">>", .append), ("|", .command)] with
  | some outlet => return .print byFormat all (some (outlet, ← expression steps true))
  | none => return .print byFormat all none

/-- Takes the end of a statement. -/
def finish : Reader Unit := do
  match ← next? with
  | none | some (.symbol "\x7d") => return ()
  | some (.symbol ";") | some (.symbol "\n") => skipLines true
  | _ => failure

/-- Whether nothing more belongs to a statement. -/
def isFinished : Reader Bool := do
  match ← next? with
  | none => return true
  | some (.symbol s) => return [";", "\n", "\x7d"].contains s
  | some _ => return false

/-- Reads a value that may be missing. -/
def value? (steps : Nat) : Reader (Option Expression) := do
  if ← isFinished then return none else return some (← expression steps false)

mutual

/-- Reads a statement that has no others inside. -/
def single : Nat → Reader Statement
  | 0 => failure
  | steps + 1 => do
    if ← takeIf "print" then print steps false
    else if ← takeIf "printf" then print steps true
    else if ← takeIf "next" then return .next
    else if ← takeIf "nextfile" then return .nextInput
    else if ← takeIf "break" then return .leave
    else if ← takeIf "continue" then return .again
    else if ← takeIf "exit" then return .exit (← value? steps)
    else if ← takeIf "return" then return .giveBack (← value? steps)
    else if ← takeIf "delete" then
      let name ← takeName
      if ← takeIf "[" then return .delete name (← listUntil steps "]")
      else return .delete name []
    else return .simple (← expression steps false)

/-- Reads a statement. -/
def statement : Nat → Reader Statement
  | 0 => failure
  | steps + 1 => do
    if ← takeIf ";" then return .block []
    else if ← takeIf "\x7b" then
      let body ← statements steps
      skipLines true
      return .block body
    else if ← takeIf "if" then
      expect "("
      let condition ← expression steps false
      expect ")"
      skipLines false
      let yes ← statement steps
      let after ← get
      skipLines true
      if ← takeIf "else" then
        skipLines false
        return .choice condition yes (← statement steps)
      else
        set after
        return .choice condition yes (.block [])
    else if ← takeIf "while" then
      expect "("
      let condition ← expression steps false
      expect ")"
      skipLines false
      return .loop true condition (.block []) (← statement steps)
    else if ← takeIf "do" then
      skipLines false
      let body ← statement steps
      skipLines true
      expect "while"
      expect "("
      let condition ← expression steps false
      expect ")"
      finish
      return .loop false condition (.block []) body
    else if ← takeIf "for" then
      expect "("
      match ← get with
      | .name key :: .symbol "in" :: .name array :: .symbol ")" :: rest =>
        set rest
        skipLines false
        return .each key array (← statement steps)
      | _ =>
        let start ← optional steps ";"
        skipLines false
        let condition ← if ← takeIf ";" then pure (.number one) else do
          let condition ← expression steps false
          expect ";"
          pure condition
        skipLines false
        let step ← optional steps ")"
        skipLines false
        return .block [start, .loop true condition step (← statement steps)]
    else
      let found ← single steps
      finish
      return found

/-- Reads a statement that may be missing, up to a symbol. -/
def optional : Nat → String → Reader Statement
  | 0, _ => failure
  | steps + 1, close => do
    if ← takeIf close then return .block []
    else
      let found ← single steps
      expect close
      return found

/-- Reads statements up to a closing brace. -/
def statements : Nat → Reader (List Statement)
  | 0 => failure
  | steps + 1 => do
    skipLines true
    if ← takeIf "\x7d" then return []
    let first ← statement steps
    return first :: (← statements steps)

end

/-- Reads the body of a rule or of a function. -/
def body (steps : Nat) : Reader Statement := do
  expect "\x7b"
  return .block (← statements steps)

/-- Reads the parameters of a function. -/
def parameters : Nat → Reader (List Text)
  | 0 => failure
  | steps + 1 => do
    skipLines false
    if ← takeIf ")" then return []
    let name ← takeName
    let _ ← takeIf ","
    return name :: (← parameters steps)

/-- Reads the rules and functions of a script, at most so many. -/
def script (steps : Nat) : Nat → Script → Reader Script
  | 0, s => return s
  | items + 1, s => do
    skipLines true
    if (← get).isEmpty then return s
    let add (occasion : Occasion) (body : Option Statement) : Script :=
      { s with rules := ⟨occasion, body⟩ :: s.rules }
    if (← takeIf "function") || (← takeIf "func") then
      let name ← takeName
      expect "("
      let names ← parameters steps
      skipLines false
      let body ← body steps
      script steps items { s with procedures := (name, ⟨names, body⟩) :: s.procedures }
    else if ← takeIf "BEGIN" then script steps items (add .start (some (← body steps)))
    else if ← takeIf "END" then script steps items (add .finish (some (← body steps)))
    else if (← next?) == some (.symbol "\x7b") then
      script steps items (add .always (some (← body steps)))
    else
      let first ← expression steps false
      let occasion ← if ← takeIf "," then do
          skipLines false
          pure (Occasion.between first (← expression steps false))
        else pure (Occasion.whenever first)
      if (← next?) == some (.symbol "\x7b") then
        script steps items (add occasion (some (← body steps)))
      else script steps items (add occasion none)

end Reader

/-- The script that a text stands for. -/
def Script.ofText? (text : Text) : Option Script := do
  let tokens ← Token.cut (text.length + 1) [] text
  let steps := 24 * tokens.length + 64
  let (s, rest) ← (Reader.script steps (tokens.length + 1) ⟨[], []⟩).run tokens
  if rest = [] then some ⟨s.rules.reverse, s.procedures⟩ else none

end LspSession.Utility.Records
