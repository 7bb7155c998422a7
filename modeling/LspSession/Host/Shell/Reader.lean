import LspSession.Host.Shell.Source

/-!
# `LspSession.Host.Shell.Reader`: the commands of a script

`Reader.line` reads the commands of one line of a script, and of the lines after it if a command
goes on there. Words, the expansions in them and the commands in those are read by functions that
call each other. Each takes a number of steps that it may go down at most, which is derived from the
length of the script.

How a word is read depends on what is around it: outside quotes blanks and operators end it, in
double quotes and in documents only dollar signs and backslashes have a meaning, and in an
arithmetic expression parentheses are counted. In braces a word goes on up to the closing brace.
-/

set_option autoImplicit false

namespace LspSession.Shell

/-- What is around a part of a word. -/
inductive Surroundings where
  /-- No quotes. -/
  | bare
  /-- No quotes, in the delimiter of a document, where nothing is expanded. -/
  | delimiter
  | double
  | document
  | arithmetic
  deriving DecidableEq, Repr

namespace Surroundings

/-- Whether characters stand for themselves. -/
def isQuoting : Surroundings → Bool
  | .bare | .delimiter => false
  | _ => true

/-- A character in its surroundings. -/
def part (around : Surroundings) (c : Char) : Part :=
  if around.isQuoting then .quoted c else .plain c

/-- Whether a backslash takes the meaning of a character. -/
def isEscapable (around : Surroundings) (inBraces : Bool) (c : Char) : Bool :=
  !around.isQuoting || ['\\', '\x60', '$'].contains c ||
    (c == '"' && (around != .document || inBraces)) || (c == '}' && inBraces)

/-- What is around a word in braces. -/
def inBraces : Surroundings → Surroundings
  | .arithmetic => .double
  | around => around

end Surroundings

/-- How much is asked of a list of commands. -/
inductive ListKind where
  /-- It is the rest of a line. -/
  | line
  /-- It holds a command. -/
  | full
  | perhapsEmpty
  deriving DecidableEq, Repr

/-- The commands that belong to the shell in such a way that no function can have their names. -/
def specialCommands : List String :=
  [".", ":", "break", "continue", "eval", "exec", "exit", "export", "local", "readonly", "return",
    "set", "shift", "times", "trap", "unset"]

/-- Whether a character ends a word outside quotes. -/
def isDelimiter (c : Char) : Bool :=
  isBlank c || ['\n', ';', '&', '|', '(', ')', '<', '>'].contains c

namespace Reader

/-- The text of the parts of a word that stand for themselves. -/
def literalText (word : Word) : Text :=
  word.filterMap fun
    | .plain c | .quoted c => some c
    | _ => none

/-- Takes a text up to a backquote. -/
def takeBackquotation (inDouble : Bool) : Nat → Reader Text
  | 0 => return []
  | steps + 1 => do
    match ← peek with
    | none => fault "EOF in backquote substitution"
    | some c =>
      advance
      if c = '\x60' then return []
      else if c = '\\' then
        match ← peekRaw with
        | none => return c :: (← takeBackquotation inDouble steps)
        | some d =>
          advance
          let rest ← takeBackquotation inDouble steps
          if ['\\', '\x60', '$'].contains d || (inDouble && d == '"') then return d :: rest
          else return c :: d :: rest
      else return c :: (← takeBackquotation inDouble steps)

/-- Announces a document. Its number is given back. -/
def announce (delimiter : Word) (indented : Bool) : Reader Nat := do
  let s ← get
  let number := s.nextDocument
  let announcement : Announcement :=
    ⟨number, literalText delimiter, indented, delimiter.any Part.isQuoted⟩
  set { s with announced := s.announced ++ [announcement], nextDocument := number + 1 }
  return number

/-- The redirection at the start of a text that starts with an angle bracket, for a descriptor if
one is named. -/
def takeRedirection (named : Option Nat) : Reader Token := do
  if ← takeIf '>' then
    let kind : Redirection ←
      if ← takeIf '>' then pure .append
      else if ← takeIf '|' then pure .overwrite
      else if ← takeIf '&' then pure .duplicate
      else pure .output
    return .redirect (named.getD 1) kind false
  else
    advance
    if ← takeIf '<' then
      return .redirect (named.getD 0) .document (← takeIf '-')
    let kind : Redirection ←
      if ← takeIf '&' then pure .duplicate
      else if ← takeIf '>' then pure .update
      else pure .input
    return .redirect (named.getD 0) kind false

/-- Takes an operator, if the script goes on with one. -/
def takeOperator : Reader (Option Token) := do
  match ← peek with
  | none => return some .finish
  | some c =>
    match c with
    | '\n' =>
      advance
      return some .lineEnd
    | '&' =>
      advance
      return some (if ← takeIf '&' then .both else .ampersand)
    | '|' =>
      advance
      return some (if ← takeIf '|' then .either else .bar)
    | ';' =>
      advance
      return some (if ← takeIf ';' then .caseEnd else .semicolon)
    | '(' =>
      advance
      return some .opening
    | ')' =>
      advance
      return some .closing
    | _ => return none

/-- Where a token stands. -/
inductive Position where
  /-- Where a command can start: keywords have their meaning, and words can stand for texts. -/
  | command
  /-- Behind assignments, where words can stand for texts. -/
  | assigned
  | operand
  /-- The delimiter of a document. -/
  | delimiter
  deriving DecidableEq, Repr

/-- Skips blanks and a comment. The answer says whether a text that a word stood for ended there
with a blank, so that the next word can stand for a text too. -/
def skipToToken : Reader Bool := do
  let before := (← get).expanding
  skipBlanks
  if before = [] then return false
  let left := (← get).text.length
  let (done, rest) := before.partition fun e => left ≤ e.behind
  modify fun s => { s with expanding := rest }
  return done.any (·.endsWithBlank)

/-- Puts the text that a word stands for in the place of the word, if there is one and the word is
not a part of it. -/
def expandAlias (position : Position) (isAfterBlank : Bool) (word : Word) : Reader Bool := do
  let s ← get
  if s.aliases = [] then return false
  let counts := position = .command ∨ position = .assigned ∨ isAfterBlank
  let isKeyword := position = .command ∧ (Token.word word).asKeyword.isAnyKeyword
  match Word.plain? word with
  | none => return false
  | some name =>
    match s.aliases.lookup name with
    | none => return false
    | some text =>
      let behind := s.text.length
      let isInside := s.expanding.any fun e => e.name == name && e.behind ≤ behind
      if !counts ∨ isKeyword ∨ isInside then return false
      let endsWithBlank := text.getLast?.any isBlank
      set { s with
        text := text ++ s.text
        expanding := ⟨name, behind, endsWithBlank⟩ :: s.expanding }
      return true

/-- The commands before another one, followed by it. -/
def follow (before : Option Command) (command : Command) : Command :=
  match before with
  | some before => .sequence before command
  | none => command

mutual

/-- Reads the parts of a word up to its end. The parts before are given in reverse. In braces double
quotes do not end the word, but braces have no meaning between them. -/
def parts : Nat → Surroundings → (inBraces between : Bool) → (depth : Nat) → List Part → Reader Word
  | 0, _, _, _, _, before => return before.reverse
  | steps + 1, around, inBraces, between, depth, before => do
    let goOn (c : Char) : Reader Word := do
      advance
      parts steps around inBraces between depth (around.part c :: before)
    match ← peek with
    | none =>
      if around = .arithmetic then fault "Missing '))'"
      else if around = .double then fault "Unterminated quoted string"
      else if inBraces then fault "Missing '\x7d'"
      else return before.reverse
    | some '\\' =>
      advance
      match ← peekRaw with
      | none => parts steps around inBraces between depth (.quoted '\\' :: before)
      | some c =>
        advance
        if around.isEscapable inBraces c then
          parts steps around inBraces between depth (.quoted c :: before)
        else parts steps around inBraces between depth (.quoted c :: .quoted '\\' :: before)
    | some '\'' =>
      if around.isQuoting then goOn '\''
      else
        advance
        let inner ← takeQuotation
        parts steps around inBraces between depth
          ((inner.map Part.quoted).reverse ++ .mark :: before)
    | some '"' =>
      if !around.isQuoting then
        advance
        let inner ← parts steps .double false false 0 []
        let marks : List Part := match inner with
          | [.parameter _ ['@'] .value] => []
          | _ => [.mark]
        parts steps around inBraces between depth (inner.reverse ++ marks ++ before)
      else if around = .arithmetic ∨ (around = .document ∧ !inBraces) then goOn '"'
      else
        advance
        if inBraces then parts steps around inBraces (!between) depth before
        else return before.reverse
    | some '$' =>
      if around = .delimiter then goOn '$'
      else
        advance
        let part ← dollar steps around
        parts steps around inBraces between depth (part :: before)
    | some '\x60' =>
      advance
      if around = .delimiter then
        parts steps around inBraces between depth (.quoted '\x60' :: before)
      else
        let inner ← takeBackquotation around.isQuoting ((← get).text.length + 1)
        let body ← inside inner 1 do
          let body ← list steps .perhapsEmpty false none
          documents steps
          return body.getD .skip
        parts steps around inBraces between depth (.command around.isQuoting body :: before)
    | some '}' =>
      if inBraces ∧ !between then
        advance
        return before.reverse
      else goOn '}'
    | some c =>
      if around = .arithmetic ∧ c = '(' then
        advance
        parts steps around inBraces between (depth + 1) (.quoted c :: before)
      else if around = .arithmetic ∧ c = ')' then
        advance
        if depth ≠ 0 then parts steps around inBraces between (depth - 1) (.quoted c :: before)
        else if ← takeIf ')' then return before.reverse
        else parts steps around inBraces between depth (.quoted c :: before)
      else if !around.isQuoting ∧ !inBraces ∧ isDelimiter c then return before.reverse
      else goOn c

/-- Reads what follows a dollar sign. -/
def dollar : Nat → Surroundings → Reader Part
  | 0, around => return around.part '$'
  | steps + 1, around => do
    let inQuotes := around.isQuoting
    match ← peek with
    | none => return around.part '$'
    | some '(' =>
      advance
      if ← takeIf '(' then
        return .arithmetic inQuotes (← parts steps .arithmetic false false 0 [])
      else
        let announced := (← get).announced
        modify fun s => { s with announced := [] }
        let body ← list steps .perhapsEmpty false none
        let token ← token steps false .operand
        match token with
        | .closing =>
          let line := (← get).line
          let left := (← get).announced
          inside [] line do
            modify fun s => { s with announced := left }
            documents steps
          modify fun s => { s with announced := announced }
          return .command inQuotes (body.getD .skip)
        | token => unexpected token (some .closing)
    | some '{' =>
      advance
      braces steps around
    | some c =>
      if isNameStart c then
        return .parameter inQuotes (← takeWhile isNameChar (← get).text.length) .value
      else if isDigit c || isSpecial c then
        advance
        return .parameter inQuotes [c] .value
      else return around.part '$'

/-- Reads what stands between braces behind a dollar sign. -/
def braces : Nat → Surroundings → Reader Part
  | 0, around => return around.part '$'
  | steps + 1, around => do
    let bad : Reader Part := do
      let _ ← parts steps around.inBraces true false 0 []
      return .parameter around.isQuoting [] .bad
    let named (name : Text) : Reader Part := do
      return .parameter around.isQuoting name (← use steps around)
    let size (name : Text) : Reader Part := do
      if ← takeIf '}' then return .parameter around.isQuoting name .length else bad
    let length := (← get).text.length
    match ← peek with
    | none | some '}' => bad
    | some '#' =>
      advance
      match ← peek with
      | none => bad
      | some c =>
        if isNameStart c then size (← takeWhile isNameChar length)
        else if isDigit c then size (← takeWhile isDigit length)
        else
          let text := (← get).text
          if c ≠ '}' ∧ isSpecial c ∧ text.tail.head? = some '}' then
            advance
            size [c]
          else named ['#']
    | some c =>
      if isNameStart c then named (← takeWhile isNameChar length)
      else if isDigit c then named (← takeWhile isDigit length)
      else
        advance
        if isSpecial c then named [c] else bad

/-- Reads how the value of a variable is used, up to the closing brace. -/
def use : Nat → Surroundings → Reader Use
  | 0, _ => return .bad
  | steps + 1, around => do
    let word (around : Surroundings) : Reader Word := parts steps around.inBraces true false 0 []
    let fallback (kind : Fallback) (orEmpty : Bool) : Reader Use := do
      advance
      return .fallback kind orEmpty (← word around)
    let kind? (c : Option Char) : Option Fallback :=
      match c with
      | some '-' => some .otherwise
      | some '=' => some .assign
      | some '?' => some .complain
      | some '+' => some .alternative
      | _ => none
    match ← peek with
    | some '}' =>
      advance
      return .value
    | some ':' =>
      advance
      match kind? (← peek) with
      | some kind => fallback kind true
      | none =>
        advance
        let _ ← word around
        return .bad
    | some '%' =>
      advance
      let longest ← takeIf '%'
      return .trim true longest (← word .bare)
    | some '#' =>
      advance
      let longest ← takeIf '#'
      return .trim false longest (← word .bare)
    | c =>
      match kind? c with
      | some kind => fallback kind false
      | none =>
        advance
        let _ ← word around
        return .bad

/-- Reads the documents that have been announced. -/
def documents : Nat → Reader Unit
  | 0 => return ()
  | steps + 1 => do
    let s ← get
    match s.announced with
    | [] => return ()
    | d :: rest =>
      match d.split s.closed false (s.text.splitOn '\n') with
      | none => throw .unfinished
      | some (text, lines, left) =>
        let word ← if d.literal then pure (text.map Part.quoted) else
          inside text s.line (parts steps .document false false 0 [])
        modify fun s => { s with
          text := ['\n'].intercalate left
          line := s.line + lines
          announced := rest
          documents := (d.number, word) :: s.documents }
        documents steps

/-- Reads a token at a position. A word that stands for a text there gives way to it. -/
def freshToken : Nat → Position → Reader Token
  | 0, _ => return .finish
  | steps + 1, position => do
    let isAfterBlank ← skipToToken
    match ← takeOperator with
    | some token => return token
    | none =>
      let around := if position = .delimiter then .delimiter else .bare
      let word ← parts steps around false false 0 []
      let atBracket := (← peek).any fun c => c == '<' || c == '>'
      match word with
      | [] => takeRedirection none
      | [.plain c] =>
        if atBracket && isDigit c then takeRedirection (some (c.toNat - '0'.toNat))
        else if ← expandAlias position isAfterBlank word then freshToken steps position
        else return .word word
      | _ =>
        if ← expandAlias position isAfterBlank word then freshToken steps position
        else return .word word

/-- Takes the next token, which stands at a position. Line ends can be skipped. -/
def token : Nat → (skipsLines : Bool) → Position → Reader Token
  | 0, _, _ => return .finish
  | steps + 1, skipsLines, position => do
    let next ← match (← get).held with
      | some token => do
        modify fun s => { s with held := none }
        pure token
      | none => freshToken steps position
    match next, skipsLines with
    | .lineEnd, true =>
      documents steps
      token steps skipsLines position
    | next, _ => return if position = .command then next.asKeyword else next

/-- Reads a list of commands. There is none at the end of the script. -/
def list : Nat → ListKind → (started : Bool) → Option Command → Reader (Option Command)
  | 0, _, _, before => return before
  | steps + 1, kind, started, before => do
    match ← token steps (kind != .line) .command with
    | .lineEnd =>
      documents steps
      return some (before.getD .skip)
    | .finish =>
      documents steps
      hold .finish
      return before
    | next =>
      hold next
      if (started || kind == .perhapsEmpty) && kind != .line && next.endsList then return before
      let command ← chain steps
      let next ← token steps false .operand
      let command := match next with
        | .ampersand => .background command
        | _ => command
      let before := some (follow before command)
      match next with
      | .finish =>
        documents steps
        hold .finish
        return before
      | .lineEnd =>
        hold .lineEnd
        list steps kind true before
      | .ampersand | .semicolon => list steps kind true before
      | next =>
        if kind = .line then unexpected next none
        hold next
        return before

/-- Reads a list of commands inside a command. -/
def body : Nat → Reader Command
  | 0 => return .skip
  | steps + 1 => do return (← list steps .full false none).getD .skip

/-- Reads pipelines that depend on each other. -/
def chain : Nat → Reader Command
  | 0 => return .skip
  | steps + 1 => do chainRest steps (← pipeline steps false)

/-- Reads the pipelines that depend on one that has been read. -/
def chainRest : Nat → Command → Reader Command
  | 0, left => return left
  | steps + 1, left => do
    match ← token steps false .operand with
    | .both => chainRest steps (.both left (← pipeline steps true))
    | .either => chainRest steps (.either left (← pipeline steps true))
    | next =>
      hold next
      return left

/-- Reads a pipeline. -/
def pipeline : Nat → Bool → Reader Command
  | 0, _ => return .skip
  | steps + 1, skipsLines => do
    let next ← token steps skipsLines .command
    let negated := next.isKeyword "!"
    let first ← if negated then command steps (← token steps false .command) else
      command steps next
    let all ← stages steps [first]
    let whole := match all with
      | [only] => only
      | all => .pipeline all
    return if negated then .negate whole else whole

/-- Reads the commands of a pipeline behind some that are given in reverse. -/
def stages : Nat → List Command → Reader (List Command)
  | 0, before => return before.reverse
  | steps + 1, before => do
    match ← token steps false .operand with
    | .bar =>
      let next ← token steps true .command
      stages steps ((← command steps next) :: before)
    | next =>
      hold next
      return before.reverse

/-- Reads a command that starts with a token. -/
def command : Nat → Token → Reader Command
  | 0, _ => return .skip
  | steps + 1, first => do
    let line := (← get).line
    let closeWith (body : Command) (last : Token) : Reader Command := do
      match ← token steps false .operand, last with
      | .closing, .closing => return body
      | next, .keyword name =>
        if next.isKeyword name then return body else unexpected next (some last)
      | next, _ => unexpected next (some last)
    match first with
    | .word _ | .redirect .. =>
      hold first
      simple steps line [] [] []
    | .opening =>
      let body ← closeWith (← body steps) .closing
      return .subshell body (← redirects steps true)
    | .keyword name =>
      let compound ← match name with
        | "\x7b" => do closeWith (← body steps) (.keyword "\x7d")
        | "if" => do closeWith (← choice steps) (.keyword "fi")
        | "while" | "until" => do
          let condition ← body steps
          let next ← token steps false .operand
          if !next.isKeyword "do" then unexpected next (some (.keyword "do"))
          closeWith (.loop (name == "while") condition (← body steps)) (.keyword "done")
        | "for" => do
          let loop ← forLoop steps line
          closeWith loop (.keyword "done")
        | "case" => do
          match ← token steps false .operand with
          | .word subject =>
            let next ← token steps true .command
            if !next.isKeyword "in" then unexpected next (some (.keyword "in"))
            pure (.select line subject (← cases steps))
          | next => unexpected next (some (.word []))
        | _ => unexpected first none
      match ← redirects steps true with
      | [] => return compound
      | redirects => return .redirected compound redirects
    | _ => unexpected first none

/-- Reads a choice from its condition on, up to its end. -/
def choice : Nat → Reader Command
  | 0 => return .skip
  | steps + 1 => do
    let condition ← body steps
    let next ← token steps false .operand
    if !next.isKeyword "then" then unexpected next (some (.keyword "then"))
    let yes ← body steps
    let next ← token steps false .operand
    if next.isKeyword "elif" then return .choice condition yes (some (← choice steps))
    else if next.isKeyword "else" then return .choice condition yes (some (← body steps))
    else
      hold next
      return .choice condition yes none

/-- Reads a loop over words from its variable on. -/
def forLoop : Nat → Nat → Reader Command
  | 0, _ => return .skip
  | steps + 1, line => do
    let first ← token steps false .operand
    match first.word?.bind Word.plain? with
    | none => fault "Bad for loop variable"
    | some name =>
      if !isName name then fault "Bad for loop variable"
      let next ← token steps true .command
      let values ←
        if next.isKeyword "in" then do
          let (values, next) ← words steps []
          match next with
          | .lineEnd => documents steps
          | .semicolon => pure ()
          | next => unexpected next none
          pure (some values)
        else do
          match next with
          | .semicolon => pure ()
          | next => hold next
          pure none
      let next ← token steps true .command
      if !next.isKeyword "do" then unexpected next (some (.keyword "do"))
      return .each line name values (← body steps)

/-- Reads words behind some that are given in reverse, and the token that follows them. -/
def words : Nat → List Word → Reader (List Word × Token)
  | 0, before => return (before.reverse, .finish)
  | steps + 1, before => do
    match ← token steps false .operand with
    | .word next => words steps (next :: before)
    | next => return (before.reverse, next)

/-- Reads the cases of a selection. -/
def cases : Nat → Reader (List (List Word × Command))
  | 0 => return []
  | steps + 1 => do
    let next ← token steps true .command
    if next.isKeyword "esac" then return []
    let first ← match next with
      | .opening => token steps false .operand
      | next => pure next
    let found ← patterns steps first []
    let body := (← list steps .perhapsEmpty false none).getD .skip
    match ← token steps true .command with
    | .caseEnd => return (found, body) :: (← cases steps)
    | next =>
      if next.isKeyword "esac" then return [(found, body)]
      else unexpected next (some .caseEnd)

/-- Reads the patterns of a case from a token on, behind some that are given in reverse. A token
that is no word stands for an empty pattern. -/
def patterns : Nat → Token → List Word → Reader (List Word)
  | 0, _, before => return before.reverse
  | steps + 1, first, before => do
    let found := first.word?.getD []
    match ← token steps false .operand with
    | .bar => patterns steps (← token steps false .operand) (found :: before)
    | .closing => return (found :: before).reverse
    | next => unexpected next (some .closing)

/-- Reads what a redirection leads to. -/
def redirect : Nat → Nat → Redirection → Bool → Reader Redirect
  | 0, descriptor, kind, _ => return .mk descriptor kind [] 0
  | steps + 1, descriptor, kind, indented => do
    match ← token steps false (if kind = .document then .delimiter else .operand) with
    | .word target =>
      if kind = .document then
        return .mk descriptor kind [] (← announce target indented)
      else return .mk descriptor kind target 0
    | next => unexpected next none

/-- Reads redirections. The token that follows can be a keyword if there are none. -/
def redirects : Nat → Bool → Reader (List Redirect)
  | 0, _ => return []
  | steps + 1, hasKeywords => do
    match ← token steps false (if hasKeywords then .command else .operand) with
    | .redirect descriptor kind indented =>
      let first ← redirect steps descriptor kind indented
      return first :: (← redirects steps false)
    | next =>
      hold next
      return []

/-- Reads a simple command, of which some assignments, words and redirections are given in reverse.
A name before parentheses starts a function. -/
def simple : Nat → Nat → List (Text × Word) → List Word → List Redirect → Reader Command
  | 0, _, _, _, _ => return .skip
  | steps + 1, line, assignments, before, found => do
    let finished : Command := .simple line assignments.reverse before.reverse found.reverse
    match ← token steps false (if before.isEmpty then .assigned else .operand) with
    | .word next =>
      match before, Word.assignment? next with
      | [], some assignment => simple steps line (assignment :: assignments) before found
      | _, _ => simple steps line assignments (next :: before) found
    | .redirect descriptor kind indented =>
      let first ← redirect steps descriptor kind indented
      simple steps line assignments before (first :: found)
    | .opening =>
      match assignments, before, found with
      | [], [name], [] =>
        match ← token steps false .operand with
        | .closing =>
          match Word.plain? name with
          | some name =>
            if !isName name || specialCommands.contains (String.ofList name) then
              fault "Bad function name"
            let line := (← get).line
            let next ← token steps true .command
            return .function line name (← command steps next)
          | none => fault "Bad function name"
        | next => unexpected next (some .closing)
      | _, _, _ =>
        hold .opening
        return finished
    | next =>
      hold next
      return finished

end

/-- Reads the commands of the next line. There are none at the end of the script. -/
def line : Reader (Option Command) := do
  modify fun s => { s with held := none, announced := [] }
  list (16 * (← get).text.length + 256) .line false none

end Reader

end LspSession.Shell
