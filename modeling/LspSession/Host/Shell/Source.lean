import LspSession.Host.Shell.Syntax

/-!
# `LspSession.Host.Shell.Source`: a script that is being read

A script is read from front to back, a line at a time, while the commands that have been read are
already at work. So a reader can come to the end of what there is of the script without having come
to its end: then the reader gives up, and starts again once more has come.

A backslash at the end of a line joins the next line to it. Some commands take a document, which is
a text that starts behind the line of the command and ends with a line that holds nothing but a
delimiter. The documents of a line are announced before they come.
-/

set_option autoImplicit false

namespace LspSession.Shell

/-- A token of a script. -/
inductive Token where
  | word (word : Word)
  /-- A word with a meaning of its own where a command can start. -/
  | keyword (name : String)
  /-- A redirection, for a descriptor. The lines of a document may be indented. -/
  | redirect (descriptor : Nat) (kind : Redirection) (indented : Bool)
  | lineEnd
  | semicolon
  | ampersand
  | both
  | either
  | bar
  | opening
  | closing
  /-- The end of the commands of a case. -/
  | caseEnd
  /-- The end of the script. -/
  | finish

namespace Token

/-- The words that have a meaning of their own where a command can start. -/
def keywords : List String :=
  ["!", "case", "do", "done", "elif", "else", "esac", "fi", "for", "if", "in", "then", "until",
    "while", "\x7b", "\x7d"]

/-- A token where a command can start. -/
def asKeyword : Token → Token
  | .word parts =>
    match (Word.plain? parts).bind fun text => keywords.find? fun k => k.toList == text with
    | some name => .keyword name
    | none => .word parts
  | token => token

/-- The word that a token is if keywords have no meaning. -/
def word? : Token → Option Word
  | .word parts => some parts
  | .keyword name => some (name.toList.map .plain)
  | _ => none

/-- Whether a token is a certain keyword. -/
def isKeyword (token : Token) (name : String) : Bool :=
  match token with
  | .keyword other => other == name
  | _ => false

/-- Whether a token is a keyword. -/
def isAnyKeyword : Token → Bool
  | .keyword _ => true
  | _ => false

/-- Whether a token ends a list of commands. -/
def endsList : Token → Bool
  | .finish | .closing | .caseEnd => true
  | .keyword name =>
    ["do", "done", "elif", "else", "esac", "fi", "then", "\x7d"].contains name
  | _ => false

/-- What a token is called. -/
def display : Token → String
  | .word _ => "word"
  | .keyword name => "\"" ++ name ++ "\""
  | .redirect .. => "redirection"
  | .lineEnd => "newline"
  | .semicolon => "\";\""
  | .ampersand => "\"&\""
  | .both => "\"&&\""
  | .either => "\"||\""
  | .bar => "\"|\""
  | .opening => "\"(\""
  | .closing => "\")\""
  | .caseEnd => "\";;\""
  | .finish => "end of file"

end Token

/-- A document that has been announced. -/
structure Announcement where
  number : Nat
  delimiter : Text
  indented : Bool
  /-- Whether nothing in the document is expanded. -/
  literal : Bool

/-- A text that stands in a script in the place of a word. -/
structure Expanding where
  name : Text
  /-- How much of the script is behind the text. -/
  behind : Nat
  endsWithBlank : Bool
  deriving DecidableEq, Repr

/-- What is left of a script, and what has been found out about it. -/
structure Source where
  text : Text
  /-- Whether no more text will come. -/
  closed : Bool
  /-- The number of the line. -/
  line : Nat
  /-- The next token, if it has been looked at. -/
  held : Option Token
  announced : List Announcement
  /-- The documents that have come. -/
  documents : List (Nat × Word)
  /-- The number that the next document gets. -/
  nextDocument : Nat
  /-- The texts that words stand for where a command can start. -/
  aliases : List (Text × Text)
  /-- The texts that the script goes on with in the place of words, innermost first. -/
  expanding : List Expanding

/-- Why a script cannot be read. -/
inductive Fault where
  | malformed (line : Nat) (message : String)
  /-- There is not enough of the script yet. -/
  | unfinished
  deriving DecidableEq, Repr

/-- Reads a part of a script. -/
abbrev Reader := EStateM Fault Source

namespace Source

/-- A script of which nothing has been read. -/
def ofText (text : Text) (closed : Bool) (line : Nat) : Source :=
  ⟨text, closed, line, none, [], [], 0, [], []⟩

/-- A text without backslashes at the ends of lines in front of it, and how many there were. -/
def joinLines : Text → Text × Nat
  | '\\' :: '\n' :: rest => ((joinLines rest).1, (joinLines rest).2 + 1)
  | text => (text, 0)

/-- A text without blanks in front of it, and the number of lines that were joined there. -/
def skipBlanks : Text → Text × Nat
  | '\\' :: '\n' :: rest => ((skipBlanks rest).1, (skipBlanks rest).2 + 1)
  | c :: rest => if isBlank c then skipBlanks rest else (c :: rest, 0)
  | [] => ([], 0)

end Source

namespace Reader

/-- Finds fault with a script. -/
def fault {α : Type} (message : String) : Reader α := do
  throw (.malformed (← get).line message)

/-- Finds fault with a token where something else is expected. -/
def unexpected {α : Type} (token : Token) (expected : Option Token) : Reader α :=
  fault (token.display ++ " unexpected" ++
    match expected with
    | some expected => " (expecting " ++ expected.display ++ ")"
    | none => "")

/-- Gives up, unless no more text will come. -/
def atEnd : Reader Unit := do
  if !(← get).closed then throw .unfinished

/-- The next character as it stands in the script. -/
def peekRaw : Reader (Option Char) := do
  match (← get).text with
  | c :: _ => return some c
  | [] =>
    atEnd
    return none

/-- The next character. -/
def peek : Reader (Option Char) := do
  modify fun s =>
    let (text, lines) := Source.joinLines s.text
    { s with text := text, line := s.line + lines }
  if (← get).text = ['\\'] then atEnd
  peekRaw

/-- Takes the next character. -/
def advance : Reader Unit :=
  modify fun s => { s with
    text := s.text.tail
    line := if s.text.head? = some '\n' then s.line + 1 else s.line }

/-- Takes the next character if it is a certain one. -/
def takeIf (c : Char) : Reader Bool := do
  if (← peek) = some c then
    advance
    return true
  else return false

/-- Takes characters of a kind, at most so many. -/
def takeWhile (kind : Char → Bool) : Nat → Reader Text
  | 0 => return []
  | most + 1 => do
    match ← peek with
    | some c =>
      if kind c then
        advance
        return c :: (← takeWhile kind most)
      else return []
    | none => return []

/-- Takes what is left of a text in single quotes. -/
def takeQuotation : Reader Text := do
  let s ← get
  let inner := s.text.takeWhile (· != '\'')
  let rest := s.text.drop inner.length
  let line := s.line + inner.count '\n'
  if rest = [] then
    set { s with text := [], line := line }
    atEnd
    fault "Unterminated quoted string"
  else
    set { s with text := rest.tail, line := line }
    return inner

/-- Skips blanks and a comment. -/
def skipBlanks : Reader Unit :=
  modify fun s =>
    let (text, lines) := Source.skipBlanks s.text
    let text := if text.head? = some '#' then text.dropWhile (· != '\n') else text
    { s with text := text, line := s.line + lines }

/-- Puts a token back. -/
def hold (token : Token) : Reader Unit := modify fun s => { s with held := some token }

/-- Reads another text in the middle of a script. -/
def inside {α : Type} (text : Text) (line : Nat) (reader : Reader α) : Reader α := do
  let s ← get
  set { s with
    text := text
    closed := true
    line := line
    held := none
    announced := []
    expanding := [] }
  let a ← reader
  modify fun t => { s with documents := t.documents, nextDocument := t.nextDocument }
  return a

end Reader

namespace Announcement

/-- Whether a line goes on behind its end. -/
def goesOn (line : Text) : Bool := (line.reverse.takeWhile (· == '\\')).length % 2 == 1

/-- Splits a document off the lines of a script: its text, the number of its lines and the lines
that follow it. -/
def split (d : Announcement) (closed : Bool) :
    Bool → List Text → Option (Text × Nat × List Text)
  | _, [] => some ([], 0, [[]])
  | joined, line :: rest =>
    let line := if d.indented && !joined then line.dropWhile (· == '\t') else line
    let found := !joined && line == d.delimiter
    match rest with
    | [] => if closed then some (if found then [] else line, 0, [[]]) else none
    | _ :: _ =>
      if found then some ([], 1, rest)
      else
        (split d closed (!d.literal && goesOn line) rest).map fun (text, lines, rest) =>
          (line ++ '\n' :: text, lines + 1, rest)

end Announcement

end LspSession.Shell
