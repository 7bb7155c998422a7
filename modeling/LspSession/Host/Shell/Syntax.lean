/-!
# `LspSession.Host.Shell.Syntax`: scripts as trees

A script is a list of commands. A list holds chains of pipelines, a pipeline holds commands, and a
command is either simple, which is a row of words with assignments in front and redirections
anywhere, or one of the compound commands, which hold lists.

A word is a row of parts: characters that stand for themselves, in quotes or not, and expansions,
which give way to a value, to what a command writes or to a number. Expansions can hold words and
commands, so words and commands are defined together.

The texts of a script are handled one octet at a time, and a character of value below 256 stands for
each octet.
-/

set_option autoImplicit false

namespace LspSession.Shell

/-- A text of octets. -/
abbrev Text := List Char

/-- Whether a text does not come after another one in the order of their characters. -/
def inOrder (a b : Text) : Bool := !decide (b < a)

/-- What a redirection does with its descriptor. -/
inductive Redirection where
  /-- Opens a file to read. -/
  | input
  /-- Opens a file to write. It may have to be a new one. -/
  | output
  /-- Opens a file to write, whether it is new or not. -/
  | overwrite
  /-- Opens a file to write at its end. -/
  | append
  /-- Opens a file to read and write. -/
  | update
  /-- Makes it refer to what another descriptor refers to, or to nothing. -/
  | duplicate
  /-- Makes it read as a text that stands in the script. -/
  | document
  deriving DecidableEq, Repr

/-- What stands in for a variable. -/
inductive Fallback where
  /-- The word stands in for a missing value. -/
  | otherwise
  /-- The word stands in for a missing value and becomes the value. -/
  | assign
  /-- The word says what is wrong if there is no value. -/
  | complain
  /-- The word stands in for the value if there is one. -/
  | alternative
  deriving DecidableEq, Repr

mutual

/-- A part of a word. -/
inductive Part where
  /-- A character that is written without quotes. -/
  | plain (c : Char)
  | quoted (c : Char)
  /-- Nothing, but in quotes, so that there is a field. -/
  | mark
  | parameter (inQuotes : Bool) (name : List Char) (use : Use)
  | command (inQuotes : Bool) (body : Command)
  | arithmetic (inQuotes : Bool) (expression : List Part)

/-- How the value of a variable is used. -/
inductive Use where
  | value
  | length
  /-- Something may stand in. The value counts as missing also if it is empty and that is said. -/
  | fallback (kind : Fallback) (orEmpty : Bool) (word : List Part)
  /-- What a pattern stands for is cut off at one end. -/
  | trim (atEnd longest : Bool) (pattern : List Part)
  /-- The expansion makes no sense. -/
  | bad

/-- A redirection: a descriptor, what is done with it, and the word that says to what. A text that
stands in the script has a number in its place. -/
inductive Redirect where
  | mk (descriptor : Nat) (kind : Redirection) (target : List Part) (document : Nat)

/-- A command. -/
inductive Command where
  /-- Does nothing, not even to the status. -/
  | skip
  | simple (line : Nat) (assignments : List (List Char × List Part)) (words : List (List Part))
      (redirects : List Redirect)
  /-- Runs a command with redirections. -/
  | redirected (body : Command) (redirects : List Redirect)
  /-- Gives the output of each command to the next one as its input. -/
  | pipeline (commands : List Command)
  /-- Turns success into failure and failure into success. -/
  | negate (body : Command)
  /-- Runs the second command if the first succeeds. -/
  | both (left right : Command)
  /-- Runs the second command if the first fails. -/
  | either (left right : Command)
  | sequence (left right : Command)
  | background (body : Command)
  | subshell (body : Command) (redirects : List Redirect)
  /-- Runs the second command or the third, as the first succeeds or fails. -/
  | choice (condition yes : Command) (no : Option Command)
  /-- Runs the body as long as the condition succeeds, or fails. -/
  | loop (while_ : Bool) (condition body : Command)
  /-- Runs the body for each of the words, or of the parameters. -/
  | each (line : Nat) (name : List Char) (words : Option (List (List Part))) (body : Command)
  /-- Runs the first body of which a pattern stands for the word. -/
  | select (line : Nat) (word : List Part) (cases : List (List (List Part) × Command))
  | function (line : Nat) (name : List Char) (body : Command)

end

/-- A word. -/
abbrev Word := List Part

instance : Inhabited Command := ⟨.skip⟩

/-! ### Characters -/

/-- Whether a character stands between words. -/
def isBlank (c : Char) : Bool := c == ' ' || c == '\t'

/-- Whether a character is a digit. -/
def isDigit (c : Char) : Bool := '0' ≤ c && c ≤ '9'

/-- Whether a character can start the name of a variable. -/
def isNameStart (c : Char) : Bool :=
  c == '_' || ('a' ≤ c && c ≤ 'z') || ('A' ≤ c && c ≤ 'Z')

/-- Whether a character can be part of the name of a variable. -/
def isNameChar (c : Char) : Bool := isNameStart c || isDigit c

/-- Whether a text is the name of a variable. -/
def isName : Text → Bool
  | [] => false
  | c :: rest => isNameStart c && rest.all isNameChar

/-- The parameters that are named by one special character. -/
def isSpecial (c : Char) : Bool := ['@', '*', '#', '?', '-', '$', '!'].contains c

namespace Part

/-- The character that a part is without quotes. -/
def plain? : Part → Option Char
  | .plain c => some c
  | _ => none

/-- Whether a part is a certain character without quotes. -/
def isPlain (part : Part) (c : Char) : Bool :=
  match part with
  | .plain d => c == d
  | _ => false

/-- Whether a part is in quotes. -/
def isQuoted : Part → Bool
  | .quoted _ | .mark => true
  | _ => false

end Part

namespace Word

/-- The text of a word that is written without quotes and without expansions. -/
def plain? (word : Word) : Option Text := word.mapM Part.plain?

/-- The name and the value of an assignment, if a word is one. -/
def assignment? (word : Word) : Option (Text × Word) :=
  let name := word.takeWhile fun part => (part.plain?).any isNameChar
  match word.drop name.length with
  | .plain '=' :: value =>
    (plain? name).bind fun name => if isName name then some (name, value) else none
  | _ => none

end Word

namespace Redirect

/-- The descriptor that a redirection is for. -/
def descriptor : Redirect → Nat
  | .mk descriptor _ _ _ => descriptor

/-- What a redirection does. -/
def kind : Redirect → Redirection
  | .mk _ kind _ _ => kind

/-- The word that names what a redirection leads to. -/
def target : Redirect → Word
  | .mk _ _ target _ => target

/-- The number of the text that stands in the script. -/
def document : Redirect → Nat
  | .mk _ _ _ document => document

end Redirect

end LspSession.Shell
