import LspSession.Text.Decimal
import LspSession.Text.Quoted
import LspSession.Text.Utf8

/-!
# `LspSession.Json.Fault`: why bytes are not a document

A `Fault` is of one of two kinds. Bytes are `truncated` if they stop before their document is
complete, and `malformed` if one of them continues no document. With the first comes what is still
open (`Unclosed`), with the second what is wrong (`Wrong`), and with both the `Position` that the
reader came to. These are told in `Fault.message` and decide nothing, so they are implicit: a
`Fault` can be taken by its kind alone.

A `Position` counts lines from one, and counts in its line the bytes up to and with the one that is
at fault. Where the input stops short there is no such byte, and all bytes of the line count.
-/

set_option autoImplicit false

namespace LspSession.Json

/-- What is still open where an input stops short. It is the innermost part that waits for more. -/
inductive Unclosed where
  /-- An array before its closing bracket. -/
  | array
  /-- An object before its closing brace, behind a member or a name. -/
  | object
  /-- A text before its closing quote. -/
  | text
  /-- A value that has to come, or one of which there is only a part. -/
  | value
  deriving DecidableEq, Repr

/-- What is wrong with a byte that continues no document. Which of them it is depends on what could
have come in its place. -/
inductive Wrong where
  /-- Behind a name there is no colon. -/
  | noColon
  /-- Behind an item there is neither a comma nor the end of the array. -/
  | noItemEnd
  /-- Behind a member there is neither a comma nor the end of the object. -/
  | noMemberEnd
  /-- A word is not one of `null`, `true` and `false`. -/
  | unknownWord
  /-- No value starts so. -/
  | noValue
  /-- No escape is written so. -/
  | badEscape
  /-- No number goes on so. -/
  | badNumber
  /-- A number is too large to be finite. -/
  | numberTooLarge
  /-- The bytes of a text are not UTF-8. -/
  | notUnicode
  /-- A text has a control character that is not escaped. -/
  | controlCharacter
  /-- The name of a member is not a text. -/
  | nameNotText
  /-- An escaped half of a pair stands alone. -/
  | loneHalf
  /-- Behind the first half of a pair no escape follows. -/
  | noSecondHalf
  /-- An array or an object ends behind a comma. -/
  | trailingComma
  /-- Something other than blanks follows the document. -/
  | trailingCharacters
  /-- Too many containers are open at once. -/
  | tooDeep
  deriving DecidableEq, Repr

/-- The sentence that names what is still open, the cause of a `truncated` fault. -/
def Unclosed.message : Unclosed → String
  | .array => "EOF while parsing a list"
  | .object => "EOF while parsing an object"
  | .text => "EOF while parsing a string"
  | .value => "EOF while parsing a value"

/-- The sentence that names what is wrong, the cause of a `malformed` fault. -/
def Wrong.message : Wrong → String
  | .noColon => "expected `:`"
  | .noItemEnd => "expected `,` or `]`"
  | .noMemberEnd => "expected `,` or `\x7d`"
  | .unknownWord => "expected ident"
  | .noValue => "expected value"
  | .badEscape => "invalid escape"
  | .badNumber => "invalid number"
  | .numberTooLarge => "number out of range"
  | .notUnicode => "invalid unicode code point"
  | .controlCharacter =>
    "control character (\\u0000-\\u001F) found while parsing a string"
  | .nameNotText => "key must be a string"
  | .loneHalf => "lone leading surrogate in hex escape"
  | .noSecondHalf => "unexpected end of hex escape"
  | .trailingComma => "trailing comma"
  | .trailingCharacters => "trailing characters"
  | .tooDeep => "recursion limit exceeded"

/-- A place in an input: its `line`, counted from one, and the number of bytes of that line up to
it. -/
structure Position where
  line : Nat
  column : Nat
  deriving DecidableEq, Repr

/-- The place behind some bytes of an input. A line feed ends its line, so behind it the column is
zero. -/
def Position.behind (bytes : Bytes) : Position :=
  ⟨bytes.count 0x0A + 1, (bytes.reverse.takeWhile (· ≠ 0x0A)).length⟩

/-- Why bytes are not a document. Whether more bytes could help is told by the constructor, and
everything else is for `Fault.message`. -/
inductive Fault where
  /-- The input stopped before the document was complete. -/
  | truncated {inside : Unclosed} {position : Position}
  /-- Some byte continues no document. -/
  | malformed {wrong : Wrong} {position : Position}
  deriving DecidableEq, Repr

namespace Fault

/-- The sentence that names a fault without its `position`. -/
def cause : Fault → String
  | @truncated inside _ => inside.message
  | @malformed wrong _ => wrong.message

/-- The place that the reader came to. For a `truncated` input it is the end. -/
def position : Fault → Position
  | @truncated _ position | @malformed _ position => position

/-- The `cause` of a fault and its place, by line and column. -/
def message (f : Fault) : String :=
  f.cause ++ " at line " ++ Decimal.render f.position.line ++ " column " ++
    Decimal.render f.position.column

/-- A fault with all its parts, as it stands in the outline of a `FrameError`. -/
def outline (f : Fault) : String :=
  "Error(" ++ Text.quote f.cause ++ ", line: " ++ Decimal.render f.position.line ++ ", column: " ++
    Decimal.render f.position.column ++ ")"

end Fault

/-- Where and why a reader stops, as far as it knows without the bytes that it has read.
`Stop.fault` makes the `Fault` of it. -/
inductive Stop where
  /-- The input stops short inside what is named. -/
  | short (inside : Unclosed)
  /-- Something is wrong, and behind it so many bytes of the input are left. -/
  | wrong (wrong : Wrong) (left : Nat)
  deriving DecidableEq, Repr

/-- The `Fault` of an input at which its reader stops. The bytes that are left say how far it has
come. -/
def Stop.fault (input : Bytes) : Stop → Fault
  | short inside => @Fault.truncated inside (.behind input)
  | wrong w left => @Fault.malformed w (.behind (input.take (input.length - left)))

end LspSession.Json
