import LspSession.Frame.Basic
import LspSession.Text.Blank

/-!
# `LspSession.Frame.Header`: the length that a header declares

A header is cut into lines at every carriage return that a line feed follows. Each line is cut at
its first colon into a name and a value, and blanks around both do not count. The name of the
length is matched without regard to the case of ASCII letters; its value is a numeral that may
start with a plus sign. Lines are read in order, the first bad one decides the error, and the last
length is the one that holds. Lines of other names are ignored.
-/

set_option autoImplicit false

namespace LspSession.Frame

/-- Cuts a text at each line end. `line` is the line under way and `lines` the lines before it, both
newest first. -/
def splitLinesFrom (line : List Char) (lines : List (List Char)) : List Char → List (List Char)
  | [] => (line.reverse :: lines).reverse
  | '\r' :: '\n' :: rest => splitLinesFrom [] (line.reverse :: lines) rest
  | c :: rest => splitLinesFrom (c :: line) lines rest

/-- The lines of a text, by `splitLinesFrom`, without their ends. A text without line ends is one
line, and so is the empty text. A carriage return or a line feed alone ends no line. -/
def splitLines (text : List Char) : List (List Char) := splitLinesFrom [] [] text

/-- What stands before and after the first colon of a line. Further colons belong to the value, and
without any there is `none`. -/
def splitColon? (line : List Char) : Option (List Char × List Char) :=
  match line.dropWhile (· ≠ ':') with
  | [] => none
  | _ :: value => some (line.takeWhile (· ≠ ':'), value)

/-- Whether two texts agree up to the case of ASCII letters. Letters beyond ASCII have to be the
same. -/
def equalsIgnoringCase (a b : List Char) : Bool := a.map Char.toLower == b.map Char.toLower

/-- Whether a name, blanks around it apart, is that of the length, `lengthName`. -/
def isLengthName (name : List Char) : Bool :=
  equalsIgnoringCase (Text.trim name) lengthName.toList

/-- One line of a header: the length it gives, or nothing if it has another name. A line has to have
a colon, whatever its name, and a length has to be a numeral up to `sizeBound`. -/
def lineLength? (line : List Char) : Except FrameError (Option Nat) :=
  match splitColon? line with
  -- An empty line is one without a colon, and so is an empty header.
  | none => .error (.lineWithoutColon (String.ofList line))
  | some (name, value) =>
    if isLengthName name then
      match Decimal.ofNumeralUpTo? sizeBound (Text.trim value) with
      | some n => .ok (some n)
      | none => .error (.badLength (String.ofList (Text.trim value)))
    else .ok none

/-- The last length that lines give, or the one found before them. Reading stops at the first line
that `lineLength?` finds at fault. -/
def lastLength? (found : Option Nat) : List (List Char) → Except FrameError (Option Nat)
  | [] => .ok found
  | line :: rest =>
    match lineLength? line with
    | .error e => .error e
    -- A later length takes the place of the one found before it.
    | .ok length => lastLength? (length.or found) rest

/-- The length that a header declares by its lines (`lastLength?`). A header that declares none is
at fault, and of several lengths the last one holds. -/
def contentLength (header : List Char) : Except FrameError Nat :=
  match lastLength? none (splitLines header) with
  | .error e => .error e
  | .ok none => .error .missingLength
  | .ok (some n) => .ok n

end LspSession.Frame
