/-!
# `LspSession.Text.Blank`: blank characters and trimming

A character is blank when Unicode gives it the property White_Space: the five controls from tab
to carriage return, next line, and the spaces and separators listed in `isBlank`. The zero-width
space, the byte order mark and the Mongolian vowel separator do not have the property.
-/

set_option autoImplicit false

namespace LspSession.Text

/-- Unicode White_Space, as a list of the 25 characters that have the property. -/
def isBlank (c : Char) : Bool :=
  let n := c.toNat
  (0x09 ≤ n && n ≤ 0x0D) || n == 0x20 || n == 0x85 || n == 0xA0 || n == 0x1680 ||
    (0x2000 ≤ n && n ≤ 0x200A) || n == 0x2028 || n == 0x2029 || n == 0x202F || n == 0x205F ||
    n == 0x3000

/-- The text without its leading blanks. The rest of it stays, with the blanks in it. -/
def trimLeft (cs : List Char) : List Char := cs.dropWhile isBlank

/-- The text without its trailing blanks, taken off the front of the reversed text. -/
def trimRight (cs : List Char) : List Char := (cs.reverse.dropWhile isBlank).reverse

/-- The text without blanks at either end. A blank text is trimmed to the empty one. -/
def trim (cs : List Char) : List Char := trimRight (trimLeft cs)

/-- Whether a text holds blanks only, as the empty text does. -/
def isAllBlank (cs : List Char) : Bool := cs.all isBlank

/-- A text that starts with no blank is kept at its front by `trimLeft`. -/
theorem trimLeft_cons_of_not_blank (c : Char) (cs : List Char) (h : isBlank c = false) :
    trimLeft (c :: cs) = c :: cs := by
  simp [trimLeft, h]

end LspSession.Text
