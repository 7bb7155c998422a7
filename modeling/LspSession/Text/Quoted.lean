import LspSession.Text.Printable

/-!
# `LspSession.Text.Quoted`: a text between quotes, with every character visible

A quoted text stands between double quotes. Inside, the quote and the backslash follow a
backslash; tab, line feed, carriage return and the null character have a letter each; any other
character that does not show by itself is written by its code point in lower-case hexadecimal
between braces. An apostrophe is an ordinary character.
-/

set_option autoImplicit false

namespace LspSession.Text

/-- The character of a hexadecimal digit below sixteen, in lower case. -/
def hexChar (d : Nat) : Char := if d < 10 then Char.ofNat (48 + d) else Char.ofNat (87 + d)

/-- The hexadecimal digits of a number, with no leading zero. -/
def hexDigits (n : Nat) : List Char :=
  if n < 16 then [hexChar n] else hexDigits (n / 16) ++ [hexChar (n % 16)]
termination_by n
decreasing_by omega

namespace Quoted

/-- The spelling of one character between quotes. A character that `isPlain` stands for itself,
except for the quote and the backslash. -/
def escape (c : Char) : List Char :=
  if c = '"' then ['\\', '"']
  else if c = '\\' then ['\\', '\\']
  else if c = '\t' then ['\\', 't']
  else if c = '\n' then ['\\', 'n']
  else if c = '\r' then ['\\', 'r']
  else if c = '\x00' then ['\\', '0']
  else if isPlain c then [c]
  else ['\\', 'u', '\x7b'] ++ hexDigits c.toNat ++ ['\x7d']

end Quoted

/-- A text between double quotes, as debug output shows it. -/
def quote (s : String) : String :=
  String.ofList ('"' :: s.toList.flatMap Quoted.escape ++ ['"'])

end LspSession.Text
