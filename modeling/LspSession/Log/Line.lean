import LspSession.Json.Basic
import LspSession.Log.Record

/-!
# `LspSession.Log.Line`: how a record is written

A record is written either for people or as a document. The level comes first, then the part of the
program that wrote the record and the message. A timed operation follows the message. What is
written for people may end up on a terminal, so characters that could control one are shown by their
codes there; line ends and tabs are kept, and a message with line ends takes several lines.
-/

set_option autoImplicit false

namespace LspSession.Log.Record

/-- The record as a document, of its level, its part and its fields. The message is the first of
these. -/
def toJson (r : Record) : Json :=
  .object [("level", .string r.level.name), ("target", .string r.source.name),
    ("fields", .object (("message", .string r.message) ::
      (r.operation.map fun o => ("operation", Json.string o)).toList))]

/-- A character of a message as it is shown to people. Those by which a terminal is controlled are
written with their codes. -/
def shown (c : Char) : String :=
  let code := c.toNat
  -- Line ends and tabs are not in the list: they are kept.
  if [0x07, 0x08, 0x0C, 0x1B, 0x7F].contains code then
    "\\x" ++ String.ofList [Text.hexChar (code / 16), Text.hexChar (code % 16)]
  else if 0x80 ≤ code ∧ code ≤ 0x9F then
    "\\u\x7b" ++ String.ofList [Text.hexChar (code / 16), Text.hexChar (code % 16)] ++ "\x7d"
  else String.singleton c

/-- The record as a line for people, or several lines where the message has line ends. -/
def toText (r : Record) : String :=
  r.level.name ++ " " ++ r.source.name ++ ": " ++ String.join (r.message.toList.map shown) ++
    match r.operation with
    | some operation => " operation=" ++ operation
    | none => ""

/-- The record as a line, in either format. -/
def line (asDocument : Bool) (r : Record) : String :=
  if asDocument then r.toJson.render else r.toText

end LspSession.Log.Record
