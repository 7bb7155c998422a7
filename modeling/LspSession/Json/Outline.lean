import LspSession.Json.Basic

/-!
# `LspSession.Json.Outline`: documents with the kind of every part

For a log a document is written with the name of its kind before every value, so that an integer
and a string of the same digits cannot be confused.
-/

set_option autoImplicit false

namespace LspSession.Json

mutual

/-- A document with the kind of every part in front of it. Texts are quoted by `Text.quote`, which
is not how they are quoted in a document. -/
def outline : Json → String
  | .null => "Null"
  | .bool true => "Bool(true)"
  | .bool false => "Bool(false)"
  | .number n => "Number(" ++ n.render ++ ")"
  | .string s => "String(" ++ Text.quote s ++ ")"
  | .array items => "Array [" ++ ", ".intercalate (outlineItems items) ++ "]"
  | .object members => "Object \x7b" ++ ", ".intercalate (outlineMembers members) ++ "\x7d"

/-- The `outline` of each item, in their order. -/
def outlineItems : List Json → List String
  | [] => []
  | j :: rest => outline j :: outlineItems rest

/-- The name and the `outline` of each member, in the order of the list. -/
def outlineMembers : List (String × Json) → List String
  | [] => []
  | (k, j) :: rest => (Text.quote k ++ ": " ++ outline j) :: outlineMembers rest

end

end LspSession.Json
