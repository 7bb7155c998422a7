import LspSession.Number.Numeral
import LspSession.Text.Quoted

/-!
# `LspSession.Json.Basic`: documents and their compact text

A `Json` document is the usual tree. An object is a list of members, and two readings of it
meet here. A document that was read lists its members in ascending order of their names, each
name once; `Json.ofMembers` builds such an object, and of two members with one name the later
wins. A document that is about to be written may list its members in any order, because `render`
writes them as they stand. `Json.sorted` takes the second kind to the first.
-/

set_option autoImplicit false

namespace LspSession

/-- A JSON document. Numbers are kept by their value (`Number`), not by their spelling, and members
in the order of the list. -/
inductive Json where
  | null
  | bool (value : Bool)
  | number (value : Number)
  | string (value : String)
  | array (items : List Json)
  | object (members : List (String × Json))
  deriving Repr, Inhabited

namespace Json

/-! ### Equality -/

mutual

/-- Structural equality of documents. Objects are the same only with their members in the same
order. -/
def beq : Json → Json → Bool
  | .null, .null => true
  | .bool a, .bool b => a == b
  | .number a, .number b => decide (a = b)
  | .string a, .string b => a == b
  | .array xs, .array ys => beqItems xs ys
  | .object xs, .object ys => beqMembers xs ys
  | _, _ => false

/-- Structural equality of item lists, item by item with `beq`. -/
def beqItems : List Json → List Json → Bool
  | [], [] => true
  | x :: xs, y :: ys => beq x y && beqItems xs ys
  | _, _ => false

/-- Structural equality of member lists, by names and, with `beq`, values in the order of the lists.
-/
def beqMembers : List (String × Json) → List (String × Json) → Bool
  | [], [] => true
  | (k, x) :: xs, (l, y) :: ys => k == l && beq x y && beqMembers xs ys
  | _, _ => false

end

mutual

/-- `beq` decides whether two documents are equal. With it `Json` gets its `DecidableEq`, which
cannot be derived for nested lists. -/
theorem beq_iff (x y : Json) : beq x y = true ↔ x = y := by
  match x, y with
  | .array xs, .array ys => simp [beq, beqItems_iff xs ys]
  | .object xs, .object ys => simp [beq, beqMembers_iff xs ys]
  -- Of an array and an object with any other document nothing more is to be said than that they
  -- differ.
  | .null, y => cases y <;> simp [beq]
  | .bool _, y => cases y <;> simp [beq]
  | .number _, y => cases y <;> simp [beq]
  | .string _, y => cases y <;> simp [beq]
  | .array _, .null | .array _, .bool _ | .array _, .number _ | .array _, .string _
  | .array _, .object _ => simp [beq]
  | .object _, .null | .object _, .bool _ | .object _, .number _ | .object _, .string _
  | .object _, .array _ => simp [beq]

/-- `beqItems` decides whether two lists of items are equal. -/
theorem beqItems_iff (xs ys : List Json) : beqItems xs ys = true ↔ xs = ys := by
  match xs, ys with
  | [], [] => simp [beqItems]
  | x :: xs, y :: ys => simp [beqItems, beq_iff x y, beqItems_iff xs ys]
  | [], _ :: _ => simp [beqItems]
  | _ :: _, [] => simp [beqItems]

/-- `beqMembers` decides whether two lists of members are equal. -/
theorem beqMembers_iff (xs ys : List (String × Json)) : beqMembers xs ys = true ↔ xs = ys := by
  match xs, ys with
  | [], [] => simp [beqMembers]
  | (k, x) :: xs, (l, y) :: ys =>
    simp [beqMembers, beq_iff x y, beqMembers_iff xs ys, and_assoc]
  | [], _ :: _ => simp [beqMembers]
  | _ :: _, [] => simp [beqMembers]

end

instance : DecidableEq Json := fun x y => decidable_of_iff _ (beq_iff x y)

/-! ### Members -/

/-- Puts a member before others, unless the first of them has the same name. In a sorted list that
is the only place where another of that name can stand. -/
def consMember (member : String × Json) : List (String × Json) → List (String × Json)
  | [] => [member]
  | first :: rest => if member.1 = first.1 then first :: rest else member :: first :: rest

/-- The members in ascending order of their names, each name once. Of two with one name the later
wins, since the sort is stable. -/
def sortMembers (members : List (String × Json)) : List (String × Json) :=
  -- The fold starts at the end, so of members with one name the last is met first and stays.
  (members.mergeSort fun a b => !decide (b.1 < a.1)).foldr consMember []

/-- The object with the given members, in ascending order of their names, as `sortMembers` lists
them. -/
def ofMembers (members : List (String × Json)) : Json := .object (sortMembers members)

/-- The value of the member with a name. Of two with one name it is the first, but an object that
was read has no two. -/
def member? (name : String) (members : List (String × Json)) : Option Json := members.lookup name

/-- The members of other names, in their order. -/
def withoutMember (name : String) (members : List (String × Json)) : List (String × Json) :=
  members.filter (·.1 ≠ name)

/-- Whether the document is `null`, which some members take as no value. -/
def isNull : Json → Bool
  | .null => true
  | _ => false

/-- Whether the document is an object, with members or without. -/
def isObject : Json → Bool
  | .object _ => true
  | _ => false

mutual

/-- The document with the members of every object in ascending order, also within items and values.
It is what `ofBytes` makes of the document's text. -/
def sorted : Json → Json
  | .array items => .array (sortedItems items)
  | .object members => ofMembers (sortedMembers members)
  | j => j

/-- Each item of a list, `sorted`. The order of the items stays. -/
def sortedItems : List Json → List Json
  | [] => []
  | j :: rest => sorted j :: sortedItems rest

/-- Each value of a member list, `sorted`. The members themselves stay where they are. -/
def sortedMembers : List (String × Json) → List (String × Json)
  | [] => []
  | (k, j) :: rest => (k, sorted j) :: sortedMembers rest

end

/-! ### Compact text -/

/-- The spelling of one character in a string. The quote, the backslash and the control characters
are escaped, and any other character `c` is written as it is. -/
def escape (c : Char) : List Char :=
  if c = '"' then ['\\', '"']
  else if c = '\\' then ['\\', '\\']
  else if c = '\x08' then ['\\', 'b']
  else if c = '\t' then ['\\', 't']
  else if c = '\n' then ['\\', 'n']
  else if c = '\x0c' then ['\\', 'f']
  else if c = '\r' then ['\\', 'r']
  else if c.toNat < 0x20 then
    ['\\', 'u', '0', '0', Text.hexChar (c.toNat / 16), Text.hexChar (c.toNat % 16)]
  else [c]

/-- A string between quotes, each of its characters as `escape` spells it. -/
def quoted (s : String) : List Char := '"' :: s.toList.flatMap escape ++ ['"']

mutual

/-- The characters of a document's compact text, which has no blanks between its parts; `render`
makes a text of them. -/
def chars : Json → List Char
  | .null => "null".toList
  | .bool true => "true".toList
  | .bool false => "false".toList
  | .number n => n.render.toList
  | .string s => quoted s
  | .array items => '[' :: itemChars true items ++ [']']
  | .object members => '\x7b' :: memberChars true members ++ ['\x7d']

/-- The `chars` of items, each but the first after a comma. -/
def itemChars : Bool → List Json → List Char
  | _, [] => []
  | first, j :: rest => (if first then [] else [',']) ++ chars j ++ itemChars false rest

/-- The `chars` of members, a name and a colon before each value, and each but the first after a
comma. -/
def memberChars : Bool → List (String × Json) → List Char
  | _, [] => []
  | first, (k, j) :: rest =>
    (if first then [] else [',']) ++ quoted k ++ ':' :: chars j ++ memberChars false rest

end

/-- The compact text of a document, as it stands in the body of a frame (`Frame.encode`) and in the
sentences of errors. -/
def render (j : Json) : String := String.ofList j.chars

end Json

end LspSession
