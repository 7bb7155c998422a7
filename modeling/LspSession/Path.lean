/-!
# `LspSession.Path`: paths as texts

A path is a text whose parts stand between slashes. Empty parts and parts of a single dot say
nothing, except that a slash or a dot at the very front says where the path starts. The file name
is the last part that says something, unless that is a double dot, and the parent is the path up to
it. A file name splits at its last dot into a stem and an extension, but a dot at its front belongs
to the stem.
-/

set_option autoImplicit false

namespace LspSession.Path

/-- The parts of a text between slashes. There is always one, and `join` puts them together again.
-/
def parts : List Char → List (List Char)
  | [] => [[]]
  | c :: rest =>
    match parts rest with
    | [] => [[c]]
    | part :: more => if c = '/' then [] :: part :: more else (c :: part) :: more

/-- Parts with slashes between them, none in front of the first and none behind the last. -/
def join : List (List Char) → List Char
  | [] => []
  | [part] => part
  | part :: rest => part ++ '/' :: join rest

/-- Cuts off the slash or the single dot that says where a path starts. Two dots say something and
are not cut off. -/
def splitStart : List Char → List Char × List Char
  | '/' :: rest => (['/'], rest)
  | ['.'] => (['.'], [])
  | '.' :: '/' :: rest => (['.'], '/' :: rest)
  | path => ([], path)

/-- Whether a part says nothing: it is empty, or the single dot of the directory where one is
already. -/
def isIdle (part : List Char) : Bool := part == [] || part == ['.']

/-- The parts after the start of a path, last first, without those at its end that are `isIdle`. -/
def reversedParts (path : List Char) : List (List Char) :=
  (parts (splitStart path).2).reverse.dropWhile isIdle

/-- The file name of a path, its last part that says something. A path that ends in a double dot has
none. -/
def fileName? (path : List Char) : Option (List Char) :=
  (reversedParts path).head?.filter (· ≠ ['.', '.'])

/-- The path up to its last part that says something, without idle parts at its end. -/
def parent (path : List Char) : List Char :=
  (splitStart path).1 ++ join ((reversedParts path).tail.dropWhile isIdle).reverse

/-- A path with one more part at its end. A slash is put between unless there is one, or nothing in
front of it. -/
def child (directory name : List Char) : List Char :=
  if directory = [] ∨ directory.getLast? = some '/' then directory ++ name
  else directory ++ '/' :: name

/-- What stands before the last dot of a file name, and what stands after it. There is no such dot
if it is the first character, and then all of the name is its stem. -/
def splitName (name : List Char) : List Char × Option (List Char) :=
  match name.reverse.dropWhile (· ≠ '.') with
  -- There is no dot, or only one in front of the name.
  | [] | [_] => (name, none)
  | _ :: stem => (stem.reverse, some (name.reverse.takeWhile (· ≠ '.')).reverse)

/-- The stem of a file name, by `splitName`. -/
def stem (name : List Char) : List Char := (splitName name).1

/-- The extension of a file name, without its dot. It is empty if there is none, and also if nothing
follows the dot. -/
def extension (name : List Char) : List Char := (splitName name).2.getD []

end LspSession.Path
