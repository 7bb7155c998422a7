import LspSession.IoError
import LspSession.Text.Utf8

/-!
# `LspSession.Host.FileTree`: directories and files

A tree of directories, files and links, and how an operating system finds its way through it. A path
is followed from the root or from a working directory, one part at a time: an empty part and a
single dot stay where they are, a double dot goes to the parent, and any other part has to name
something that is there. A link on the way gives way to the path that it holds. Only directories
have anything in them. The empty path leads nowhere, and neither parts of a path nor whole paths can
be of any length.
-/

set_option autoImplicit false

namespace LspSession

/-- What behaves like a file without being one. -/
inductive Device where
  /-- Reads as empty and takes everything. -/
  | null
  /-- Reads as zeros without an end and takes everything. -/
  | zero
  /-- Reads as zeros without an end and takes nothing. -/
  | full
  /-- The same as a descriptor of the process that opens it. -/
  | descriptor (number : Nat)
  /-- The terminal of the process that opens it, which has none. -/
  | terminal
  deriving DecidableEq, Repr

/-- What there is at a place. -/
inductive Node where
  | directory
  | file (bytes : Bytes) (executable : Bool)
  /-- A program that the computer knows by a name. -/
  | program (name : String)
  | device (device : Device)
  | link (target : String)
  deriving DecidableEq, Repr

namespace Node

/-- Whether a node is a directory. -/
def isDirectory : Node → Bool
  | .directory => true
  | _ => false

end Node

/-- A place in a tree: the names on the way to it from the root. -/
abbrev Place := List String

namespace Place

/-- A place as an absolute path. -/
def absolute (place : Place) : String := "/" ++ "/".intercalate place

end Place

/-- What there is at every place but the root, which is always a directory. -/
structure FileTree where
  nodes : List (Place × Node)
  deriving DecidableEq, Repr

namespace FileTree

/-! ### Places -/

/-- What there is at a place. -/
def node? (t : FileTree) (place : Place) : Option Node :=
  if place = [] then some .directory else t.nodes.lookup place

/-- Whether a place is a directory. -/
def isDirectory (t : FileTree) (place : Place) : Bool := (t.node? place).any Node.isDirectory

/-- Puts something at a place. -/
def put (t : FileTree) (place : Place) (node : Node) : FileTree :=
  if t.nodes.any fun (other, _) => other == place then
    ⟨t.nodes.map fun (other, old) => (other, if other == place then node else old)⟩
  else ⟨t.nodes ++ [(place, node)]⟩

/-- Removes what there is at a place and everything in it. -/
def erase (t : FileTree) (place : Place) : FileTree :=
  ⟨t.nodes.filter fun (other, _) => !place.isPrefixOf other⟩

/-- The names in a directory, in ascending order. -/
def names (t : FileTree) (place : Place) : List String :=
  (t.nodes.filterMap fun (other, _) =>
    if other ≠ [] ∧ other.dropLast = place then other.getLast? else none).mergeSort

/-! ### Paths -/

/-- The greatest number of bytes in a name. -/
def greatestName : Nat := 255

/-- The greatest number of bytes in a path. -/
def greatestPath : Nat := 4095

/-- How many links are followed at most. -/
def greatestLinks : Nat := 40

/-- Where following a path starts. -/
def startOf (directory : Place) (path : String) : Place :=
  if path.toList.head? = some '/' then [] else directory

/-- The parts of a path. -/
def partsOf (path : String) : List String := path.splitOn "/"

/-- Whether a part of a path stays where it is. -/
def isIdle (part : String) : Bool := part == "" || part == "."

/-- Follows the parts of a path from a place, through at most so many links. The last part is not
followed if it is a link and that is not asked for. -/
def follow (t : FileTree) (last : Bool) : Nat → Place → List String → Except OsError Place
  | _, place, [] => .ok place
  | links, place, part :: rest =>
    if !t.isDirectory place then .error .notADirectory
    else if isIdle part then t.follow last links place rest
    else if part = ".." then t.follow last links place.dropLast rest
    else if greatestName < part.utf8ByteSize then .error .nameTooLong
    else
      let next := place ++ [part]
      match t.node? next, links with
      | none, _ => .error .notFound
      | some (.link target), links =>
        if rest = [] ∧ !last then .ok next
        else match links with
          | 0 => .error .linkLoop
          | links + 1 => t.follow last links (startOf place target) (partsOf target ++ rest)
      | some _, links => t.follow last links next rest
termination_by links _ parts => (links, parts.length)

/-- Whether a text is a path at all. -/
def checkText (path : String) : Except OsError Unit :=
  if path.toList.contains '\x00' then .error .nullInPath
  else if path = "" then .error .notFound
  else .ok ()

/-- Whether a path can be followed at once. -/
def checkPath (path : String) : Except OsError Unit := do
  checkText path
  if greatestPath < path.utf8ByteSize then .error .nameTooLong

/-- The place that a path leads to, as seen from a working directory. -/
def locate (t : FileTree) (directory : Place) (path : String) (last : Bool) :
    Except OsError Place := do
  checkPath path
  t.follow last greatestLinks (startOf directory path) (partsOf path)

/-- The directory that a path leads to. -/
def locateDirectory (t : FileTree) (directory : Place) (path : String) : Except OsError Place := do
  let place ← t.locate directory path true
  if t.isDirectory place then return place else .error .notADirectory

/-- The absolute path, without dots and links, of the place that a path leads to. The path is
followed name by name, so it can be of any length. What stands for a descriptor has no such path. -/
def canonicalize (t : FileTree) (directory : Place) (path : String) : Except OsError String := do
  checkText path
  let place ← t.follow true greatestLinks (startOf directory path) (partsOf path)
  match t.node? place with
  | some (.device (.descriptor _)) => .error .notFound
  | _ => return place.absolute

/-- The directory that the last name of a path is in, that name, and whether a slash follows it. The
path of a directory that does not end with a name has none. -/
def locateParent (t : FileTree) (directory : Place) (path : String) :
    Except OsError (Place × Option String × Bool) := do
  checkPath path
  let parts := (partsOf path).reverse
  let slashes := parts.takeWhile (· = "")
  let parts := parts.drop slashes.length
  let parent ← t.follow true greatestLinks (startOf directory path) parts.tail.reverse
  if !t.isDirectory parent then .error .notADirectory
  else return (parent, parts.head?.filter fun name => name ≠ "." ∧ name ≠ "..", slashes ≠ [])

/-! ### Files -/

/-- Why nothing can be made in a directory, if that is so. What is in three directories is up to the
system alone. -/
def closedTo? : Place → Option OsError
  | "proc" :: _ => some .notFound
  | "sys" :: _ => some .readOnly
  | "dev" :: "pts" :: _ => some .permissionDenied
  | _ => none

/-- The place of a file that is written to, which is made if it is not there. A path may lead there
through at most so many links, and the file that the last of them names may be missing. -/
def locateToWriteThrough (t : FileTree) (links : Nat) (directory : Place) (path : String) :
    Except OsError (FileTree × Place) := do
  match ← t.locateParent directory path with
  | (_, none, _) | (_, some _, true) => .error .isADirectory
  | (parent, some name, false) =>
    if greatestName < name.utf8ByteSize then .error .nameTooLong
    else
      match t.node? (parent ++ [name]) with
      | none =>
        match closedTo? parent with
        | some e => .error e
        | none => return (t.put (parent ++ [name]) (.file [] false), parent ++ [name])
      | some .directory => .error .isADirectory
      | some (.link target) =>
        match links with
        | 0 => .error .linkLoop
        | links + 1 => t.locateToWriteThrough links parent target
      | some _ => return (t, parent ++ [name])

/-- The place of a file that is written to, which is made if it is not there. -/
def locateToWrite (t : FileTree) (directory : Place) (path : String) :
    Except OsError (FileTree × Place) := t.locateToWriteThrough greatestLinks directory path

/-- The bytes of a file. -/
def bytesAt (t : FileTree) (place : Place) : Bytes :=
  match t.node? place with
  | some (.file bytes _) => bytes
  | _ => []

/-- Replaces the bytes of a file. -/
def setBytes (t : FileTree) (place : Place) (bytes : Bytes) : FileTree :=
  match t.node? place with
  | some (.file _ executable) => t.put place (.file bytes executable)
  | _ => t

/-! ### Names -/

/-- Makes something at the end of a path where nothing is. -/
def make (t : FileTree) (directory : Place) (path : String) (node : Node) :
    Except OsError FileTree := do
  match ← t.locateParent directory path with
  | (_, none, _) => .error .exists_
  | (parent, some name, slash) =>
    if greatestName < name.utf8ByteSize then .error .nameTooLong
    else if (t.node? (parent ++ [name])).isSome then .error .exists_
    else if slash ∧ !node.isDirectory then .error .notFound
    else match closedTo? parent with
      | some e => .error e
      | none => return t.put (parent ++ [name]) node

/-- Removes what is at the end of a path and is no directory. -/
def remove (t : FileTree) (directory : Place) (path : String) : Except OsError FileTree := do
  let place ← t.locate directory path false
  if t.isDirectory place then .error .isADirectory else return t.erase place

/-- Removes an empty directory. -/
def removeDirectory (t : FileTree) (directory : Place) (path : String) :
    Except OsError FileTree := do
  let place ← t.locate directory path false
  if !t.isDirectory place then .error .notADirectory
  else if (partsOf path).getLast? = some "." ∨ place = [] then .error .invalid
  else if t.names place ≠ [] then .error .notEmpty
  else return t.erase place

/-- Gives another name to what is at the end of a path. -/
def rename (t : FileTree) (directory : Place) (path target : String) : Except OsError FileTree := do
  let source ← t.locate directory path false
  match ← t.locateParent directory target with
  | (_, none, _) => .error .exists_
  | (parent, some name, _) =>
    let place := parent ++ [name]
    if place = source then return t
    else if source.isPrefixOf place then .error .invalid
    else
      match t.isDirectory source, t.node? place with
      | true, some .directory =>
        if t.names place ≠ [] then .error .notEmpty else return move (t.erase place) source place
      | true, some _ => .error .notADirectory
      | false, some .directory => .error .isADirectory
      | _, _ => return move (t.erase place) source place
where
  move (t : FileTree) (source place : Place) : FileTree :=
    ⟨t.nodes.map fun (other, node) =>
      (if source.isPrefixOf other then place ++ other.drop source.length else other, node)⟩

end FileTree

end LspSession
