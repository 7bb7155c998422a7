import LspSession.Host.Shell.Arithmetic
import LspSession.Host.Utility.Calendar
import LspSession.Host.Utility.Copy
import LspSession.Host.Utility.Words

/-!
# `LspSession.Host.Utility.Files`: programs that work on files

These utilities make, remove, rename, copy and list files, directories and links. Each works on its
operands one after another and goes on after a fault, which shows in the status.
-/

set_option autoImplicit false

namespace LspSession.Utility

open Shell Shell.Activity

/-- Does something with each operand, and gives the greatest status. -/
def forEach (operands : List Text) (work : Text → Activity Nat) : Activity Nat := do
  let mut status := success
  for operand in operands do
    status := max status (← work operand)
  return status

/-- Says that something cannot be done with a file. -/
def cannot (utility what : String) (path : Text) (e : OsError) : Activity Nat :=
  refuse utility ("cannot " ++ what ++ " " ++ quote path ++ ": " ++ e.text) failed

/-- The path of a name in a directory. -/
def inside (directory name : Text) : Text :=
  if directory.getLast? = some '/' then directory ++ name else directory ++ '/' :: name

/-- What there is at a path. -/
def nodeAt (path : Text) (followLast : Bool) : Activity (Except OsError Node) := do
  return (← call (.status (toPath path) followLast)).map FileStatus.node

/-- Whether a path leads to a directory. -/
def isDirectory (path : Text) : Activity Bool := do
  match ← nodeAt path true with
  | .ok node => return node.isDirectory
  | .error _ => return false

/-! ### Making -/

/-- Makes the directories on the way to a path, shortest first. -/
def makeAll : List Text → Activity (Option (Text × OsError))
  | [] => return none
  | path :: rest => do
    if ← isDirectory path then makeAll rest
    else
      match ← call (.make (toPath path) .directory) with
      | .ok _ => makeAll rest
      | .error e => return some (path, e)

/-- A path and all directories that it is in, shortest first. -/
def ancestors (path : Text) : List Text :=
  let ends := (path.zipIdx 1).filterMap fun (c, i) => if c = '/' ∧ 1 < i then some (i - 1) else none
  (ends.map path.take) ++ [path]

/-- Makes directories. -/
def mkdir (words : List Text) : Activity Nat :=
  withOptions "mkdir" ⟨['p', 'v'], ['m'], [("parents", 'p'), ("mode", 'm')]⟩ words failed
    fun o => do
    if o.operands = [] then missingOperand "mkdir"
    else forEach o.operands fun path => do
      if o.has 'p' then
        match ← makeAll (ancestors path) with
        | none => return success
        | some (path, e) => cannot "mkdir" "create directory" path e
      else
        match ← call (.make (toPath path) .directory) with
        | .ok _ => return success
        | .error e => cannot "mkdir" "create directory" path e

/-- Makes files that are not there. -/
def touch (words : List Text) : Activity Nat :=
  withOptions "touch" ⟨['a', 'm', 'c'], ['t', 'd', 'r'], [("no-create", 'c')]⟩ words failed
    fun o => do
    if o.operands = [] then refuseWithHelp "touch" "missing file operand" failed
    else forEach o.operands fun path => do
      match ← nodeAt path true with
      | .ok _ => return success
      | .error .notFound =>
        if o.has 'c' then return success
        match ← call (.openFile (toPath path) .append) with
        | .ok descriptor =>
          close descriptor
          return success
        | .error e => refuse "touch" ("cannot touch " ++ quote path ++ ": " ++ e.text) failed
      | .error e => refuse "touch" ("cannot touch " ++ quote path ++ ": " ++ e.text) failed

/-- Makes links, which hold a path or stand for a file. -/
def ln (words : List Text) : Activity Nat :=
  withOptions "ln" ⟨['s', 'f', 'n', 'v', 'T'], [], [("symbolic", 's'), ("force", 'f')]⟩ words failed
    fun o => do
    match o.operands with
    | [] => do
      refuseWithHelp "ln" "missing file operand" failed
    | target :: rest =>
      let place := rest.headD (lastName target)
      let place ← if ← isDirectory place then pure (inside place (lastName target)) else pure place
      if o.has 'f' then
        let _ ← call (.remove (toPath place))
      let node : Except OsError Node ←
        if o.has 's' then pure (.ok (.link (toPath target))) else nodeAt target false
      match node with
      | .error e => refuse "ln" ("failed to access " ++ quote target ++ ": " ++ e.text) failed
      | .ok node =>
        match ← call (.make (toPath place) node) with
        | .ok _ => return success
        | .error e =>
          let kind := if o.has 's' then "symbolic" else "hard"
          refuse "ln" ("failed to create " ++ kind ++ " link " ++ quote place ++ ": " ++ e.text)
            failed

/-! ### Removing -/

/-- Removes empty directories. -/
def rmdir (words : List Text) : Activity Nat :=
  withOptions "rmdir" ⟨['p', 'v'], [], [("parents", 'p')]⟩ words failed fun o => do
    if o.operands = [] then missingOperand "rmdir"
    else forEach o.operands fun path => do
      match ← call (.removeDirectory (toPath path)) with
      | .ok _ => return success
      | .error e => refuse "rmdir" ("failed to remove " ++ quote path ++ ": " ++ e.text) failed

/-- Removes what there is at a path and all that is in it, going down at most so far. -/
def removeTree : Nat → Text → Activity Nat
  | 0, _ => return failed
  | depth + 1, path => do
    match ← nodeAt path false with
    | .error e => cannot "rm" "remove" path e
    | .ok .directory =>
      match ← call (.list (toPath path)) with
      | .error e => cannot "rm" "remove" path e
      | .ok names =>
        let status ← forEach (names.map ofString) fun name => removeTree depth (inside path name)
        match ← call (.removeDirectory (toPath path)) with
        | .ok _ => return status
        | .error e => cannot "rm" "remove" path e
    | .ok _ =>
      match ← call (.remove (toPath path)) with
      | .ok _ => return success
      | .error e => cannot "rm" "remove" path e

/-- Removes files. -/
def rm (words : List Text) : Activity Nat :=
  withOptions "rm" ⟨['r', 'R', 'f', 'v', 'i', 'd'], [], [("recursive", 'r'), ("force", 'f')]⟩ words
    failed fun o => do
    if o.operands = [] then
      if o.has 'f' then return success else missingOperand "rm"
    else forEach o.operands fun path => do
      match ← nodeAt path false with
      | .error e =>
        if o.has 'f' ∧ (e = .notFound ∨ e = .notADirectory) then return success
        else cannot "rm" "remove" path e
      | .ok .directory =>
        if o.has 'r' || o.has 'R' then removeTree 1000 path
        else if o.has 'd' then
          match ← call (.removeDirectory (toPath path)) with
          | .ok _ => return success
          | .error e => cannot "rm" "remove" path e
        else cannot "rm" "remove" path .isADirectory
      | .ok _ => removeTree 1 path

/-! ### Copying and renaming -/

/-- Gives a file another name. -/
def moveFile (path place : Text) : Activity Nat := do
  match ← nodeAt path false with
  | .error e => refuse "mv" ("cannot stat " ++ quote path ++ ": " ++ e.text) failed
  | .ok _ =>
    match ← call (.rename (toPath path) (toPath place)) with
    | .ok _ => return success
    | .error e =>
      refuse "mv" ("cannot move " ++ quote path ++ " to " ++ quote place ++ ": " ++ e.text) failed

/-- Copies the bytes of a file, and whether it can be run. -/
def copyBytes (node : Node) (path place : Text) : Activity Nat := do
  match ← call (.openFile (toPath path) .read) with
  | .error e => refuse "cp" ("cannot open " ++ quote path ++ " for reading: " ++ e.text) failed
  | .ok source =>
    let text ← takeRest source
    close source
    match ← call (.openFile (toPath place) .write) with
    | .error e =>
      refuse "cp" ("cannot create regular file " ++ quote place ++ ": " ++ e.text) failed
    | .ok target =>
      let _ ← write target text
      close target
      match node with
      | .file bytes true =>
        let _ ← call (.setNode (toPath place) (.file bytes true))
        return success
      | _ => return success

/-- Copies what there is at a path, going down at most so far. -/
def copyFile : Nat → Bool → Text → Text → Activity Nat
  | 0, _, _, _ => return failed
  | depth + 1, recursive, path, place => do
    match ← nodeAt path true, recursive with
    | .error e, _ => refuse "cp" ("cannot stat " ++ quote path ++ ": " ++ e.text) failed
    | .ok .directory, false =>
      refuse "cp" ("-r not specified; omitting directory " ++ quote path) failed
    | .ok .directory, true =>
      let _ ← call (.make (toPath place) .directory)
      let names ← call (.list (toPath path))
      forEach ((names.toOption.getD []).map ofString) fun name =>
        copyFile depth recursive (inside path name) (inside place name)
    | .ok node, _ => copyBytes node path place

/-- Does something with each operand and the place that the last one names for it. -/
def toPlaces (utility : String) (operands : List Text) (work : Text → Text → Activity Nat) :
    Activity Nat := do
  match operands with
  | [] => refuseWithHelp utility "missing file operand" failed
  | [path] =>
    refuseWithHelp utility ("missing destination file operand after " ++ quote path) failed
  | operands =>
    let target := operands.getLast?.getD []
    let paths := operands.dropLast
    if ← isDirectory target then
      forEach paths fun path => work path (inside target (lastName path))
    else
      match paths with
      | [path] => work path target
      | _ =>
        let e := match ← nodeAt target true with
          | .ok _ => OsError.notADirectory
          | .error e => e
        refuse utility ("target " ++ quote target ++ ": " ++ e.text) failed

/-- Renames files. -/
def mv (words : List Text) : Activity Nat :=
  withOptions "mv" ⟨['f', 'i', 'n', 'v', 'u', 'T'], [], [("force", 'f')]⟩ words failed fun o =>
    toPlaces "mv" o.operands moveFile

/-- Copies files. -/
def cp (words : List Text) : Activity Nat :=
  withOptions "cp" ⟨['r', 'R', 'a', 'f', 'p', 'v', 'n', 'T', 'L', 'P'], [],
    [("recursive", 'r'), ("archive", 'a'), ("force", 'f')]⟩ words failed fun o =>
    toPlaces "cp" o.operands (copyFile 1000 (['r', 'R', 'a'].any o.has))

/-- Changes whether files can be run. -/
def chmod (words : List Text) : Activity Nat := do
  match words with
  | mode :: (path :: paths) =>
    forEach (path :: paths) fun path => do
      match ← nodeAt path true with
      | .error e => refuse "chmod" ("cannot access " ++ quote path ++ ": " ++ e.text) failed
      | .ok (.file bytes old) =>
        let executable :=
          if mode.all isDigit then mode.any fun c => (c.toNat - 48) % 2 == 1
          else if mode.contains 'x' then !mode.contains '-'
          else old && !mode.contains '='
        let _ ← call (.setNode (toPath path) (.file bytes executable))
        return success
      | .ok _ => return success
  | _ => missingOperand "chmod"

/-- Cuts files to a size, or fills them up to it. -/
def truncate (words : List Text) : Activity Nat :=
  withOptions "truncate" ⟨['c', 'o'], ['s', 'r'], [("size", 's'), ("no-create", 'c')]⟩ words failed
    fun o => do
    let given := (o.value? 's').getD []
    let (sign, digits) := match given with
      | '+' :: digits => ('+', digits)
      | '-' :: digits => ('-', digits)
      | digits => ('=', digits)
    match sized? digits with
    | none =>
      if o.has 's' then refuse "truncate" ("Invalid number: " ++ quote given) failed
      else refuseWithHelp "truncate" "you must specify either '--size' or '--reference'" failed
    | some size =>
      if o.operands = [] then refuseWithHelp "truncate" "missing file operand" failed
      else forEach o.operands fun path => do
        let old ← match ← readInput path with
          | .ok text => pure (some text)
          | .error _ => pure none
        if old.isNone && o.has 'c' then return success
        let text := old.getD []
        let size := match sign with
          | '+' => text.length + size
          | '-' => text.length - size
          | _ => size
        match ← call (.openFile (toPath path) .write) with
        | .error e =>
          refuse "truncate" ("cannot open " ++ quote path ++ " for writing: " ++ e.text) failed
        | .ok descriptor =>
          let _ ← write descriptor
            (text.take size ++ List.replicate (size - text.length) '\x00')
          close descriptor
          return success

/-- The characters that stand for what is to be chosen in a name. -/
def openPart (name : Text) : Nat := (name.reverse.takeWhile (· == 'X')).length

/-- Makes a file or a directory with a name of its own. -/
def mktemp (words : List Text) : Activity Nat :=
  withOptions "mktemp" ⟨['d', 'u', 'q', 't'], ['p'], [("directory", 'd'), ("dry-run", 'u'),
    ("quiet", 'q'), ("tmpdir", 'p')]⟩ words failed fun o => do
    let template := o.operands.headD "tmp.XXXXXXXXXX".toList
    let inTemporary := o.operands = [] || o.has 't' || o.has 'p'
    let directory := (o.value? 'p').getD ((← valueOf "TMPDIR".toList).getD "/tmp".toList)
    let template := if inTemporary then inside directory template else template
    let places := openPart template
    if places < 3 then
      refuse "mktemp" ("too few X's in template " ++ quote (o.operands.headD [])) failed
    else
      let front := template.take (template.length - places)
      let (id, _) ← call .identity
      let rec tryFrom : Nat → Nat → Activity Nat
        | 0, _ => return failed
        | tries + 1, n => do
          let digits := ofNat n
          let digits := digits.drop (digits.length - places)
          let path := front ++ List.replicate (places - digits.length) 'a' ++ digits
          match ← nodeAt path false with
          | .ok _ => tryFrom tries (n + 1)
          | .error _ =>
            if o.has 'u' then return ← print (path ++ ['\n'])
            let node : Node := if o.has 'd' then .directory else .file [] false
            match ← call (.make (toPath path) node) with
            | .ok _ => print (path ++ ['\n'])
            | .error e =>
              let kind := if o.has 'd' then "directory" else "file"
              refuse "mktemp" ("failed to create " ++ kind ++ " via template " ++ quote template ++
                ": " ++ e.text) failed
      tryFrom 1000 id

/-- Removes the one file that its argument names. -/
def unlink (words : List Text) : Activity Nat := do
  match words with
  | [] => missingOperand "unlink"
  | [path] =>
    match ← call (.remove (toPath path)) with
    | .ok _ => return success
    | .error e => refuse "unlink" ("cannot unlink " ++ quote path ++ ": " ++ e.text) failed
  | _ :: extra :: _ => refuseWithHelp "unlink" ("extra operand " ++ quote extra) failed

/-! ### Looking -/

/-- What a letter of a format stands for at a path. -/
def statusField (path : Text) (node : Node) (letter : Char) : Text :=
  match letter, node with
  | 'n', _ => path
  | 's', .file bytes _ => ofNat bytes.length
  | 's', .directory => ofNat 4096
  | 's', .link target => ofNat target.utf8ByteSize
  | 's', _ => ['0']
  | 'F', .directory => ofString "directory"
  | 'F', .file [] _ => ofString "regular empty file"
  | 'F', .file .. | 'F', .program _ => ofString "regular file"
  | 'F', .link _ => ofString "symbolic link"
  | 'F', .device _ => ofString "character special file"
  | 'a', .directory | 'a', .file _ true | 'a', .program _ => ofString "755"
  | 'a', .link _ => ofString "777"
  | 'a', .file .. => ofString "644"
  | 'a', .device _ => ofString "666"
  | 'A', .directory => ofString "drwxr-xr-x"
  | 'A', .file _ true | 'A', .program _ => ofString "-rwxr-xr-x"
  | 'A', .link _ => ofString "lrwxrwxrwx"
  | 'A', .file .. => ofString "-rw-r--r--"
  | 'A', .device _ => ofString "crw-rw-rw-"
  | 'U', _ | 'G', _ => ofString "root"
  | 'u', _ | 'g', _ => ['0']
  | 'h', _ => ['1']
  | '%', _ => ['%']
  | c, _ => ['%', c]

/-- A format with what is known about a path. -/
def statusText (path : Text) (node : Node) : Text → Text
  | [] => []
  | '%' :: c :: rest => statusField path node c ++ statusText path node rest
  | c :: rest => c :: statusText path node rest

/-- Writes what is known about files. -/
def stat (words : List Text) : Activity Nat :=
  withOptions "stat" ⟨['L', 't'], ['c', 'f'], [("dereference", 'L'), ("format", 'c'),
    ("printf", 'f')]⟩ words failed fun o => do
    if o.operands = [] then missingOperand "stat"
    else forEach o.operands fun path => do
      match ← nodeAt path (o.has 'L') with
      | .error e => refuse "stat" ("cannot statx " ++ quote path ++ ": " ++ e.text) failed
      | .ok node =>
        match o.value? 'c', o.value? 'f' with
        | some form, _ => print (statusText path node form ++ ['\n'])
        | none, some form => print (statusText path node (unescape true form).1)
        | none, none => print (statusText path node "  File: %n\n  Size: %s\t%F\n".toList)

/-- What a name is followed by that shows what it stands for. -/
def sign : Node → Text
  | .directory => ['/']
  | .link _ => ['@']
  | .file _ true | .program _ => ['*']
  | _ => []

/-- The names in a directory that are shown. -/
def shownNames (o : Options) (path : Text) : Activity (List Text) := do
  match ← call (.list (toPath path)) with
  | .error _ => return []
  | .ok names =>
    let names := names.map ofString
    let names := if o.has 'a' then [['.'], ['.', '.']] ++ names
      else if o.has 'A' then names
      else names.filter fun name => name.head? != some '.'
    return if o.has 'r' then names.reverse else names

/-- A name as it is listed. -/
def listed (o : Options) (path name : Text) : Activity Text := do
  if o.has 'F' || o.has 'p' then
    match ← nodeAt path false with
    | .ok node => return name ++ (if o.has 'F' || node.isDirectory then sign node else [])
    | .error _ => return name
  else return name

/-- What is at paths, in long lines, each with the name that is shown. -/
def longLines (rows : List (Text × Node × Text)) : List Text :=
  let size (node : Node) : Text := statusField [] node 's'
  let width := (rows.map fun (_, node, _) => (size node).length).foldl max 0
  rows.map fun (_, node, name) =>
    let links := if node.isDirectory then '2' else '1'
    let target := match node with
      | .link target => ofString (" -> " ++ target)
      | _ => []
    statusField [] node 'A' ++ ' ' :: links :: ofString " root root " ++
      List.replicate (width - (size node).length) ' ' ++ size node ++ ' ' ::
      dateText clockStart 0 "%b %e %H:%M ".toList ++ name ++ target

/-- How many blocks there are at some paths. -/
def blocksOf (rows : List (Text × Node × Text)) : Nat :=
  (rows.map fun (_, node, _) => match node with
    | .file bytes _ => (bytes.length + 4095) / 4096 * 4
    | .directory => 4
    | _ => 0).foldl (· + ·) 0

/-- The lines for some paths, each with the name that is shown. -/
def linesFor (o : Options) (isWhole : Bool) (paths : List (Text × Text)) :
    Activity (List Text) := do
  let names ← paths.mapM fun (path, name) => listed o path name
  if o.has 'l' then
    let nodes ← paths.mapM fun (path, _) => return (← nodeAt path false).toOption.getD .directory
    let rows := ((paths.map (·.1)).zip (nodes.zip names))
    let total := ofString "total " ++ ofNat (blocksOf rows)
    return (if isWhole then [total] else []) ++ longLines rows
  else return names

/-- Lists files and what is in directories. -/
def ls (words : List Text) : Activity Nat :=
  withOptions "ls" ⟨"1aAdFprUCxqNhltSLHn".toList, ['!'],
    [("all", 'a'), ("almost-all", 'A'), ("directory", 'd'), ("classify", 'F'), ("reverse", 'r'),
      ("color", '!')]⟩ words misused fun o => do
    let operands := if o.operands = [] then [['.']] else o.operands
    let mut files : List Text := []
    let mut directories : List Text := []
    let mut status := success
    for path in operands.mergeSort inOrder do
      let node ← match ← nodeAt path (!(o.has 'd' || o.has 'l')) with
        | .ok node => pure (.ok node)
        | .error _ => nodeAt path false
      match node with
      | .error e =>
        status := ← refuse "ls" ("cannot access " ++ quote path ++ ": " ++ e.text) misused
      | .ok .directory =>
        if o.has 'd' then files := files ++ [path] else directories := directories ++ [path]
      | .ok _ => files := files ++ [path]
    let shown ← linesFor o false (files.map fun path => (path, path))
    let mut text := ofLines shown
    let titled := 1 < operands.length
    for path in directories do
      let names ← shownNames o path
      let lines ← linesFor o true (names.map fun name => (inside path name, name))
      let gap := if text = [] then [] else ['\n']
      text := text ++ (if titled then gap ++ path ++ [':', '\n'] else []) ++ ofLines lines
    printing "ls" text status

/-- Writes what links hold, or where paths lead. -/
def readlink (words : List Text) : Activity Nat :=
  withOptions "readlink" ⟨['f', 'e', 'm', 'n', 'z', 'q', 's', 'v'], [],
    [("canonicalize", 'f'), ("no-newline", 'n')]⟩ words failed fun o => do
    if o.operands = [] then missingOperand "readlink"
    else forEach o.operands fun path => do
      let line := if o.has 'n' then [] else ['\n']
      if ['f', 'e', 'm'].any o.has then
        match ← call (.canonicalize (toPath path)) with
        | .ok found => print (ofString found ++ line)
        | .error _ =>
          match ← call (.canonicalize (toPath (directoryOf path))) with
          | .ok found =>
            if o.has 'e' then return failed
            print (inside (ofString found) (lastName path) ++ line)
          | .error _ => return failed
      else
        match ← nodeAt path false with
        | .ok (.link target) => print (ofString target ++ line)
        | _ => return failed

/-- Writes where paths lead. -/
def realpath (words : List Text) : Activity Nat :=
  withOptions "realpath" ⟨['e', 'm', 'q', 's', 'z'], [], []⟩ words failed fun o => do
    if o.operands = [] then missingOperand "realpath"
    else forEach o.operands fun path => do
      match ← call (.canonicalize (toPath path)) with
      | .ok found => print (ofString found ++ ['\n'])
      | .error e =>
        match ← call (.canonicalize (toPath (directoryOf path))) with
        | .ok found =>
          if o.has 'e' ∨ e ≠ .notFound then refuseFile "realpath" path e
          else print (inside (ofString found) (lastName path) ++ ['\n'])
        | .error _ =>
          if o.has 'm' then
            let here ← Builtin.physicalDirectory
            print (Builtin.lexicalPath here path ++ ['\n'])
          else refuseFile "realpath" path e

end LspSession.Utility
