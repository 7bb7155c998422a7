import LspSession.Host.Shell.Expansion

/-!
# `LspSession.Host.Shell.Redirect`: what descriptors refer to

A redirection lets a descriptor refer to a file, to a text that stands in the script, to what
another descriptor refers to, or to nothing. First all words are expanded, then the redirections are
carried out in order, and the first that is not possible ends the row. What the descriptors referred
to before is kept out of the way, so that it can be put back.
-/

set_option autoImplicit false

namespace LspSession.Shell

open Activity

/-- What a descriptor is to refer to. -/
inductive Destination where
  | file (path : Text) (kind : Redirection)
  | text (text : Text)
  /-- What another descriptor refers to. -/
  | descriptor (other : Nat)
  | nothing
  deriving DecidableEq, Repr

/-- What a descriptor referred to before: a descriptor that keeps it, or nothing. -/
abbrev Kept := Nat × Option Nat

namespace Redirect

variable (substitute : Command → Activity Text)

/-- Expands the word of a redirection. -/
def destination (r : Redirect) : Activity Destination := do
  match r.kind with
  | .document =>
    let word := ((← scope).documents.lookup r.document).getD []
    return .text (Piece.text (← Expansion.pieces substitute word))
  | .duplicate =>
    let text ← Expansion.text substitute r.target
    match text with
    | ['-'] => return .nothing
    | [c] =>
      if isDigit c then return .descriptor (c.toNat - '0'.toNat)
      else fail (ofString "Syntax error: Bad fd number")
    | _ => fail (ofString "Syntax error: Bad fd number")
  | kind => return .file (← Expansion.text substitute r.target) kind

/-- Expands the words of redirections. -/
def destinations (redirects : List Redirect) : Activity (List (Nat × Destination)) :=
  redirects.mapM fun r => do return (r.descriptor, ← destination substitute r)

/-- Why a file cannot be opened, or made. -/
def reason (makes : Bool) (e : OsError) : Text :=
  match e with
  | .notFound | .notADirectory =>
    ofString (if makes then "Directory nonexistent" else "No such file")
  | e => ofString e.text

/-- Opens a file, and gives its descriptor. -/
def openPath (path : Text) (kind : Redirection) : Activity Nat := do
  let (makes, mode) : Bool × OpenMode := match kind with
    | .output | .overwrite => (true, .write)
    | .append => (true, .append)
    | .update => (true, .update)
    | _ => (false, .read)
  if kind = .output then
    if ← hasOption 'C' then
      match ← call (.status (toPath path) true) with
      | .ok ⟨.file .., _, _⟩ =>
        fail (ofString "cannot create " ++ path ++ ofString ": File exists")
      | _ => pure ()
  match ← call (.openFile (toPath path) mode) with
  | .ok descriptor => return descriptor
  | .error e =>
    fail (ofString (if makes then "cannot create " else "cannot open ") ++ path ++ ofString ": " ++
      reason makes e)

/-- Keeps what a descriptor refers to out of the way. -/
def keep (descriptor : Nat) : Activity Kept := do
  match ← call (.keep descriptor) with
  | .ok kept => return (descriptor, some kept)
  | .error _ => return (descriptor, none)

/-- Carries out a redirection. What there was before is kept if that is asked for. -/
def apply (keeps : Bool) (descriptor : Nat) (destination : Destination) : Activity (List Kept) := do
  let kept : Activity (List Kept) := do
    if keeps then return [← keep descriptor] else return []
  let opened (new : Nat) : Activity (List Kept) := do
    if new = descriptor then return if keeps then [(descriptor, none)] else []
    let kept ← kept
    move new descriptor
    return kept
  match destination with
  | .file path kind => opened (← openPath path kind)
  | .text text =>
    let new : Nat ← call (.openText (toBytes text))
    opened new
  | .nothing =>
    let kept ← kept
    close descriptor
    return kept
  | .descriptor other =>
    match ← call (.statusOf other) with
    | .error e => fail (ofNat other ++ ofString (": " ++ e.text))
    | .ok _ =>
      if other = descriptor then return []
      let kept ← kept
      let _ ← call (.duplicate other descriptor)
      return kept

/-- Carries out redirections. The answer says what was kept, last first, and whether all of them
were possible. -/
def applyAll (keeps : Bool) : List Kept → List (Nat × Destination) →
    Activity (List Kept × Option Stop)
  | kept, [] => return (kept, none)
  | kept, (descriptor, destination) :: rest => do
    let result ← tryCatch (do return (← apply keeps descriptor destination, none)) fun stop =>
      return ([], some stop)
    match result with
    | (more, none) => applyAll keeps (more ++ kept) rest
    | (_, some stop) => return (kept, some stop)

/-- Puts back what was kept. -/
def putBack : List Kept → Activity Unit
  | [] => return ()
  | (descriptor, some kept) :: rest => do
    let _ ← call (.duplicate kept descriptor)
    close kept
    putBack rest
  | (descriptor, none) :: rest => do
    close descriptor
    putBack rest

/-- Does something with redirections, which end with it. What comes of it is decided otherwise if
they are not possible. -/
def during (destinations : List (Nat × Destination)) (otherwise : Stop → Activity Nat)
    (activity : Activity Nat) : Activity Nat := do
  let (kept, fault) ← applyAll true [] destinations
  match fault with
  | some stop =>
    putBack kept
    otherwise stop
  | none => if kept = [] then activity else andThen activity (putBack kept)

end Redirect

end LspSession.Shell
