import LspSession.Text.Decimal
import LspSession.Text.Quoted

/-!
# `LspSession.IoError`: what can go wrong outside the program

The operating system refuses what it is asked with an error that has a number, a kind and a text. A
text with a null character in it is refused before the operating system sees it, because there such
a character ends a text. `IoError` adds the errors of streams that are not the operating system's.
-/

set_option autoImplicit false

namespace LspSession

/-- Why something is refused. Most of them are errors of the operating system, and the last two are
found before it is asked. -/
inductive OsError where
  | notFound
  | noProcess
  | argumentsTooLong
  | notExecutable
  | badDescriptor
  | permissionDenied
  | exists_
  | notADirectory
  | isADirectory
  | invalid
  | noDevice
  | noSpace
  | notSeekable
  | readOnly
  | brokenPipe
  | nameTooLong
  | notEmpty
  | linkLoop
  /-- A path with a null character. -/
  | nullInPath
  /-- A word of a command with a null character. -/
  | nullInCommand
  deriving DecidableEq, Repr

namespace OsError

/-- The number of an error, if the operating system knows it. -/
def code? : OsError → Option Nat
  | .notFound => some 2
  | .noProcess => some 3
  | .noDevice => some 6
  | .argumentsTooLong => some 7
  | .notExecutable => some 8
  | .badDescriptor => some 9
  | .permissionDenied => some 13
  | .exists_ => some 17
  | .notADirectory => some 20
  | .isADirectory => some 21
  | .invalid => some 22
  | .noSpace => some 28
  | .notSeekable => some 29
  | .readOnly => some 30
  | .brokenPipe => some 32
  | .nameTooLong => some 36
  | .notEmpty => some 39
  | .linkLoop => some 40
  | .nullInPath | .nullInCommand => none

/-- The kind of an error, under the name that errors from every operating system share. -/
def kind : OsError → String
  | .notFound => "NotFound"
  | .argumentsTooLong => "ArgumentListTooLong"
  | .noProcess | .notExecutable | .badDescriptor | .noDevice => "Uncategorized"
  | .permissionDenied => "PermissionDenied"
  | .exists_ => "AlreadyExists"
  | .notADirectory => "NotADirectory"
  | .isADirectory => "IsADirectory"
  | .invalid | .nullInPath | .nullInCommand => "InvalidInput"
  | .noSpace => "StorageFull"
  | .notSeekable => "NotSeekable"
  | .readOnly => "ReadOnlyFilesystem"
  | .brokenPipe => "BrokenPipe"
  | .nameTooLong => "InvalidFilename"
  | .notEmpty => "DirectoryNotEmpty"
  | .linkLoop => "FilesystemLoop"

/-- What an error has to say, in the words of the operating system. -/
def text : OsError → String
  | .notFound => "No such file or directory"
  | .noProcess => "No such process"
  | .noDevice => "No such device or address"
  | .argumentsTooLong => "Argument list too long"
  | .notExecutable => "Exec format error"
  | .badDescriptor => "Bad file descriptor"
  | .permissionDenied => "Permission denied"
  | .exists_ => "File exists"
  | .notADirectory => "Not a directory"
  | .isADirectory => "Is a directory"
  | .invalid => "Invalid argument"
  | .noSpace => "No space left on device"
  | .notSeekable => "Illegal seek"
  | .readOnly => "Read-only file system"
  | .brokenPipe => "Broken pipe"
  | .nameTooLong => "File name too long"
  | .notEmpty => "Directory not empty"
  | .linkLoop => "Too many levels of symbolic links"
  | .nullInPath => "file name contained an unexpected NUL byte"
  | .nullInCommand => "nul byte found in provided data"

/-- The sentence that names an error, with its number where it has one. -/
def message (e : OsError) : String :=
  match e.code? with
  | some code => e.text ++ " (os error " ++ Decimal.render code ++ ")"
  | none => e.text

/-- An error with all its parts, as a program shows it for inspection. -/
def outline (e : OsError) : String :=
  match e.code? with
  | some code =>
    "Os \x7b code: " ++ Decimal.render code ++ ", kind: " ++ e.kind ++ ", message: \"" ++
      e.text ++ "\" \x7d"
  | none => "Error \x7b kind: " ++ e.kind ++ ", message: \"" ++ e.text ++ "\" \x7d"

end OsError

/-- Why reading from a stream or writing to it fails. -/
inductive IoError where
  /-- The stream itself says why. -/
  | custom (text : String)
  | os (error : OsError)
  deriving DecidableEq, Repr

namespace IoError

/-- The sentence that names an error. -/
def message : IoError → String
  | .custom text => text
  | .os e => e.message

/-- An error with all its parts. -/
def outline : IoError → String
  | .custom text => "Custom \x7b kind: Other, error: " ++ Text.quote text ++ " \x7d"
  | .os e => e.outline

end IoError

end LspSession
