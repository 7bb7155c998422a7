import LspSession.Path
import LspSession.Text.Decimal

/-!
# `LspSession.Log.Config`: where and how to log

The environment and the command line say at which level to log, into which file, and in which
format. The name of the file can be made unique to a process, so that programs which run at the
same time keep separate logs: the process id goes between the stem of the name and its extension.
-/

set_option autoImplicit false

namespace LspSession.Log

/-- Where and how to log. The environment gives it, and the command line may change its level and
its file. -/
structure Config where
  /-- The filter that picks records. -/
  level : String
  /-- The file to write to, if not the standard error. -/
  filePath : Option String
  /-- Whether records are written as documents. -/
  jsonFormat : Bool
  deriving DecidableEq, Repr

/-- A path whose file name also holds a process id, between the stem and the extension. A path
without a file name stays as it is. -/
def uniquePathChars (path : List Char) (pid : Nat) : List Char :=
  match Path.fileName? path with
  | none => path
  | some name =>
    let ext := Path.extension name
    let ending := if ext = [] then [] else '.' :: ext
    let unique := Path.stem name ++ '.' :: Decimal.digits pid ++ ending
    Path.child (Path.parent path) unique

/-- A path whose file name also holds a process id, as text. It is `uniquePathChars` on the
characters of the path. -/
def uniquePath (path : String) (pid : Nat) : String :=
  String.ofList (uniquePathChars path.toList pid)

namespace Config

/-- How to log where nothing else is said: what is not a detail, to the standard error, for people.
-/
def default : Config := ⟨"info", none, false⟩

/-- What the variables of an environment say, for the process of the given id. Only the word `true`
switches anything on. -/
def ofVariables (lookup : String → Option String) (pid : Nat) : Config :=
  let unique := lookup "LSP_LOG_UNIQUE" == some "true"
  { level := (lookup "RUST_LOG").getD "info"
    filePath := (lookup "LSP_LOG_FILE").map fun path =>
      if unique then uniquePath path pid else path
    jsonFormat := lookup "LSP_LOG_JSON" == some "true" }

/-- What a command line says wins. The format is left to the environment. -/
def withOverrides (c : Config) (level filePath : Option String) : Config :=
  { c with level := level.getD c.level, filePath := filePath.or c.filePath }

end Config

end LspSession.Log
