import LspSession.Handshake.Program

/-!
# `LspSession.Main`: the command line

Reads the arguments and the environment, runs the handshake program on a computer in memory, and
prints what it leaves behind: the server's errors, the log and the program's own last line. A log
file is written where the arguments or the environment name one.
-/

set_option autoImplicit false

open LspSession

/-- The variables of the environment that matter: those that `Log.Config.ofVariables` looks at. -/
def readEnvironment : IO (List (String × String)) := do
  let names := ["RUST_LOG", "LSP_LOG_FILE", "LSP_LOG_UNIQUE", "LSP_LOG_JSON"]
  let found ← names.filterMapM fun name => do
    return (← IO.getEnv name).map fun value => (name, value)
  return found

/-- Prints lines to the standard error, or appends them to a file of the real computer. -/
def printLog (file : Option Place) (lines : List String) : IO Unit := do
  match file with
  | none => lines.forM IO.eprintln
  | some place =>
    IO.FS.withFile (Place.absolute place) .append fun handle => lines.forM handle.putStrLn

/-- Runs the handshake program and gives its exit code. All that it does is computed by
`Handshake.run`, and printed here. -/
def main (args : List String) : IO UInt32 := do
  match CommandLine.read args with
  | .error e =>
    IO.print e.output
    return UInt32.ofNat e.exitCode
  | .ok arguments =>
    let outcome := Handshake.run ⟨Computer.usual 101, [], ← readEnvironment, 100⟩ arguments
    (← IO.getStderr).write ⟨outcome.serverErrors.toArray⟩
    printLog outcome.logFile outcome.logLines
    outcome.lastLine?.forM IO.eprintln
    return UInt32.ofNat outcome.exitCode
