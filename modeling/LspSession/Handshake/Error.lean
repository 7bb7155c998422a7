import LspSession.Pump.Basic
import LspSession.Text.Duration

/-!
# `LspSession.Handshake.Error`: why a handshake fails

A handshake fails because the program cannot start its work, because the pump stops, because the
server takes too long or because it refuses. A failed handshake ends with one line that shows the
error with all its parts, which `outline` writes. `bounded` gives something that may have to wait a
limited time: what is ready counts even if the limit is nothing.
-/

set_option autoImplicit false

namespace LspSession

/-- The name of a place in the lifecycle as an error shows it, which is not `Lifecycle.name`. -/
def Lifecycle.outline : Lifecycle → String
  | .uninitialized => "Uninitialized"
  | .awaitingInitializeAck => "AwaitingInitializeAck"
  | .normal => "Normal"
  | .awaitingShutdownAck => "AwaitingShutdownAck"
  | .shutdown => "Shutdown"
  | .exited => "Exited"

/-- An id as an error shows it, with its kind in front, where `RequestId.display` shows the value
alone. -/
def RequestId.outline : RequestId → String
  | .integer i => "Integer(" ++ Decimal.renderInt i.toInt ++ ")"
  | .string s => "String(" ++ Text.quote s ++ ")"

/-- A name with named parts between braces, as debug output shows a record. -/
def outlineRecord (name : String) (parts : List (String × String)) : String :=
  name ++ " \x7b " ++ ", ".intercalate (parts.map fun (k, v) => k ++ ": " ++ v) ++ " \x7d"

/-- A frame error with all its parts. A body that is no document is described by its reader
(`Json.Fault.outline`). -/
def FrameError.outline : FrameError → String
  | .incomplete expected actual =>
    let wanted := match expected with
      | some n => "Some(" ++ Decimal.render n ++ ")"
      | none => "None"
    outlineRecord "Incomplete" [("expected", wanted), ("actual", Decimal.render actual)]
  | .headerNotText fault =>
    "InvalidHeader(" ++ Text.quote ("header is not valid UTF-8: " ++ fault.message) ++ ")"
  | .lineWithoutColon line => "InvalidHeader(" ++ Text.quote line ++ ")"
  | .missingLength => "MissingContentLength"
  | .badLength value => "InvalidContentLength(" ++ Text.quote value ++ ")"
  | .tooLarge size limit =>
    outlineRecord "MessageTooLarge" [("size", Decimal.render size), ("max", Decimal.render limit)]
  | .badDocument fault => "InvalidJson(" ++ fault.outline ++ ")"

/-- A fault of the server with all its parts. A message that is malformed is shown by its
`Malformed.message`. -/
def ProtocolError.outline : ProtocolError → String
  | .frame e => "Framing(" ++ e.outline ++ ")"
  | .malformed fault => "Malformed(" ++ Text.quote fault.message ++ ")"
  | .unexpectedResponse id => outlineRecord "UnexpectedResponse" [("id", id.outline)]

/-- A refused command with all its parts, the `operation` as it was called. -/
def StateError.outline : StateError → String
  | .wrongState operation current expected =>
    outlineRecord "InvalidState" [("operation", Text.quote operation),
      ("current", current.outline), ("expected", expected.outline)]
  | .exited operation => outlineRecord "Exited" [("operation", Text.quote operation)]
  | .unknownRequest id => outlineRecord "UnknownServerRequest" [("id", id.outline)]

/-- An error of the session with all its parts, and whose fault it is in front. -/
def SessionError.outline : SessionError → String
  | .protocol e => "Protocol(" ++ e.outline ++ ")"
  | .state e => "State(" ++ e.outline ++ ")"

/-- An error of the pump with all its parts, those of an `IoError` or of a `SessionError`. -/
def PumpError.outline : PumpError → String
  | .io e => "Io(" ++ e.outline ++ ")"
  | .session e => "Lsp(" ++ e.outline ++ ")"
  | .eof => "Eof"

/-- Why a handshake fails. The first two happen before anything is said to a server. -/
inductive HandshakeError where
  /-- The workspace root cannot be found. -/
  | root (error : OsError)
  /-- The server cannot be started. -/
  | start (command : String) (error : OsError)
  /-- The session does not allow a command. -/
  | command (error : StateError)
  | pump (error : PumpError)
  /-- Waiting took longer than the limit, in nanoseconds. -/
  | timedOut (limit : Nat) (operation : String)
  /-- The server refused what it was asked. -/
  | refused (operation : String) (failure : Failure)
  deriving DecidableEq

namespace HandshakeError

/-- The sentence that names an error, with what was being done where that is known. -/
def message : HandshakeError → String
  | .root e => e.message
  | .start name e => "Failed to start process '" ++ name ++ "': " ++ e.message
  | .command e => e.message
  | .pump e => e.message
  | .timedOut limit operation =>
    "Timed out after " ++ Duration.render limit ++ " waiting for " ++ operation
  | .refused operation failure => operation ++ " failed: " ++ failure.display

/-- The error with all its parts. An error that is only a sentence (`message`) stands between
quotes. -/
def outline : HandshakeError → String
  | .root e => e.outline
  | .start name e =>
    outlineRecord "StartFailed" [("command", Text.quote name), ("source", e.outline)]
  | .command e => e.outline
  | .pump e => e.outline
  | e => Text.quote e.message

end HandshakeError

/-- Waits for something up to a limit in nanoseconds. What is `ready` counts, and what is `pending`
has used the limit up. -/
def bounded {α : Type} (operation : String) (limit : Nat) (result : Polled α) :
    Except HandshakeError α :=
  match result with
  | .ready result => result.mapError .pump
  | .pending => .error (.timedOut limit operation)

end LspSession
