import LspSession.Event.Method
import LspSession.Frame.Basic
import LspSession.Lifecycle
import LspSession.Message.Basic

/-!
# `LspSession.Error`: what can go wrong in a session

A `ProtocolError` is a fault in what the server sent: bytes that are no frames, a document that is
no message or no message that is understood, or a response nobody asked for. A `StateError` is a
command that the session does not allow at the time. A `SessionError` is either.
-/

set_option autoImplicit false

namespace LspSession

/-- Why a document is not a message that a session accepts. The faults up to
`neitherResultNorFailure` are of any message, those up to `badSeverity` of a call of a known method,
and the last two of the answer to the initialization. -/
inductive Malformed where
  | notObject (found : Json)
  | idNotInteger (found : Number)
  | idOfWrongKind (found : Json)
  | methodNotText (found : Json)
  | neitherIdNorMethod
  | badFailure (id : RequestId) (error : ConversionError)
  | resultAndFailure (id : RequestId)
  | neitherResultNorFailure (id : RequestId)
  | requestWithoutId (method : ServerMethod)
  | missingParams (method : ServerMethod)
  | badParams (method : ServerMethod) (error : ConversionError)
  | badSeverity (method : ServerMethod) (code : Int64)
  | resultNotObject (found : Json)
  | noCapabilities
  deriving DecidableEq

/-- The sentence that names the fault of a document, as `ProtocolError.message` shows it, with what
was found in place of what was expected. -/
def Malformed.message : Malformed → String
  | .notObject found => "message is not a JSON object: " ++ found.render
  | .idNotInteger found => "request id must be an integer, got " ++ found.render
  | .idOfWrongKind found => "request id must be an integer or string, got " ++ found.render
  | .methodNotText found => "method must be a string, got " ++ found.render
  | .neitherIdNorMethod => "message has neither id nor method"
  | .badFailure id error =>
    "response " ++ id.display ++ " has invalid error: " ++ error.message
  | .resultAndFailure id => "response " ++ id.display ++ " has both result and error"
  | .neitherResultNorFailure id => "response " ++ id.display ++ " has neither result nor error"
  | .requestWithoutId method => method.name ++ " sent as a notification (no id)"
  | .missingParams method => method.name ++ " is missing params"
  | .badParams method error => method.name ++ " has invalid params: " ++ error.message
  | .badSeverity method code =>
    method.name ++ " has invalid message type " ++ Decimal.renderInt code.toInt
  | .resultNotObject found => "initialize result must be an object, got " ++ found.render
  | .noCapabilities => "initialize result has no capabilities"

/-- A fault in what the server sent, reported by the feed that came upon it. That feed gives no
events, not even those of documents in front of the fault. -/
inductive ProtocolError where
  | frame (error : FrameError)
  | malformed (fault : Malformed)
  | unexpectedResponse (id : RequestId)
  deriving DecidableEq

namespace ProtocolError

/-- Whether the fault is one of form: what was sent cannot be read, whatever the session awaits. An
`unexpectedResponse` can be read but answers no request. -/
def isMalformed : ProtocolError → Bool
  | .frame _ | .malformed _ => true
  | .unexpectedResponse _ => false

/-- The sentence that names an error. A fault of form has what was malformed in front. -/
def message : ProtocolError → String
  | .frame e => "Malformed LSP frame: " ++ e.message
  | .malformed fault => "Malformed message: " ++ fault.message
  | .unexpectedResponse id => "Unexpected response: no pending request with id " ++ id.display

end ProtocolError

/-- A command that a session does not allow, given by the caller. It changes nothing: no byte is
queued in `outgoing` and `nextId` stays. -/
inductive StateError where
  /-- The session stands elsewhere than the operation needs. -/
  | wrongState (operation : String) (current expected : Lifecycle)
  /-- The session is over. -/
  | exited (operation : String)
  /-- The server awaits no reply to a request of this id. -/
  | unknownRequest (id : RequestId)
  deriving DecidableEq

/-- The sentence that names an error, with the operation as the caller knows it. -/
def StateError.message : StateError → String
  | .wrongState operation current expected =>
    "Cannot " ++ operation ++ " in state " ++ current.name ++ " (expected " ++ expected.name ++ ")"
  | .exited operation => "Cannot " ++ operation ++ ": session has exited"
  | .unknownRequest id => "No server request with id " ++ id.display ++ " is awaiting a reply"

/-- Checks that a session stands where an operation needs it. The error `.wrongState` names the
operation and both places. -/
def Lifecycle.require (current : Lifecycle) (operation : String) (expected : Lifecycle) :
    Except StateError Unit :=
  if current = expected then .ok () else .error (.wrongState operation current expected)

/-- Either kind of error of a session, for callers that do not tell apart whose fault it is. -/
inductive SessionError where
  | protocol (error : ProtocolError)
  | state (error : StateError)
  deriving DecidableEq

/-- The sentence that names an error, by `ProtocolError.message` or `StateError.message`. -/
def SessionError.message : SessionError → String
  | .protocol e => e.message
  | .state e => e.message

/-- `Lifecycle.require` passes exactly if the session stands where it should. -/
theorem Lifecycle.require_eq_ok_iff (current expected : Lifecycle) (operation : String) :
    current.require operation expected = .ok () ↔ current = expected := by
  unfold Lifecycle.require
  split <;> simp_all

end LspSession
