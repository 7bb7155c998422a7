/-!
# `LspSession.Lifecycle`: where a session stands

A session starts `uninitialized`, asks the server to initialize, works in `normal`, asks it to
shut down, and ends in `exited`, which nothing leaves. A failed initialization leads back to the
start and a failed shutdown back to `normal`.
-/

set_option autoImplicit false

namespace LspSession

/-- Where a session stands. Commands and responses of the server move it; which command is allowed
where is said by `Lifecycle.require`. -/
inductive Lifecycle where
  /-- No initialization is under way. -/
  | uninitialized
  /-- The server has been asked to initialize. -/
  | awaitingInitializeAck
  /-- Regular traffic may flow. -/
  | normal
  /-- The server has been asked to shut down. -/
  | awaitingShutdownAck
  /-- The server has agreed to shut down; only the exit remains. -/
  | shutdown
  /-- The exit has been sent. -/
  | exited
  deriving DecidableEq, Repr, Inhabited

namespace Lifecycle

/-- Every place, in the order in which a session passes them if no request of it fails. -/
def all : List Lifecycle :=
  [.uninitialized, .awaitingInitializeAck, .normal, .awaitingShutdownAck, .shutdown, .exited]

/-- The name shown for a place, in kebab case. The sentence of a `StateError` holds it. -/
def name : Lifecycle → String
  | .uninitialized => "uninitialized"
  | .awaitingInitializeAck => "awaiting-initialize-ack"
  | .normal => "normal"
  | .awaitingShutdownAck => "awaiting-shutdown-ack"
  | .shutdown => "shutdown"
  | .exited => "exited"

/-- The place with a `Lifecycle.name`, which has to be the whole of it. -/
def ofName? (name : String) : Option Lifecycle := all.find? fun s => s.name == name

/-- Where a session starts: `uninitialized`, as nothing has been asked of the server yet. -/
def start : Lifecycle := .uninitialized

/-- Whether nothing leaves the place. This is so of `exited` alone. -/
def isTerminal (s : Lifecycle) : Bool := s == .exited

/-- A place is found by its name, so `Lifecycle.name` tells the places apart. -/
theorem ofName?_name (s : Lifecycle) : ofName? s.name = some s := by
  cases s <;> decide

end Lifecycle

end LspSession
