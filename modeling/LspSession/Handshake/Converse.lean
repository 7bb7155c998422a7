import LspSession.Handshake.Error

/-!
# `LspSession.Handshake.Converse`: one session from its start to its end

A handshake is a whole session without anything in its middle. The server is asked to initialize and
then to shut down, and each time the pump runs until the reply has come. Then the server is told to
exit, and that is written out. Every step that takes time has the same limit and is timed in the
log. A server that refuses what it is asked ends the handshake.
-/

set_option autoImplicit false

namespace LspSession

namespace Handshake

open Log

variable {σ : Type} [Transport σ]

/-- The record of how long an operation took, by `Record.timing`. Of the time itself only the name
of its field is kept. -/
def timingRecord (operation : String) : Record :=
  .timing .program operation

/-- The record of a refusal (`HandshakeError.refused`), with what the server has to say about it. -/
def refusalRecord (operation : String) (failure : Failure) : Record :=
  .plain .error .program ("Server rejected " ++ operation ++ ": " ++ failure.display)

/-- Whether an event is the server's reply to the request to initialize, `initialized` or
`initializeFailed`. -/
def isInitializeReply : Event → Bool
  | .initialized _ | .initializeFailed _ => true
  | _ => false

/-- Whether an event is the server's reply to the request to shut down, `shutdownAcked` or
`shutdownFailed`. -/
def isShutdownReply : Event → Bool
  | .shutdownAcked | .shutdownFailed _ => true
  | _ => false

/-- Starts a wait of at most so many nanoseconds (`Transport.within`). All reads until the next such
start count towards it. -/
def within (limit : Nat) (p : Pump σ) : Pump σ :=
  { p with transport := Transport.within limit p.transport }

/-- Runs `Pump.waitFor` until an event is accepted, and logs how long that took. Other events on the
way are replied to by the pump and passed over. -/
def waitUntil (operation : String) (limit : Nat) (accept : Event → Bool) (p : Pump σ) :
    Pump σ × Except HandshakeError Event :=
  let (p, _, result) := (within limit p).waitFor accept
  match bounded operation limit result with
  | .error e => (p, .error e)
  | .ok event => (p.log [timingRecord operation], .ok event)

/-- Asks the server to initialize and waits for what `isInitializeReply` accepts. A refusal is
logged and ends the handshake. -/
def initializeServer (options : InitializeOptions) (limit : Nat) (p : Pump σ) :
    Pump σ × Except HandshakeError Unit :=
  match p.command (p.client.sendInitializeRecords options) fun c => c.sendInitialize options with
  | (p, .error e) => (p, .error (.command e))
  | (p, .ok _) =>
    match waitUntil "initialize" limit isInitializeReply p with
    | (p, .error e) => (p, .error e)
    | (p, .ok (.initialized capabilities)) =>
      (p.log [.plain .info .program
        ("Server initialized with capabilities: " ++ capabilities.render)], .ok ())
    | (p, .ok (.initializeFailed failure)) =>
      (p.log [refusalRecord "initialize" failure], .error (.refused "initialize" failure))
    -- No other event is accepted, so this case does not arise.
    | (p, .ok _) => (p, .ok ())

/-- Asks the server to shut down and waits for what `isShutdownReply` accepts. A refusal is logged
and ends the handshake. -/
def shutDownServer (limit : Nat) (p : Pump σ) : Pump σ × Except HandshakeError Unit :=
  match p.command p.client.sendShutdownRecords fun c => c.sendShutdown with
  | (p, .error e) => (p, .error (.command e))
  | (p, .ok _) =>
    match waitUntil "shutdown" limit isShutdownReply p with
    | (p, .error e) => (p, .error e)
    | (p, .ok (.shutdownFailed failure)) =>
      (p.log [refusalRecord "shutdown" failure], .error (.refused "shutdown" failure))
    -- Of the two events that are accepted this is the success.
    | (p, .ok _) => (p, .ok ())

/-- Tells the server to exit and writes that out by `Pump.flush`. Nothing is awaited, since an exit
has no reply. -/
def dismissServer (limit : Nat) (p : Pump σ) : Pump σ × Except HandshakeError Unit :=
  match p.command p.client.sendExitRecords fun c => c.sendExit with
  | (p, .error e) => (p, .error (.command e))
  | (p, .ok ()) =>
    match (within limit p).flush with
    | (p, .error e) => (p, .error (.pump e))
    | (p, .ok ()) => (p.log [timingRecord "exit"], .ok ())

/-- Runs a session from its start to its end: `initializeServer`, `shutDownServer`, `dismissServer`.
The first that fails ends it. -/
def converse (options : InitializeOptions) (limit : Nat) (p : Pump σ) :
    Pump σ × Except HandshakeError Unit :=
  match initializeServer options limit p with
  | (p, .error e) => (p, .error e)
  | (p, .ok ()) =>
    match shutDownServer limit p with
    | (p, .error e) => (p, .error e)
    | (p, .ok ()) => dismissServer limit p

end Handshake

end LspSession
