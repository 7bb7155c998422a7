import LspSession.Client.Command
import LspSession.Client.Receive
import LspSession.Log.Record

/-!
# `LspSession.Client.Journal`: what a session logs

A session writes log records while it works. They do not belong to its state: the records of an
operation are a function of the client before it and of the operation's arguments, and these
functions are here. Every message that comes in or goes out is logged once, and every move from one
place of the lifecycle to another; warnings tell why received bytes were thrown away or a request
of the client failed.
-/

set_option autoImplicit false

namespace LspSession

open Log

/-! ### Frames -/

/-- The record of a frame that `Frame.encode` wrote. It tells the length of the body alone, without
the header. -/
def Frame.encodeRecord (document : Json) : Record :=
  .plain .trace .framing ("LspFraming: Encoded frame (" ++
    Decimal.render (Utf8.encode document.render).length ++ " bytes content)")

/-- The record of a frame that stops short, if the error is `incomplete`. Inside a body it tells how
many bytes are missing, and inside a header how many there are. -/
def FrameError.shortRecords : FrameError → List Record
  | .incomplete none actual =>
    [.plain .trace .framing ("LspFraming: Incomplete header (" ++ Decimal.render actual ++
      " bytes buffered)")]
  | .incomplete (some expected) actual =>
    [.plain .trace .framing ("LspFraming: Incomplete message - need " ++
      Decimal.render (expected - actual) ++ " more bytes")]
  | _ => []

/-- The records of reading frames: one for each frame that is read, and one for a frame that stops
short behind them. It reads as `decode` does, frame after frame. -/
def Frame.decodeRecords (limit : Nat) (buffer : Bytes) : List Record :=
  if buffer = [] then []
  else
    match _h : split limit buffer with
    | .error e => e.shortRecords
    | .ok s =>
      match Json.ofBytes s.body with
      -- A body at fault makes no message, and the session reports the error.
      | .error _ => []
      | .ok _ =>
        .plain .trace .framing ("LspFraming: Parsed complete message (" ++
          Decimal.render s.body.length ++ " bytes)") :: decodeRecords limit s.rest
termination_by buffer.length
decreasing_by exact length_rest_lt _h

namespace Client

/-! ### Messages of the server -/

/-- The record of a message that came in or goes out. Its fields hold the message, and filters see
their names alone. -/
def messageRecord : Record :=
  { Record.plain .debug .session "LSP message" with fields := ["direction", "method", "data"] }

/-- The record of a move from one place of the lifecycle to another, by the `Lifecycle.name` of
both. -/
def transitionRecord (before after : Lifecycle) : Record :=
  .plain .debug .session ("LspClient: State transition " ++ before.name ++ " -> " ++ after.name)

/-- The records of finding out what a message means by `understand`. A response is logged only if a
request awaits it, and a good response to the request to initialize makes the client write a frame.
-/
def understandRecords (c : Client) (answered : List RequestId) : Message → List Record
  | .request _ | .notification _ => [messageRecord]
  | .response r =>
    match c.answeredKind? answered r.id with
    | none => []
    | some kind =>
      messageRecord :: match interpret kind r with
        | .ok (.initializeReply _ (.ok _)) => [Frame.encodeRecord initializedNotification.wire]
        | _ => []

/-- The records of validating documents, as `validateFrom` does: those of a document stand before
those of the documents behind it, and a fault ends them. -/
def validateRecords (c : Client) (answered : List RequestId) : List Json → List Record
  | [] => []
  | document :: rest =>
    (match Message.classify document with
      | .ok message => c.understandRecords answered message
      | .error _ => []) ++
    match c.validateOne answered document with
    | .ok incoming => c.validateRecords (Incoming.answered answered incoming) rest
    | .error _ => []

/-- The records of carrying out a valid document by `apply`. A call is not logged again, and a reply
with an error is a warning. -/
def applyRecords (c : Client) : Incoming → List Record
  | .call _ => []
  | .initializeReply _ (.ok _) =>
    [.plain .debug .session "LspClient: Queued initialized notification",
      transitionRecord c.state .normal]
  | .initializeReply _ (.error failure) =>
    [.plain .warn .session ("LspClient: initialize failed: " ++ failure.display),
      transitionRecord c.state .uninitialized]
  | .shutdownReply _ (.ok ()) => [transitionRecord c.state .shutdown]
  | .shutdownReply _ (.error failure) =>
    [.plain .warn .session ("LspClient: shutdown failed: " ++ failure.display),
      transitionRecord c.state .normal]

/-- The records of carrying out valid documents in order, each by the client that `apply` made of
the one before. -/
def applyAllRecords (c : Client) : List Incoming → List Record
  | [] => []
  | incoming :: rest => c.applyRecords incoming ++ (c.apply incoming).1.applyAllRecords rest

/-- The records of `process`, which looks at the frames that the received bytes make up. The frames
are read first, whatever comes of their documents. -/
def processRecords (c : Client) : List Record :=
  let limit := c.config.maxMessageSize
  Frame.decodeRecords limit c.received ++
  match Frame.decode limit c.received with
  | .error e =>
    if e.isIncomplete then
      [.plain .trace .session ("LspClient: Waiting for more input: " ++ e.message)]
    else [.plain .warn .session ("LspClient: Discarding receive buffer: " ++ e.message)]
  | .ok decoded =>
    c.validateRecords [] decoded.documents ++
    match c.validate decoded.documents with
    | .error e => [.plain .warn .session ("LspClient: Rejecting batch: " ++ e.message)]
    | .ok incoming => c.applyAllRecords incoming

/-- The records of a client to which `count` bytes have just come, and which has not looked at them
yet. -/
def arrivalRecords (c : Client) (count : Nat) : List Record :=
  .plain .trace .session ("LspClient: Received " ++ Decimal.render count ++ " bytes (" ++
    Decimal.render c.received.length ++ " buffered)") :: c.processRecords

/-! ### Messages of the client -/

/-- The records of queueing a message by `send`: that of its frame, and that of the message. -/
def sendRecords (document : Json) : List Record := [Frame.encodeRecord document, messageRecord]

/-- The records of sending a message and moving on from `expected` to `after`, if the session allows
it. A command that is refused leaves no record. -/
def requestRecords (c : Client) (expected after : Lifecycle) (document : Json) : List Record :=
  if c.state = expected then sendRecords document ++ [transitionRecord c.state after] else []

/-- The records of asking the server to initialize, with the request as `sendInitialize` writes it.
-/
def sendInitializeRecords (c : Client) (options : InitializeOptions) : List Record :=
  let request : Request := ⟨.integer c.nextId, ClientRequest.initialization.method,
    some (initializeParams c.config options)⟩
  c.requestRecords .uninitialized .awaitingInitializeAck request.wire

/-- The records of asking the server to shut down, with the request as `sendShutdown` writes it. -/
def sendShutdownRecords (c : Client) : List Record :=
  let request : Request := ⟨.integer c.nextId, ClientRequest.shutdown.method, none⟩
  c.requestRecords .normal .awaitingShutdownAck request.wire

/-- The records of ending the session by `sendExit`. -/
def sendExitRecords (c : Client) : List Record :=
  c.requestRecords .shutdown .exited exitNotification.wire

/-- The records of a `reply`. One that is refused leaves none. -/
def replyRecords (c : Client) (response : Response) : List Record :=
  match c.requireAwaiting "" response.id with
  | .error _ => []
  | .ok () => sendRecords response.wire

end Client

end LspSession
