import LspSession.Client.Basic
import LspSession.Frame.Decode
import LspSession.Message.Classify

/-!
# `LspSession.Client.Receive`: bytes from the server

`Client.feed` appends bytes to those received and looks at the frames they make up. Three things
can come of it. If the bytes stop inside a frame, they are kept and nothing else happens, even if
whole frames stand before it. If a frame, a document or a response is at fault, the received bytes
are thrown away and nothing else changes. Otherwise every document is applied to the session and
gives one event.

To make the second case leave the session alone, a batch of documents is first validated as a whole
against the client as it was (`Client.validate`), and only then applied one after another
(`Client.applyAll`). A response has to answer a request that awaits one, and no two responses of a
batch may answer the same request.
-/

set_option autoImplicit false

namespace LspSession

/-- A document that was found valid and has not been applied. `validate` makes these of a batch, and
`applyAll` carries them out once all documents of the batch are known to be valid. -/
inductive Incoming where
  /-- A call of the server. -/
  | call (event : Event)
  /-- A response to the request to initialize: the server's capabilities, or why it refused. -/
  | initializeReply (id : RequestId) (outcome : Except Failure Json)
  /-- A response to the request to shut down. -/
  | shutdownReply (id : RequestId) (outcome : Except Failure Unit)

/-- The capabilities in the result of an initialization. The result has to be an object with the
member `capabilities`, of which the value may be anything. -/
def Malformed.capabilitiesOf (result : Json) : Except Malformed Json :=
  match result with
  | .object members =>
    match Json.member? "capabilities" members with
    | some capabilities => .ok capabilities
    | none => .error .noCapabilities
  | found => .error (.resultNotObject found)

namespace Client

/-! ### Validation -/

/-- What a response means to the `kind` of request it answers. The result of an initialization has
to have capabilities. The result of a shutdown is not looked at. -/
def interpret (kind : ClientRequest) (response : Response) : Except Malformed Incoming :=
  match kind, response.payload with
  | .initialization, .ok result =>
    (Malformed.capabilitiesOf result).map fun capabilities =>
      .initializeReply response.id (.ok capabilities)
  | .initialization, .error failure => .ok (.initializeReply response.id (.error failure))
  | .shutdown, .ok _ => .ok (.shutdownReply response.id (.ok ()))
  | .shutdown, .error failure => .ok (.shutdownReply response.id (.error failure))

/-- The kind of the request that a response answers, unless none with its id awaits one. The ids in
`answered` were answered earlier in the batch and await nothing any more. -/
def answeredKind? (c : Client) (answered : List RequestId) (id : RequestId) :
    Option ClientRequest :=
  if answered.contains id then none else (c.pending.find? id).map (·.kind)

/-- Finds out what a response means to the session: `answeredKind?` finds its request, without which
it is unexpected, and `interpret` reads it as an answer to that. -/
def correlate (c : Client) (answered : List RequestId) (response : Response) :
    Except ProtocolError Incoming :=
  match c.answeredKind? answered response.id with
  | none => .error (.unexpectedResponse response.id)
  | some kind => (interpret kind response).mapError .malformed

/-- Finds out what a call means to the session. A request has an `id` and a notification has none;
apart from that `Event.ofCall` reads both alike. -/
def receiveCall (id : Option RequestId) (method : String) (params : Option Json) :
    Except ProtocolError Incoming :=
  match Event.ofCall id method params with
  | .ok event => .ok (.call event)
  | .error fault => .error (.malformed fault)

/-- Finds out what a message means to the session. Only a response depends on the client, through
the requests that await one. -/
def understand (c : Client) (answered : List RequestId) : Message → Except ProtocolError Incoming
  | .request r => receiveCall (some r.id) r.method r.params
  | .notification n => receiveCall none n.method n.params
  | .response r => c.correlate answered r

/-- Finds out what a document means to the session: `Message.classify` tells which kind of message
it is, and `understand` what it says. Both can find it malformed. -/
def validateOne (c : Client) (answered : List RequestId) (document : Json) :
    Except ProtocolError Incoming :=
  match Message.classify document with
  | .error fault => .error (.malformed fault)
  | .ok message => c.understand answered message

/-- The ids answered once a document has been found valid: those before it, and the id of its
request if it is a reply. -/
def Incoming.answered (answered : List RequestId) : Incoming → List RequestId
  | .call _ => answered
  | .initializeReply id _ | .shutdownReply id _ => id :: answered

/-- Finds out what documents mean to the session when the ids in `answered` are answered already.
The first document at fault makes all of them fail. -/
def validateFrom (c : Client) (answered : List RequestId) :
    List Json → Except ProtocolError (List Incoming)
  | [] => .ok []
  | document :: rest =>
    match c.validateOne answered document with
    | .error e => .error e
    | .ok incoming =>
      -- The client stays as it was, so an answer is only noted for the documents behind it.
      match c.validateFrom (Incoming.answered answered incoming) rest with
      | .error e => .error e
      | .ok more => .ok (incoming :: more)

/-- Finds out what a batch of documents means to the session. The client is the one before the batch
throughout, and nothing is changed: `applyAll` does that afterwards. -/
def validate (c : Client) (documents : List Json) : Except ProtocolError (List Incoming) :=
  c.validateFrom [] documents

/-! ### Application -/

/-- The notification `initialized` that follows a successful initialization. The client queues it by
itself, before the caller sees the event. -/
def initializedNotification : Notification := ⟨"initialized", some (.object [])⟩

/-- Carries out a valid document, and gives its event. A request of the server joins those that
await a reply, unless its event drops the id. A reply takes its request out of `pending` and moves
the session on, or back if it is an error. -/
def apply (c : Client) : Incoming → Client × Event
  | .call event =>
    match event.requestId? with
    | some id => ({ c with awaitingReply := c.awaitingReply.insert id }, event)
    | none => (c, event)
  | .initializeReply id (.ok capabilities) =>
    -- The notification is queued here, so it goes out before any command that the caller gives
    -- next.
    ({ c.send initializedNotification.wire with
        pending := c.pending.erase id
        capabilities := some capabilities
        state := .normal },
      .initialized capabilities)
  | .initializeReply id (.error failure) =>
    ({ c with pending := c.pending.erase id, state := .uninitialized }, .initializeFailed failure)
  | .shutdownReply id (.ok ()) =>
    ({ c with pending := c.pending.erase id, state := .shutdown }, .shutdownAcked)
  | .shutdownReply id (.error failure) =>
    ({ c with pending := c.pending.erase id, state := .normal }, .shutdownFailed failure)

/-- Carries out valid documents in order with `apply`, and collects their events. None of them can
fail. -/
def applyAll (c : Client) : List Incoming → Client × List Event
  | [] => (c, [])
  | incoming :: rest =>
    let (c, event) := c.apply incoming
    let (c, events) := c.applyAll rest
    (c, event :: events)

/-! ### Bytes -/

/-- The client that has more bytes in `received`. They stand behind those that it kept. -/
def receive (c : Client) (bytes : Bytes) : Client := { c with received := c.received ++ bytes }

/-- The client that has thrown away what it `received`. Nothing else changes, so the session goes
on. -/
def discard (c : Client) : Client := { c with received := [] }

/-- Looks at the frames that the received bytes make up. Bytes that stop short are kept. All others
are taken out of `received`, whether their documents are carried out or are at fault. -/
def process (c : Client) : Client × Except ProtocolError (List Event) :=
  match Frame.decode c.config.maxMessageSize c.received with
  | .error e => if e.isIncomplete then (c, .ok []) else (c.discard, .error (.frame e))
  | .ok decoded =>
    match c.validate decoded.documents with
    | .error e => (c.discard, .error e)
    | .ok incoming =>
      let (c, events) :=
        -- The bytes are taken out before the first document is carried out.
        { c with received := c.received.drop decoded.consumed }.applyAll incoming
      (c, .ok events)

/-- Hands bytes from the server to the client: `receive` puts them behind those kept before, and
`process` looks at all of them. -/
def feed (c : Client) (bytes : Bytes) : Client × Except ProtocolError (List Event) :=
  (c.receive bytes).process

end Client

end LspSession
