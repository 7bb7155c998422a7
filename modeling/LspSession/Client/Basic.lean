import LspSession.Config
import LspSession.Event.Basic
import LspSession.Message.IdSet

/-!
# `LspSession.Client.Basic`: the state of a session

A `Client` is the client's side of one session. It does no input or output: bytes from the server
are handed to it, and the bytes it has for the server are taken from it. Between two such calls it
keeps the bytes that do not yet make up whole frames, the bytes not yet taken, the requests it has
sent that await a response, the ids of the server's requests that await a reply, the number of its
next request, where the session stands, and what the server said of itself.
-/

set_option autoImplicit false

namespace LspSession

/-- The requests that a client sends: `initialize`, with which a session starts, and `shutdown`,
with which it ends. There are no others. -/
inductive ClientRequest where
  | initialization
  | shutdown
  deriving DecidableEq, Repr

namespace ClientRequest

/-- The method of a request on the wire, as the protocol names it in the member `method`. -/
def method : ClientRequest → String
  | .initialization => "initialize"
  | .shutdown => "shutdown"

/-- The name of a kind of request, as it is shown in debug output. -/
def name : ClientRequest → String
  | .initialization => "Initialize"
  | .shutdown => "Shutdown"

end ClientRequest

/-- A request that awaits its response: the `request` as it was sent, and its `kind`, which decides
what a response to it means. -/
structure PendingRequest where
  kind : ClientRequest
  request : Request
  deriving DecidableEq

/-- The requests that await a response, by their ids. `insert` keeps one entry to an id. -/
abbrev PendingTable := List (RequestId × PendingRequest)

namespace PendingTable

/-- The table without the entry of an id. Where there is none, it is the table itself. -/
def erase (t : PendingTable) (id : RequestId) : PendingTable := t.filter fun e => e.1 ≠ id

/-- The table with an entry for an id, in place of any other entry for it, which `erase` takes out.
The new entry stands in front. -/
def insert (t : PendingTable) (id : RequestId) (p : PendingRequest) : PendingTable :=
  (id, p) :: t.erase id

/-- The entry of an id, if its request awaits a response. -/
def find? (t : PendingTable) (id : RequestId) : Option PendingRequest := List.lookup id t

end PendingTable

/-- The client's side of a session. It does no input and output of its own: bytes from the server
are handed to `Client.feed`, and those for the server wait in `outgoing` to be taken. -/
structure Client where
  config : Config
  state : Lifecycle
  /-- Bytes from the server that do not yet make up whole frames. -/
  received : Bytes
  /-- Bytes for the server that have not been taken. -/
  outgoing : Bytes
  /-- Requests of the client that await a response. -/
  pending : PendingTable
  /-- Requests of the server that await a reply. -/
  awaitingReply : IdSet
  /-- The number of the next request of the client. -/
  nextId : Int64
  /-- What the server announced when it was initialized. -/
  capabilities : Option Json
  deriving DecidableEq

namespace Client

/-- A client at the start of its session: nothing received, nothing to send, nothing pending, and
zero the number of its first request. -/
def ofConfig (config : Config) : Client where
  config := config
  state := .start
  received := []
  outgoing := []
  pending := []
  awaitingReply := .empty
  nextId := 0
  capabilities := none

/-- A client with the default configuration, which is always valid (`withConfig_default`). -/
def new : Client := ofConfig .default

/-- A client with a configuration, if `Config.validate` finds no fault with that. -/
def withConfig (config : Config) : Except ConfigError Client :=
  match config.validate with
  | .error e => .error e
  | .ok () => .ok (ofConfig config)

/-- Whether a request of the client with the given id awaits its response, that is, has an entry in
`pending`. -/
def isPending (c : Client) (id : RequestId) : Bool := (c.pending.find? id).isSome

/-- The request of an id that awaits its response, with its kind. -/
def pendingRequest? (c : Client) (id : RequestId) : Option PendingRequest := c.pending.find? id

/-- The number of requests that await a response. A session never has more than one. -/
def pendingCount (c : Client) : Nat := c.pending.length

/-- Whether a request of the server with the given id awaits a reply. Replies with any other id are
refused by `requireAwaiting`. -/
def isAwaitingReply (c : Client) (id : RequestId) : Bool := c.awaitingReply.contains id

/-- Whether part of a frame has been `received`: bytes are kept only if they stop inside a frame. -/
def hasBufferedInput (c : Client) : Bool := !c.received.isEmpty

/-- Whether there are bytes for the server that have not been taken. -/
def hasOutgoing (c : Client) : Bool := !c.outgoing.isEmpty

/-- Takes the bytes for the server. They are handed over once, and `outgoing` is empty afterwards.
-/
def drainOutgoing (c : Client) : Client × Bytes := ({ c with outgoing := [] }, c.outgoing)

/-- Queues the frame of a document for the server, behind the frames that wait already. -/
def send (c : Client) (document : Json) : Client :=
  { c with outgoing := Frame.append c.outgoing document }

/-- The default configuration is accepted, and gives the client `new`. -/
theorem withConfig_default : withConfig .default = .ok new := by
  rw [withConfig, Config.validate_default]
  rfl

end Client

end LspSession
