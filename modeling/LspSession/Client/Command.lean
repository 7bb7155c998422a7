import LspSession.Client.Basic

/-!
# `LspSession.Client.Command`: what the caller asks of a session

The three lifecycle commands each need the session to stand at one place and move it to the next.
The three replies each need the server to await a reply to the id, and strike the id off. A command
that the session does not allow changes nothing.
-/

set_option autoImplicit false

namespace LspSession

/-- How much the server should tell about its work, as the request to `initialize` asks for it. -/
inductive TraceLevel where
  | off
  | messages
  | verbose
  deriving DecidableEq, Repr

namespace TraceLevel

/-- The name of a level on the wire, as the member `trace` has it. -/
def name : TraceLevel → String
  | .off => "off"
  | .messages => "messages"
  | .verbose => "verbose"

/-- The level with a name that is one of `TraceLevel.name`. Any other name is that of no level. -/
def ofName? (name : String) : Option TraceLevel :=
  [off, messages, verbose].find? fun t => t.name == name

end TraceLevel

/-- What the request to initialize says beside the configuration: whose process the client is, where
the root of the work is, and how much the server should tell. -/
structure InitializeOptions where
  processId : Option UInt32
  rootUri : Option String
  trace : TraceLevel
  deriving DecidableEq, Repr

namespace Client

/-! ### Lifecycle -/

/-- A value as a document, and `null` if there is none. The protocol wants some members to be there
even without a value. -/
def orNull (value : Option Json) : Json := value.getD .null

/-- The parameters of the request to initialize, made of `Config` and `InitializeOptions`. Four
members are always there. The two optional ones are left out where the configuration has nothing for
them. -/
def initializeParams (config : Config) (options : InitializeOptions) : Json :=
  Json.ofMembers ([
      ("processId", orNull (options.processId.map fun n => .number (.integer n.toNat))),
      ("rootUri", orNull (options.rootUri.map .string)),
      ("capabilities", config.capabilities),
      ("trace", .string options.trace.name)] ++
    optionalMember "clientInfo" (config.clientInfo.map ClientInfo.toJson) ++
    optionalMember "initializationOptions" config.initializationOptions)

/-- Sends a request under the number `nextId` and remembers it in `pending`. The number of the next
one is one more. -/
def sendRequest (c : Client) (kind : ClientRequest) (params : Option Json) : Client × RequestId :=
  let id := RequestId.integer c.nextId
  let request : Request := ⟨id, kind.method, params⟩
  ({ c.send request.wire with
      -- The sum of two `Int64` wraps around.
      nextId := c.nextId + 1
      pending := c.pending.insert id ⟨kind, request⟩ }, id)

/-- Asks the server to initialize. The session has to be `uninitialized`, and awaits the response
afterwards. -/
def sendInitialize (c : Client) (options : InitializeOptions) :
    Client × Except StateError RequestId :=
  match c.state.require "initialize" .uninitialized with
  | .error e => (c, .error e)
  | .ok () =>
    let (c, id) := c.sendRequest .initialization (some (initializeParams c.config options))
    ({ c with state := .awaitingInitializeAck }, .ok id)

/-- Asks the server to shut down. The session has to be `normal`, and awaits the response
afterwards. -/
def sendShutdown (c : Client) : Client × Except StateError RequestId :=
  match c.state.require "shutdown" .normal with
  | .error e => (c, .error e)
  | .ok () =>
    let (c, id) := c.sendRequest .shutdown none
    ({ c with state := .awaitingShutdownAck }, .ok id)

/-- The notification `exit` that ends a session. -/
def exitNotification : Notification := ⟨"exit", none⟩

/-- Ends the session. It has to be `shutdown`, that is, the server has agreed to shut down. Nothing
leads on from there. -/
def sendExit (c : Client) : Client × Except StateError Unit :=
  match c.state.require "exit" .shutdown with
  | .error e => (c, .error e)
  | .ok () => ({ c.send exitNotification.wire with state := .exited }, .ok ())

/-! ### Replies -/

/-- Checks that the session has not ended and that the server awaits a reply to `id`. The
`operation` is named in the error. -/
def requireAwaiting (c : Client) (operation : String) (id : RequestId) : Except StateError Unit :=
  -- The end of the session is reported first, whatever the id is.
  if c.state.isTerminal then .error (.exited operation)
  else if !c.awaitingReply.contains id then .error (.unknownRequest id)
  else .ok ()

/-- Sends a response to a request of the server that awaits a reply, and strikes its id off
`awaitingReply`. A second reply with the same id is refused. -/
def reply (c : Client) (operation : String) (response : Response) :
    Client × Except StateError Unit :=
  match c.requireAwaiting operation response.id with
  | .error e => (c, .error e)
  | .ok () =>
    ({ c.send response.wire with awaitingReply := c.awaitingReply.erase response.id }, .ok ())

/-- Answers a request of the server to choose an action, with the action that was chosen as the
server sent it, or with `null` if none was. -/
def replyToShowMessageRequest (c : Client) (id : RequestId) (action : Option ActionItem) :
    Client × Except StateError Unit :=
  c.reply "reply to showMessageRequest" (.success id (orNull (action.map ActionItem.toJson)))

/-- Answers a request of the server with a failure: an error with the given `code` and `message`,
and no data. -/
def replyWithError (c : Client) (id : RequestId) (code : Int32) (message : String) :
    Client × Except StateError Unit :=
  c.reply "reply with error" (.failed id code message none)

/-- Answers a request of the server whose method is not handled, with the error
`FailureCode.methodNotFound` that the protocol has for that. -/
def replyMethodNotFound (c : Client) (id : RequestId) (method : String) :
    Client × Except StateError Unit :=
  c.reply "reply method not found" (.methodNotFound id method)

end Client

end LspSession
