import LspSession.Error
import LspSession.Event.Diagnostics

/-!
# `LspSession.Event.Basic`: what a session tells its caller

An event is what a message of the server comes to: the outcome of a request of the client, or a call
of the server. `Event.ofCall` finds the event of a call. A method that is not understood is handed
on with its id and parameters. For one that is understood the parameters have to be there, to be of
its form and to name one of the four severities, and a request for an action has to carry an id.
-/

set_option autoImplicit false

namespace LspSession

/-- An action that a server offers for a shown text: a `title`, and any further members, which go
back to the server with the choice. -/
structure ActionItem where
  title : String
  properties : List (String × Json)
  deriving DecidableEq

namespace ActionItem

/-- The action as a document, by `Json.ofMembers`: the further members with the title among them, in
ascending order. -/
def toJson (a : ActionItem) : Json := Json.ofMembers (("title", .string a.title) :: a.properties)

/-- Reads an action, which has to be an object. All its members but `title` are kept as they are. -/
def ofJson : Json.Conversion ActionItem
  | .object members => do
    let source := Json.FieldSource.members members
    let title ← (source.required 0 "title" Json.toText).result
    return ⟨title, Json.withoutMember "title" members⟩
  | j => .error (.wrongKind j (.record "MessageActionItem"))

end ActionItem

/-- What a session tells its caller. The first two and `shutdownAcked` and `shutdownFailed` are
outcomes of requests of the client, the others calls of the server. -/
inductive Event where
  /-- The server is initialized. -/
  | initialized (capabilities : Json)
  /-- The server refused to initialize; the session is back at its start. -/
  | initializeFailed (failure : Failure)
  | showMessage (severity : Severity) (text : String)
  /-- The server awaits the choice of an action. -/
  | showMessageRequest (id : RequestId) (severity : Severity) (text : String)
      (actions : List ActionItem)
  | logMessage (severity : Severity) (text : String)
  | publishDiagnostics (diagnostics : Diagnostics)
  /-- The server agreed to shut down. -/
  | shutdownAcked
  /-- The server refused to shut down; regular traffic goes on. -/
  | shutdownFailed (failure : Failure)
  /-- A call that is not understood. The server awaits a reply if it carries an id. -/
  | unsupported (id : Option RequestId) (method : String) (params : Option Json)
  deriving DecidableEq

namespace Event

/-- The id of the server's request behind the event, if it awaits a reply. The events of shown and
logged texts and of diagnostics give `none`, even where the call had an id. -/
def requestId? : Event → Option RequestId
  | .showMessageRequest id .. => some id
  | .unsupported id .. => id
  | _ => none

/-- The parameters of a shown or logged text. The `kind` is a number that need not be that of a
severity. -/
structure TextParams where
  kind : Int64
  message : String

/-- Reads the parameters of a shown or logged text, with the members `type` and `message`. -/
def TextParams.ofJson : Json.Conversion TextParams :=
  Json.toRecord ⟨"MessageParams", 2⟩ fun source =>
    TextParams.mk <$> source.required 0 "type" Json.toInt64
      <*> source.required 1 "message" Json.toText

/-- The parameters of a request for an action. No list of `actions` is the same as an empty one. -/
structure ActionParams where
  kind : Int64
  message : String
  actions : Option (List ActionItem)

/-- Reads the parameters of a request for an action. In an array the `actions` may be left off at
the end. -/
def ActionParams.ofJson : Json.Conversion ActionParams :=
  Json.toRecord ⟨"MessageRequestParams", 3⟩ fun source =>
    ActionParams.mk <$> source.required 0 "type" Json.toInt64
      <*> source.required 1 "message" Json.toText
      <*> source.trailing 2 "actions" (Json.toList ActionItem.ofJson)

/-- The parameters of a method, which have to be there and to be of its form. The errors
`missingParams` and `badParams` name the method. -/
def readParams {α : Type} (method : ServerMethod) (read : Json.Conversion α)
    (params : Option Json) : Except Malformed α :=
  match params with
  | none => .error (.missingParams method)
  | some j => (read j).mapError (.badParams method)

/-- The severity that a method's parameters name by number, which has to be one that
`Severity.ofCode?` knows. -/
def readSeverity (method : ServerMethod) (code : Int64) : Except Malformed Severity :=
  match Severity.ofCode? code with
  | some s => .ok s
  | none => .error (.badSeverity method code)

/-- The event of a `ServerMethod`, one that is understood. The id is looked at before the parameters
where one is needed, and it does not get into the events of the other three methods. -/
def ofMethod (method : ServerMethod) (id : Option RequestId) (params : Option Json) :
    Except Malformed Event := do
  match method with
  -- The id is not kept, so nobody can reply to a request of this method.
  | .showMessage =>
    let p ← readParams method TextParams.ofJson params
    return .showMessage (← readSeverity method p.kind) p.message
  | .logMessage =>
    let p ← readParams method TextParams.ofJson params
    return .logMessage (← readSeverity method p.kind) p.message
  | .showMessageRequest =>
    match id with
    -- Without an id there is nobody to tell the choice to.
    | none => .error (.requestWithoutId method)
    | some id =>
      let p ← readParams method ActionParams.ofJson params
      return .showMessageRequest id (← readSeverity method p.kind) p.message (p.actions.getD [])
  | .publishDiagnostics =>
    return .publishDiagnostics (← readParams method Diagnostics.ofJson params)

/-- The event of a call of the server, a request if it has an id. A method that
`ServerMethod.ofName?` does not know makes it `unsupported`, which is no fault. -/
def ofCall (id : Option RequestId) (method : String) (params : Option Json) :
    Except Malformed Event :=
  match ServerMethod.ofName? method with
  | some m => ofMethod m id params
  | none => .ok (.unsupported id method params)

end Event

end LspSession
