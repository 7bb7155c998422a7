import LspSession.Json.Conversion

/-!
# `LspSession.Message.Basic`: requests, notifications and responses

A message is a request, which carries an id and expects a response; a notification, which does
neither; or a response, which carries the id of the request it answers and either a result or a
failure. `Message.wire` is the document that stands for a message on the wire, with its members in
the order in which they are written: the protocol version first, then the id, then the rest.
Absent parameters and absent failure data are left out, but a `null` result is written.
-/

set_option autoImplicit false

namespace LspSession

/-! ### Ids -/

/-- The id of a request. An integer and a string of the same digits are different ids, and a
`Response` carries the id just as the request had it. -/
inductive RequestId where
  | integer (value : Int64)
  | string (value : String)
  deriving DecidableEq, Repr

namespace RequestId

/-- The id as a document: a number or a string, as `RequestId.ofJson` reads it. -/
def toJson : RequestId → Json
  | .integer i => .number (.integer i.toInt)
  | .string s => .string s

/-- The id as shown in a sentence: a string stands between quotes (`Text.quote`), so that it cannot
be taken for an integer. -/
def display : RequestId → String
  | .integer i => Decimal.renderInt i.toInt
  | .string s => Text.quote s

/-- Reads an id that is an integer of 64 bits or a string. Any other document gets one error, which
names the type `RequestId`. -/
def ofJson : Json.Conversion RequestId
  | .number n =>
    match n.toInt64? with
    | some i => .ok (.integer i)
    | none => .error (.noAlternative "RequestId")
  | .string s => .ok (.string s)
  | _ => .error (.noAlternative "RequestId")

end RequestId

/-! ### Messages -/

/-- Why a request failed, as the `error` of a response says it: a `code`, a sentence, and whatever
else there is to say in `data`. -/
structure Failure where
  code : Int32
  message : String
  data : Option Json
  deriving DecidableEq

/-- A request, which expects a response under its `id`. Parameters that are absent are not the same
as parameters that are `null`. -/
structure Request where
  id : RequestId
  method : String
  params : Option Json
  deriving DecidableEq

/-- A notification, which expects no response and so has no `RequestId`. -/
structure Notification where
  method : String
  params : Option Json
  deriving DecidableEq

/-- A response to the request of the same `id`, with its result or its failure. It is one of the two
by its type, where a document may have both or neither. -/
structure Response where
  id : RequestId
  payload : Except Failure Json

/-- Any message that passes between a client and a server. -/
inductive Message where
  | request (request : Request)
  | notification (notification : Notification)
  | response (response : Response)

/-! ### Wire form -/

/-- The version of the protocol that every message names. It is written and never looked at by
`Message.classify`. -/
def protocolVersion : String := "2.0"

/-- The member `jsonrpc` that names the protocol version, the first of every message that is
written. -/
def versionMember : String × Json := ("jsonrpc", .string protocolVersion)

/-- A member that is left out where there is no value, as a list to put among other members. -/
def optionalMember (name : String) (value : Option Json) : List (String × Json) :=
  (value.map fun j => (name, j)).toList

namespace Failure

/-- The failure as a document, members in the order in which they are written: `code`, `message` and
then `data`. -/
def wire (f : Failure) : Json :=
  .object ([("code", .number (.integer f.code.toInt)), ("message", .string f.message)] ++
    optionalMember "data" f.data)

/-- The failure as shown in a sentence, with its `code` behind its `message`. -/
def display (f : Failure) : String :=
  f.message ++ " (" ++ Decimal.renderInt f.code.toInt ++ ")"

/-- What a failure calls itself as a record, for the errors of `Failure.ofJson`. -/
def shape : Json.RecordShape := ⟨"ResponseError", 3⟩

/-- Reads a failure. In an array the `data` may be left off at the end, and `null` counts as none.
-/
def ofJson : Json.Conversion Failure :=
  Json.toRecord shape fun source =>
    Failure.mk <$> source.required 0 "code" Json.toInt32
      <*> source.required 1 "message" Json.toText
      <*> source.trailing 2 "data" Json.toAny

end Failure

/-- The document of a request, with absent `params` left out. -/
def Request.wire (r : Request) : Json :=
  .object ([versionMember, ("id", r.id.toJson), ("method", .string r.method)] ++
    optionalMember "params" r.params)

/-- The document of a notification, with absent `params` left out. -/
def Notification.wire (n : Notification) : Json :=
  .object ([versionMember, ("method", .string n.method)] ++ optionalMember "params" n.params)

/-- The document of a response. It has exactly one of `result` and `error`, also where the result is
`null`. -/
def Response.wire (r : Response) : Json :=
  let outcome := match r.payload with
    | .ok result => ("result", result)
    | .error failure => ("error", failure.wire)
  .object [versionMember, ("id", r.id.toJson), outcome]

/-- The document of a message: `Request.wire`, `Notification.wire` or `Response.wire`. -/
def Message.wire : Message → Json
  | .request r => r.wire
  | .notification n => n.wire
  | .response r => r.wire

/-! ### Replies -/

/-- The codes of failures that the protocol defines. A server may send others, so `Failure.code` is
any number. -/
inductive FailureCode where
  | parseError
  | invalidRequest
  | methodNotFound
  | invalidParams
  | internalError
  | requestCancelled
  deriving DecidableEq, Repr

/-- The number of a code. Those up to `internalError` are defined by JSON-RPC and the last one by
the language server protocol. -/
def FailureCode.value : FailureCode → Int32
  | .parseError => -32700
  | .invalidRequest => -32600
  | .methodNotFound => -32601
  | .invalidParams => -32602
  | .internalError => -32603
  | .requestCancelled => -32800

/-- Every code, in the order of the protocol's list. -/
def FailureCode.all : List FailureCode :=
  [.parseError, .invalidRequest, .methodNotFound, .invalidParams, .internalError,
    .requestCancelled]

namespace Response

/-- A response with a result, which may be `null`. -/
def success (id : RequestId) (result : Json) : Response := ⟨id, .ok result⟩

/-- A response with a `Failure`, made of its parts. -/
def failed (id : RequestId) (code : Int32) (message : String) (data : Option Json) : Response :=
  ⟨id, .error ⟨code, message, data⟩⟩

/-- The response to a request whose method nobody handles. Its message names the method, and it
carries no `data`. -/
def methodNotFound (id : RequestId) (method : String) : Response :=
  failed id FailureCode.methodNotFound.value ("Method not found: " ++ method) none

end Response

end LspSession
