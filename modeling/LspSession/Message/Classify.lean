import LspSession.Error

/-!
# `LspSession.Message.Classify`: which message a document is

A member `method` makes a document a call: a request if it has an `id` too, a notification
otherwise. An `id` without a `method` makes it a response, and then exactly one of `result` and
`error` has to be there. A `null` in `params` or `error` counts as absent, and a `null` result does
not. Every other member is ignored.
-/

set_option autoImplicit false

namespace LspSession

/-- Reads the id of a message. Unlike `RequestId.ofJson` it tells apart a number that is no integer
of 64 bits and a document of another kind, and `null` is one of these. -/
def RequestId.ofMember : Json → Except Malformed RequestId
  | .number n =>
    match n.toInt64? with
    | some i => .ok (.integer i)
    | none => .error (.idNotInteger n)
  | .string s => .ok (.string s)
  | found => .error (.idOfWrongKind found)

namespace Message

/-- The value of a member, where `null` counts as no value. -/
def presentMember? (name : String) (members : List (String × Json)) : Option Json :=
  (Json.member? name members).filter fun j => !j.isNull

/-- Reads the id of a message that may have none. An `id` that is there has to be one for
`RequestId.ofMember`. -/
def readId? (members : List (String × Json)) : Except Malformed (Option RequestId) :=
  match Json.member? "id" members with
  | none => .ok none
  | some j => (RequestId.ofMember j).map some

/-- A call of a method: a request if it has an id, and a notification otherwise. Its `params` may be
any document. -/
def ofCall (id : Option RequestId) (method : String) (members : List (String × Json)) : Message :=
  let params := presentMember? "params" members
  match id with
  | some id => .request ⟨id, method, params⟩
  | none => .notification ⟨method, params⟩

/-- A response to a request. A failure that `Failure.ofJson` cannot read is reported with the id
that the response is for. -/
def ofResponse (id : RequestId) (members : List (String × Json)) : Except Malformed Message :=
  match Json.member? "result" members, presentMember? "error" members with
  | some result, none => .ok (.response (.success id result))
  | none, some error =>
    match Failure.ofJson error with
    | .ok failure => .ok (.response ⟨id, .error failure⟩)
    | .error e => .error (.badFailure id e)
  | some _, some _ => .error (.resultAndFailure id)
  | none, none => .error (.neitherResultNorFailure id)

/-- The message that an object is. The `id` is read first, so a fault of it is reported whatever
else the object holds. -/
def ofMembers (members : List (String × Json)) : Except Malformed Message :=
  match readId? members with
  | .error e => .error e
  | .ok id =>
    match Json.member? "method" members, id with
    -- A method makes it a call, also beside a result or an error.
    | some (.string method), id => .ok (ofCall id method members)
    | some found, _ => .error (.methodNotText found)
    | none, some id => ofResponse id members
    | none, none => .error .neitherIdNorMethod

/-- The `Message` that a document is, or why it is none. Only objects are messages; batches in an
array are not accepted. -/
def classify : Json → Except Malformed Message
  | .object members => ofMembers members
  | found => .error (.notObject found)

end Message

end LspSession
