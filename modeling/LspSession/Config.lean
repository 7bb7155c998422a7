import LspSession.Frame.Basic
import LspSession.Text.Blank

/-!
# `LspSession.Config`: what a client says of itself and what it accepts

A configuration gives the client's name, the capabilities it announces, options for the server,
and the limit on the size of a frame's body. It is valid if the limit is positive, the capabilities
are an object, and a name, where there is one, is not blank. Of several faults the first in that
order is reported.
-/

set_option autoImplicit false

namespace LspSession

/-- The name and version under which a client introduces itself to the server. -/
structure ClientInfo where
  name : String
  version : Option String
  deriving DecidableEq, Repr

/-- The client information as a document. A version that is not known is left out, not written as
`null`. -/
def ClientInfo.toJson (info : ClientInfo) : Json :=
  .object ([("name", .string info.name)] ++
    (info.version.map fun v => ("version", .string v)).toList)

/-- What a client says of itself and what it accepts. All but `maxMessageSize` goes to the server
with the request to initialize; that limit is kept to oneself, and holds for the body of each frame.
-/
structure Config where
  clientInfo : Option ClientInfo
  capabilities : Json
  initializationOptions : Option Json
  maxMessageSize : Nat
  deriving DecidableEq

/-- What is wrong with a configuration. Each fault concerns one of its parts, and `Config.validate`
looks for them in this order. -/
inductive ConfigError where
  | zeroMessageSize
  | capabilitiesNotObject (found : Json)
  | emptyClientName
  deriving DecidableEq

/-- The sentence that names an error, with what stands where the capabilities should. -/
def ConfigError.message : ConfigError → String
  | .zeroMessageSize => "Maximum message size must be greater than zero"
  | .capabilitiesNotObject found =>
    "Client capabilities must be a JSON object, got: " ++ found.render
  | .emptyClientName => "Client name must not be empty"

namespace Config

/-- The configuration of a client that is given no other. It announces no capability and passes
`validate`. -/
def default : Config where
  clientInfo := some ⟨"lsp-sansio-client", some "0.1.0"⟩
  capabilities := .object []
  initializationOptions := none
  maxMessageSize := Frame.defaultLimit

/-- Whether the name of a client is there but blank (`Text.isAllBlank`). A client that does not
introduce itself has no name to be blank. -/
def hasBlankName (c : Config) : Bool :=
  match c.clientInfo with
  | some info => Text.isAllBlank info.name.toList
  | none => false

/-- The first `ConfigError` of a configuration: of the limit, then of the capabilities, then of the
name. -/
def validate (c : Config) : Except ConfigError Unit :=
  if c.maxMessageSize = 0 then .error .zeroMessageSize
  else if !c.capabilities.isObject then .error (.capabilitiesNotObject c.capabilities)
  else if c.hasBlankName then .error .emptyClientName
  else .ok ()

/-- The default configuration has no fault, so `Client.new` can be made of it. -/
theorem validate_default : validate default = .ok () := by
  rfl

end Config

end LspSession
