import LspSession.Client.Command
import LspSession.Proofs.Json.Record
import LspSession.Proofs.Message.Framed

/-!
# `LspSession.Proofs.Client.Introduction`: what a client says of itself

The request to initialize carries six values: four that are always there, of which two may be
`null`, and two that are left out where there is none. `Introduction` is the six of them,
`Introduction.members` lists the members that stand for them, and `Introduction.ofJson` reads them
back. The options for the server may be `null`, and that is told from no options.

`introduction_of_sendInitialize` says that the request carries these members and no others, that all
six values are read back from them, and that the request which is remembered is the one that is
sent. The request to shut down is remembered in the same way (`sends_sendRequest`), and carries
nothing.
-/

set_option autoImplicit false

namespace LspSession

/-! ### The values and their members -/

/-- What the request to initialize has to tell the server: the process, the client, the root of the
workspace, the options, the `capabilities` and the level of tracing. -/
structure Introduction where
  processId : Option UInt32
  rootUri : Option String
  capabilities : Json
  trace : TraceLevel
  clientInfo : Option ClientInfo
  initializationOptions : Option Json
  deriving DecidableEq

/-- The introduction that a client with a `Config` sends when it is asked to initialize with
`InitializeOptions`. -/
def Introduction.of (config : Config) (options : InitializeOptions) : Introduction where
  processId := options.processId
  rootUri := options.rootUri
  capabilities := config.capabilities
  trace := options.trace
  clientInfo := config.clientInfo
  initializationOptions := config.initializationOptions

/-- The name of an `optionalMember` is the given one, where the member is there at all. -/
theorem sublist_optionalMember (name : String) (value : Option Json) :
    ((optionalMember name value).map Prod.fst).Sublist [name] := by
  cases value
  · exact List.nil_sublist _
  · exact List.Sublist.refl _

/-- The value of an `optionalMember` is in order if it is so where it is there. -/
theorem isOrdered_of_mem_optionalMember {name : String} {value : Option Json}
    (h : ∀ j ∈ value, j.isOrdered = true) :
    ∀ m ∈ optionalMember name value, m.2.isOrdered = true := by
  cases value with
  | none => exact nofun
  | some j => exact List.forall_mem_singleton.mpr (h j rfl)

/-- The members of the client information, a `name` and a `version`. The version is left out where
there is none. -/
def ClientInfo.members (info : ClientInfo) : List (String × Json) :=
  ("name", .string info.name) :: optionalMember "version" (info.version.map .string)

/-- Client information is written by `ClientInfo.toJson` as the object of its members, in their
order. -/
theorem ClientInfo.toJson_eq (info : ClientInfo) : info.toJson = .object info.members := by
  obtain ⟨name, version⟩ := info
  cases version <;> rfl

/-- Client information is in order, since `name` comes before `version`. -/
theorem ClientInfo.isOrdered_members (info : ClientInfo) :
    (Json.object info.members).isOrdered = true := by
  have hnames : ["name", "version"].Pairwise (· < ·) := by decide
  have hversion : ∀ j ∈ info.version.map Json.string, j.isOrdered = true := by
    intro j hj
    obtain ⟨version, -, rfl⟩ := Option.mem_map.mp hj
    rfl
  rw [Json.isOrdered_object_iff, members, List.forall_mem_cons]
  refine ⟨List.pairwise_map.mp (hnames.sublist ?_), rfl, isOrdered_of_mem_optionalMember hversion⟩
  exact (sublist_optionalMember "version" _).cons_cons "name"

/-- The members of an introduction in ascending order of their names. A process and a root that are
not there are `null`, the client information and the options are left out. -/
def Introduction.members (i : Introduction) : List (String × Json) :=
  ("capabilities", i.capabilities) ::
    (optionalMember "clientInfo" (i.clientInfo.map fun info => .object info.members) ++
      optionalMember "initializationOptions" i.initializationOptions) ++
    [("processId", (i.processId.map fun n => .number (.integer n.toNat)).getD .null),
      ("rootUri", (i.rootUri.map .string).getD .null),
      ("trace", .string i.trace.name)]

/-! ### Reading -/

/-- Reads a level by its name. The name has to be one of the three that `TraceLevel.name` gives. -/
def TraceLevel.ofJson : Json.Conversion TraceLevel := fun j => do
  let name ← Json.toText j
  match ofName? name with
  | some level => .ok level
  | none => .error (.noAlternative "TraceLevel")

/-- A level is read back from its name by `TraceLevel.ofJson`. -/
theorem TraceLevel.ofJson_name (level : TraceLevel) : ofJson (.string level.name) = .ok level := by
  cases level <;> rfl

/-- Reads the client information: a name, and a version if there is one. -/
def ClientInfo.ofJson : Json.Conversion ClientInfo :=
  Json.toRecord ⟨"ClientInfo", 2⟩ fun source =>
    ClientInfo.mk <$> source.required 0 "name" Json.toText
      <*> source.trailing 1 "version" Json.toText

/-- Reads an introduction, as a server does. Options that are there are kept as they are, `null`
too. -/
def Introduction.ofJson : Json.Conversion Introduction :=
  Json.toRecord ⟨"InitializeParams", 6⟩ fun source =>
    Introduction.mk <$> source.required 0 "processId" (Json.toOption Json.toUInt32)
      <*> source.required 1 "rootUri" (Json.toOption Json.toText)
      <*> source.required 2 "capabilities" Json.toAny
      <*> source.required 3 "trace" TraceLevel.ofJson
      <*> source.optional 4 "clientInfo" ClientInfo.ofJson
      <*> source.field 5 "initializationOptions" (fun j => .ok (some j)) (some none) none

/-- The client information is read back from its members by `ClientInfo.ofJson`, with and without a
version. -/
theorem ClientInfo.ofJson_members (info : ClientInfo) :
    ofJson (.object info.members) = .ok info := by
  obtain ⟨name, version⟩ := info
  cases version <;> rfl

/-- What is written as `null` where there is no value is read back by `toOption`, unless a value is
written so. For numbers and texts it is not. -/
theorem Json.toOption_getD_null {α : Type} {read : Json.Conversion α} {write : α → Json}
    (hread : ∀ a, read (write a) = .ok a) (hwrite : ∀ a, write a ≠ .null) (a : Option α) :
    Json.toOption read ((a.map write).getD .null) = .ok a := by
  cases a with
  | none => rfl
  | some a => exact toOption_eq_ok_iff.mpr (Or.inr ⟨hwrite a, a, hread a, rfl⟩)

/-- The members of an introduction are found by their names with `Json.member?`, and a member that
is left out is not found. -/
theorem Introduction.member?_members (i : Introduction) :
    Json.member? "processId" i.members =
        some ((i.processId.map fun n => .number (.integer n.toNat)).getD .null) ∧
      Json.member? "rootUri" i.members = some ((i.rootUri.map .string).getD .null) ∧
      Json.member? "trace" i.members = some (.string i.trace.name) ∧
      Json.member? "clientInfo" i.members = i.clientInfo.map (fun info => .object info.members) ∧
      Json.member? "initializationOptions" i.members = i.initializationOptions := by
  obtain ⟨processId, rootUri, capabilities, trace, clientInfo, initializationOptions⟩ := i
  cases clientInfo <;> cases initializationOptions <;> exact ⟨rfl, rfl, rfl, rfl, rfl⟩

/-- An introduction is read back from its members. So `ofJson` is a left inverse of `members`, and
nothing of the six values is lost on the way. -/
theorem Introduction.ofJson_members (i : Introduction) : ofJson (.object i.members) = .ok i := by
  obtain ⟨hprocess, hroot, htrace, hinfo, hoptions⟩ := i.member?_members
  have hsource : Json.FieldSource.Of ⟨"InitializeParams", 6⟩ (.members i.members)
      (.object i.members) := .members _
  have hprocess : Json.FieldSource.required (.members i.members) 0 "processId"
      (Json.toOption Json.toUInt32) = .ok i.processId :=
    (Json.FieldSource.required_eq_ok_iff hsource).mpr ⟨_, hprocess, Json.toOption_getD_null
      (fun n => Json.toUInt32_eq_ok_iff.mpr rfl) (fun _ => nofun) i.processId⟩
  have hroot : Json.FieldSource.required (.members i.members) 1 "rootUri"
      (Json.toOption Json.toText) = .ok i.rootUri :=
    (Json.FieldSource.required_eq_ok_iff hsource).mpr ⟨_, hroot, Json.toOption_getD_null
      (fun text => Json.toText_eq_ok_iff.mpr rfl) (fun _ => nofun) i.rootUri⟩
  have htrace : Json.FieldSource.required (.members i.members) 3 "trace" TraceLevel.ofJson =
      .ok i.trace :=
    (Json.FieldSource.required_eq_ok_iff hsource).mpr ⟨_, htrace, TraceLevel.ofJson_name i.trace⟩
  have hinfo : Json.FieldSource.optional (.members i.members) 4 "clientInfo" ClientInfo.ofJson =
      .ok i.clientInfo := by
    refine (Json.FieldSource.field_eq_ok_iff hsource).mpr ?_
    cases hi : i.clientInfo with
    | none => exact Or.inr ⟨by rw [hi] at hinfo; exact hinfo, rfl⟩
    | some info =>
      exact Or.inl ⟨.object info.members, by rw [hi] at hinfo; exact hinfo,
        Json.toOption_eq_ok_iff.mpr (Or.inr ⟨nofun, info, info.ofJson_members, rfl⟩)⟩
  have hoptions : Json.FieldSource.field (.members i.members) 5 "initializationOptions"
      (fun j => .ok (some j)) (some none) none = .ok i.initializationOptions := by
    refine (Json.FieldSource.field_eq_ok_iff hsource).mpr ?_
    cases hi : i.initializationOptions with
    | none => exact Or.inr ⟨by rw [hi] at hoptions; exact hoptions, rfl⟩
    | some j => exact Or.inl ⟨j, by rw [hi] at hoptions; exact hoptions, rfl⟩
  simp only [ofJson, Json.toRecord, hprocess, hroot, htrace, hinfo, hoptions]
  rfl

/-- The names of the members of an introduction are these, in their order, less those of members
that `optionalMember` leaves out. -/
theorem Introduction.map_fst_members (i : Introduction) :
    (i.members.map Prod.fst).Sublist
      ["capabilities", "clientInfo", "initializationOptions", "processId", "rootUri", "trace"] := by
  rw [members, List.map_append, List.map_cons, List.map_append]
  have hoptional := (sublist_optionalMember "clientInfo"
    (i.clientInfo.map fun info => .object info.members)).append
      (sublist_optionalMember "initializationOptions" i.initializationOptions)
  exact (hoptional.cons_cons "capabilities").append
    (List.Sublist.refl ["processId", "rootUri", "trace"])

/-- Four members are always there, and two only where there is a value for them. -/
theorem Introduction.mem_names_iff (i : Introduction) (name : String) :
    name ∈ i.members.map Prod.fst ↔
      name ∈ ["processId", "rootUri", "capabilities", "trace"] ∨
        (name = "clientInfo" ∧ i.clientInfo.isSome = true) ∨
        (name = "initializationOptions" ∧ i.initializationOptions.isSome = true) := by
  have hoptional (key : String) (value : Option Json) :
      name ∈ (optionalMember key value).map Prod.fst ↔ name = key ∧ value.isSome = true := by
    cases value <;> simp [optionalMember]
  simp only [members, List.map_append, List.map_cons, List.mem_append, List.mem_cons, hoptional,
    Option.isSome_map, List.map_nil, List.not_mem_nil, or_false]
  tauto

/-- The members of an introduction stand in ascending order, as `Json.ofMembers` puts them. -/
theorem Introduction.ascending_members (i : Introduction) : Json.Ascending i.members := by
  have hnames : ["capabilities", "clientInfo", "initializationOptions", "processId", "rootUri",
      "trace"].Pairwise (· < ·) := by decide
  exact List.pairwise_map.mp (hnames.sublist i.map_fst_members)

namespace Client

/-- The parameters of the request to initialize are the members of `Introduction.of` and no others.
The program lists them in another order and sorts them. -/
theorem initializeParams_eq (config : Config) (options : InitializeOptions) :
    initializeParams config options = .object (Introduction.of config options).members := by
  have hinfo : ClientInfo.toJson = fun info => .object info.members :=
    funext ClientInfo.toJson_eq
  -- The members are put together in another order, in which the optional ones come last.
  have hmove (process root capabilities trace : String × Json) (rest : List (String × Json)) :
      ([process, root, capabilities, trace] ++ rest).Perm
        (capabilities :: rest ++ [process, root, trace]) := by
    have hfront : ([process, root] ++ capabilities :: (trace :: rest)).Perm
        (capabilities :: ([process, root, trace] ++ rest)) := List.perm_middle
    exact hfront.trans (List.perm_append_comm.cons capabilities)
  refine congrArg Json.object (Json.sortMembers_eq_of_perm (Introduction.ascending_members _) ?_)
  rw [hinfo, List.append_assoc]
  exact hmove _ _ _ _ _

example : initializeParams .default ⟨some 7, none, .off⟩ =
    .object [("capabilities", .object []),
      ("clientInfo",
        .object [("name", .string "lsp-sansio-client"), ("version", .string "0.1.0")]),
      ("processId", .number (.integer 7)), ("rootUri", .null), ("trace", .string "off")] := by
  rw [initializeParams_eq]
  rfl

/-- A request is sent and remembered: its frame stands behind the bytes for the server, the
`pending` table keeps it under its id, and it is this very request that is read from the frame. -/
structure Sends (c next : Client) (kind : ClientRequest) (request : Request) : Prop where
  framed : next.outgoing = c.outgoing ++ Frame.encode request.wire
  remembered : next.pendingRequest? request.id = some ⟨kind, request⟩
  arrives : (Message.request request).Arrives

/-- A request whose parameters are not `null` is sent and remembered by `sendRequest`. Parameters
that are `null` would be read as none. -/
theorem sends_sendRequest (c : Client) (kind : ClientRequest) {params : Option Json}
    (hparams : params ≠ some .null) (state : Lifecycle) :
    c.Sends { (c.sendRequest kind params).1 with state } kind
      ⟨.integer c.nextId, kind.method, params⟩ :=
  ⟨rfl, List.lookup_cons_self, Message.arrives_request hparams⟩

/-- The parameters of the request to initialize are in order if the capabilities and the options of
the configuration are. -/
theorem isOrdered_initializeParams {config : Config} (options : InitializeOptions)
    (hcapabilities : config.capabilities.isOrdered = true)
    (hoptions : ∀ j ∈ config.initializationOptions, j.isOrdered = true) :
    (initializeParams config options).isOrdered = true := by
  have hinfo : ∀ j ∈ config.clientInfo.map (fun info => Json.object info.members),
      j.isOrdered = true := by
    intro j hj
    obtain ⟨info, -, rfl⟩ := Option.mem_map.mp hj
    exact info.isOrdered_members
  rw [initializeParams_eq, Json.isOrdered_object_iff]
  refine ⟨Introduction.ascending_members _, ?_⟩
  rw [Introduction.members, List.forall_mem_append, List.forall_mem_cons, List.forall_mem_append]
  refine ⟨⟨hcapabilities, isOrdered_of_mem_optionalMember hinfo,
    isOrdered_of_mem_optionalMember hoptions⟩, ?_⟩
  obtain ⟨processId, rootUri, trace⟩ := options
  cases processId <;> cases rootUri <;> simp [Introduction.of, Json.isOrdered]

/-- A client in the state `uninitialized` sends the request to initialize, and gives back its
number. -/
theorem sendInitialize_eq (c : Client) (h : c.state = .uninitialized)
    (options : InitializeOptions) :
    c.sendInitialize options =
      ({ (c.sendRequest .initialization (some (initializeParams c.config options))).1 with
          state := .awaitingInitializeAck }, .ok (.integer c.nextId)) := by
  rw [sendInitialize, (Lifecycle.require_eq_ok_iff _ _ _).mpr h]
  rfl

/-- A client in the state `normal` sends the request to shut down, and gives back its number. -/
theorem sendShutdown_eq (c : Client) (h : c.state = .normal) :
    c.sendShutdown =
      ({ (c.sendRequest .shutdown none).1 with state := .awaitingShutdownAck },
        .ok (.integer c.nextId)) := by
  rw [sendShutdown, (Lifecycle.require_eq_ok_iff _ _ _).mpr h]
  rfl

/-- A client that stands at its start sends one request when it is asked to initialize. The request
has the members of the introduction for its parameters and no others, all six values are read back
from them, and so different values are never sent as the same parameters. The request that is
remembered under the id that is given back is the one that is sent, and the one that is read from
its frame. A client that works sends and remembers one request when it is asked to shut down, in the
same way, and that has no parameters. -/
theorem introduction_of_sendInitialize (c : Client) (options : InitializeOptions) :
    let params := initializeParams c.config options
    let introduction := Introduction.of c.config options
    (c.state = .uninitialized → ∃ request : Request,
        (c.sendInitialize options).2 = .ok request.id ∧
        request.method = "initialize" ∧ request.params = some params ∧
        c.Sends (c.sendInitialize options).1 .initialization request) ∧
      params = .object introduction.members ∧
      (∀ name, name ∈ introduction.members.map Prod.fst ↔
        name ∈ ["processId", "rootUri", "capabilities", "trace"] ∨
          (name = "clientInfo" ∧ c.config.clientInfo.isSome = true) ∨
          (name = "initializationOptions" ∧ c.config.initializationOptions.isSome = true)) ∧
      Introduction.ofJson params = .ok introduction ∧
      (∀ config' options', initializeParams config' options' = params →
        Introduction.of config' options' = introduction) ∧
      (c.config.capabilities.isOrdered = true →
        (∀ j ∈ c.config.initializationOptions, j.isOrdered = true) → params.isOrdered = true) ∧
      (c.state = .normal → ∃ request : Request,
        c.sendShutdown.2 = .ok request.id ∧
        request.method = "shutdown" ∧ request.params = none ∧
        request.wire = .object
          [versionMember, ("id", request.id.toJson), ("method", .string "shutdown")] ∧
        c.Sends c.sendShutdown.1 .shutdown request) := by
  intro params introduction
  have hread (config : Config) (options : InitializeOptions) :
      Introduction.ofJson (initializeParams config options) =
        .ok (Introduction.of config options) := by
    rw [initializeParams_eq, Introduction.ofJson_members]
  refine ⟨fun hstate => ?_, initializeParams_eq _ _, fun name => ?_, hread _ _,
    fun config' options' heq => ?_, isOrdered_initializeParams options, fun hstate => ?_⟩
  · have hsent := c.sendInitialize_eq hstate options
    have hpresent : some params ≠ some .null := by
      rw [show params = _ from initializeParams_eq _ _]
      exact nofun
    refine ⟨⟨.integer c.nextId, "initialize", some params⟩, ?_, rfl, rfl, ?_⟩
    · rw [hsent]
    · rw [hsent]
      exact sends_sendRequest c .initialization hpresent _
  · exact Introduction.mem_names_iff _ name
  · -- Both introductions are read from the same parameters.
    have hsame := hread config' options'
    rw [heq, hread] at hsame
    exact (Except.ok.inj hsame).symm
  · have hsent := c.sendShutdown_eq hstate
    have hnone : (none : Option Json) ≠ some .null := nofun
    refine ⟨⟨.integer c.nextId, "shutdown", none⟩, ?_, rfl, rfl, rfl, ?_⟩
    · rw [hsent]
    · rw [hsent]
      exact sends_sendRequest c .shutdown hnone _

end Client

end LspSession
