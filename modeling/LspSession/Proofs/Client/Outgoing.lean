import LspSession.Proofs.Client.Run

/-!
# `LspSession.Proofs.Client.Outgoing`: the bytes that a client sends

Every call may write to the one buffer of bytes for the server, and the caller may empty it between
any two of them. `Trace.messages` reads off a trace which messages ought to have been sent, from
the arguments and the answers of the calls alone. `drained_append_outgoing` says that the bytes
taken so far, with those still waiting, are the frames of exactly these messages in their order.
So no frame is partial, lost, sent twice or out of place, and a call that fails sends nothing.

The law of one call is `Performed.drained_append`, and a run adds the laws of its calls up
(`run_drained_append`). It holds from every client on, with the bytes that wait there in front.
-/

set_option autoImplicit false

namespace LspSession

/-- The message that a client sends when it gives an event: the notification `initialized` that
follows a successful initialization, and none otherwise. -/
def Event.message? : Event → Option Message
  | .initialized _ => some (.notification ⟨"initialized", some (.object [])⟩)
  | _ => none

/-- A call of the server (`Event.isCall`) is followed by no message, since only the success of an
initialization is. A request of the server waits for the caller to reply. -/
theorem Event.message?_of_isCall {event : Event} (h : event.isCall = true) :
    event.message? = none := by
  cases event with
  | initialized capabilities => cases h
  | _ => rfl

/-- Messages as frames one after another, each the `Frame.encode` of what the message is written as.
-/
def Message.frames (messages : List Message) : Bytes :=
  messages.flatMap fun m => Frame.encode m.wire

/-- `Message.frames` of messages in a row are their frames in a row, with nothing between them. -/
theorem Message.frames_append (first second : List Message) :
    frames (first ++ second) = frames first ++ frames second := List.flatMap_append

/-- No frame is without bytes, so no bytes are the frames of no messages. -/
theorem Message.eq_nil_of_frames {messages : List Message} (h : frames messages = []) :
    messages = [] := by
  cases messages with
  | nil => rfl
  | cons m rest =>
    rw [frames, List.flatMap_cons, List.append_eq_nil_iff, Frame.encode, Frame.wrap,
      List.append_eq_nil_iff, List.append_eq_nil_iff] at h
    -- The header alone has a line end.
    exact absurd h.1.1.2 (List.cons_ne_nil _ _)

namespace Client

/-! ### What a trace says -/

/-- The messages that a call sends, by its arguments and what it gave back. The client is not looked
at: an error sends nothing, and success sends what the arguments say. -/
def Operation.messages (config : Config) : Operation → Outcome → List Message
  | .feed _, .fed (.ok events) => events.filterMap Event.message?
  | .sendInitialize options, .requested (.ok id) =>
    [.request ⟨id, "initialize", some (initializeParams config options)⟩]
  | .sendShutdown, .requested (.ok id) => [.request ⟨id, "shutdown", none⟩]
  | .sendExit, .done (.ok ()) => [.notification ⟨"exit", none⟩]
  | .replyToShowMessageRequest id action, .done (.ok ()) =>
    [.response (.success id (orNull (action.map ActionItem.toJson)))]
  | .replyWithError id code message, .done (.ok ()) =>
    [.response (.failed id code message none)]
  | .replyMethodNotFound id method, .done (.ok ()) => [.response (.methodNotFound id method)]
  | _, _ => []

/-- The bytes that a call took from the client. Only `.drain` takes any. -/
def Outcome.taken : Outcome → Bytes
  | .drained bytes => bytes
  | _ => []

/-- The `Operation.messages` of the calls of a trace, in the order of the calls. -/
def Trace.messages (config : Config) (trace : Trace) : List Message :=
  trace.flatMap fun step => step.1.messages config step.2

/-- The `Outcome.taken` of the calls of a trace, in the order of the calls. -/
def Trace.taken (trace : Trace) : Bytes := trace.flatMap fun step => step.2.taken

/-! ### One call -/

/-- A document queues the frame of the message that its event calls for (`Event.message?`), behind
the bytes that wait already. -/
theorem Handled.outgoing_eq {c next : Client} {event : Event} (h : Handled c next event) :
    next.outgoing = c.outgoing ++ Message.frames event.message?.toList := by
  cases h with
  | call hcall =>
    rw [Event.message?_of_isCall hcall]
    exact (List.append_nil _).symm
  | initialized capabilities hpending =>
    show Frame.append c.outgoing initializedNotification.wire = _
    rw [Frame.append]
    exact congrArg _ (List.append_nil _).symm
  | initializeFailed | shutdownAcked | shutdownFailed => exact (List.append_nil _).symm

/-- A batch that is `HandledAll` queues the frames that its events call for, in the order of its
documents. -/
theorem HandledAll.outgoing_eq {c last : Client} {events : List Event}
    (h : HandledAll c last events) :
    last.outgoing = c.outgoing ++ Message.frames (events.filterMap Event.message?) := by
  induction h with
  | nil c => exact (List.append_nil _).symm
  | cons head tail ih =>
    rw [ih, head.outgoing_eq, List.append_assoc, filterMap_cons_eq_append, Message.frames,
      Message.frames, Message.frames, ← List.flatMap_append]

/-- A call with an `Outcome.refusal?` takes no bytes and sends no message, whatever the call is. -/
theorem Outcome.silent_of_refusal {outcome : Outcome} {e : StateError}
    (h : outcome.refusal? = some e) (config : Config) (op : Operation) :
    outcome.taken = [] ∧ op.messages config outcome = [] := by
  cases outcome with
  | fed result | drained bytes => cases h
  | requested result | done result =>
    cases result with
    | ok value => cases h
    | error e => cases op <;> exact ⟨rfl, rfl⟩

/-- The law of one call, by `Performed`: the bytes it takes, with those waiting after it, are the
bytes that waited before it and the frames of the messages that it sends. -/
theorem Performed.drained_append {c next : Client} {op : Operation} {outcome : Outcome}
    (h : Performed c op next outcome) :
    outcome.taken ++ next.outgoing =
      c.outgoing ++ Message.frames (op.messages c.config outcome) := by
  -- One message queued is one frame behind the bytes that waited.
  have hone (message : Message) :
      Frame.append c.outgoing message.wire = c.outgoing ++ Message.frames [message] := by
    rw [Frame.append, Message.frames, List.flatMap_cons, List.flatMap_nil, List.append_nil]
  have hnone : c.outgoing = c.outgoing ++ Message.frames [] := (List.append_nil _).symm
  cases h with
  | fed h =>
    cases h with
    | waiting | misframed | rejected => exact hnone
    | accepted _ hbatch => exact (handledAll_of_handleAll hbatch).outgoing_eq
  | drained => rfl
  -- A call that asks for a request is one of two, and each writes the request that its trace says.
  | requested hop hstate =>
    cases op with
    | sendInitialize options =>
      cases hop
      exact hone (.request _)
    | sendShutdown =>
      cases hop
      exact hone (.request _)
    | _ => cases hop
  | exited hstate => exact hone (.notification _)
  | replied hop hstate hawaiting =>
    cases op with
    | replyToShowMessageRequest | replyWithError | replyMethodNotFound =>
      cases hop
      exact hone (.response _)
    | _ => cases hop
  -- The outcome alone says that nothing was taken or sent; which call it was does not matter.
  | refused h =>
    obtain ⟨htaken, hmessages⟩ := Outcome.silent_of_refusal h c.config op
    rw [htaken, hmessages]
    exact hnone

/-! ### Runs -/

/-- No call touches `Client.config`, so the parameters of a request to initialize are the same at
all times. -/
theorem Performed.config_eq {c next : Client} {op : Operation} {outcome : Outcome}
    (h : Performed c op next outcome) : next.config = c.config := by
  cases h with
  | fed h =>
    cases h with
    | waiting | misframed | rejected => rfl
    | accepted _ hbatch => exact (handledAll_of_handleAll hbatch).kept.1
  | drained | requested | exited | replied | refused => rfl

/-- No `run` touches the configuration, since none of its calls does. -/
theorem run_config_eq (c : Client) (ops : List Operation) : (c.run ops).1.config = c.config := by
  induction ops generalizing c with
  | nil => rfl
  | cons op rest ih => exact (ih (c.perform op).1).trans (performed_perform c op).config_eq

/-- The bytes a run takes, with those waiting after it, are the bytes that waited before it and the
frames of the messages that its calls send. The induction adds up `Performed.drained_append`. -/
theorem run_drained_append (c : Client) (ops : List Operation) :
    (c.run ops).2.taken ++ (c.run ops).1.outgoing =
      c.outgoing ++ Message.frames ((c.run ops).2.messages c.config) := by
  induction ops generalizing c with
  | nil => exact (List.append_nil _).symm
  | cons op rest ih =>
    have hstep := performed_perform c op
    have hone := hstep.drained_append
    -- The bytes that wait after the first call are those that wait before the rest.
    have hrest := ih (c.perform op).1
    rw [hstep.config_eq] at hrest
    rw [run_cons]
    simp only [Trace.taken, Trace.messages, Message.frames, List.flatMap_cons,
      List.flatMap_append] at hone hrest ⊢
    rw [List.append_assoc, hrest, ← List.append_assoc, hone, List.append_assoc]

/-- From a new client on, the bytes taken so far with those still waiting are the frames of
`Trace.messages`, the messages that the trace calls for, in the order of the calls. -/
theorem drained_append_outgoing (config : Config) (ops : List Operation) :
    ((ofConfig config).run ops).2.taken ++ ((ofConfig config).run ops).1.outgoing =
      Message.frames (((ofConfig config).run ops).2.messages config) :=
  run_drained_append (ofConfig config) ops

end Client

end LspSession
