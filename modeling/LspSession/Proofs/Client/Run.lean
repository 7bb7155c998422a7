import LspSession.Client.Command
import LspSession.Proofs.Client.Receive
import LspSession.Proofs.Lifecycle

/-!
# `LspSession.Proofs.Client.Run`: everything a caller can do with a client

An `Operation` is one call of the client's interface that changes it: bytes fed, bytes drained, the
three lifecycle commands and the three replies. `perform` makes the call and gives its `Outcome`,
and `run` makes one call after another and keeps a `Trace` of them. A client is `Reachable` when
some calls lead to it from a new client of a valid configuration. Nothing is assumed of the order
of the calls, of their arguments or of the bytes.

`performed_perform` says once what a call can do. The two requests of a client differ in their
names, in where they are allowed and where they lead, and in nothing else. The same holds of the
three replies.
-/

set_option autoImplicit false

namespace LspSession

namespace Client

/-! ### Operations -/

/-- A call of the client's interface, with its arguments: what a caller can do that changes a
client. Looking at a client changes nothing and is left out. -/
inductive Operation where
  | feed (bytes : Bytes)
  | drain
  | sendInitialize (options : InitializeOptions)
  | sendShutdown
  | sendExit
  | replyToShowMessageRequest (id : RequestId) (action : Option ActionItem)
  | replyWithError (id : RequestId) (code : Int32) (message : String)
  | replyMethodNotFound (id : RequestId) (method : String)

/-- What a call gives back, by the kind of the call: a result of feeding, the bytes drained, the id
of a request, or nothing. The last two can be refusals. -/
inductive Outcome where
  | fed (result : Except ProtocolError (List Event))
  | drained (bytes : Bytes)
  | requested (result : Except StateError RequestId)
  | done (result : Except StateError Unit)

/-- Why the session did not allow a command, if that is what came of it. An error of `feed` is the
fault of the server and no refusal. -/
def Outcome.refusal? : Outcome → Option StateError
  | .requested (.error e) | .done (.error e) => some e
  | _ => none

/-- Makes a call: the client after it, and the `Outcome`. Each operation stands for the function of
the same name. -/
def perform (c : Client) : Operation → Client × Outcome
  | .feed bytes => ((c.feed bytes).1, .fed (c.feed bytes).2)
  | .drain => (c.drainOutgoing.1, .drained c.drainOutgoing.2)
  | .sendInitialize options =>
    ((c.sendInitialize options).1, .requested (c.sendInitialize options).2)
  | .sendShutdown => (c.sendShutdown.1, .requested c.sendShutdown.2)
  | .sendExit => (c.sendExit.1, .done c.sendExit.2)
  | .replyToShowMessageRequest id action =>
    ((c.replyToShowMessageRequest id action).1, .done (c.replyToShowMessageRequest id action).2)
  | .replyWithError id code message =>
    ((c.replyWithError id code message).1, .done (c.replyWithError id code message).2)
  | .replyMethodNotFound id method =>
    ((c.replyMethodNotFound id method).1, .done (c.replyMethodNotFound id method).2)

/-- The calls made on a client, the first of them first, and what each gave back. -/
abbrev Trace := List (Operation × Outcome)

/-- Makes one call after another, each on the client that the one before it left, and keeps the
`Trace` of them. -/
def run (c : Client) : List Operation → Client × Trace
  | [] => (c, [])
  | op :: rest =>
    let (next, outcome) := c.perform op
    let (last, trace) := next.run rest
    (last, (op, outcome) :: trace)

/-- One call more in front of a run: `perform` for that call, then `run` for the others. This is the
step of every induction on a run. -/
theorem run_cons (c : Client) (op : Operation) (rest : List Operation) :
    c.run (op :: rest) =
      (((c.perform op).1.run rest).1,
        (op, (c.perform op).2) :: ((c.perform op).1.run rest).2) := rfl

/-- A run may be cut anywhere: `first` is run by itself, and `second` on the client that this
leaves. The traces stand one behind the other. -/
theorem run_append (c : Client) (first second : List Operation) :
    c.run (first ++ second) =
      (((c.run first).1.run second).1, (c.run first).2 ++ ((c.run first).1.run second).2) := by
  induction first generalizing c with
  | nil => rfl
  | cons op rest ih => rw [List.cons_append, run_cons, ih, run_cons]; rfl

/-- The clients that some calls lead to from a new client of a valid configuration. Nothing is
assumed of the order of the calls, of their arguments or of the bytes. -/
inductive Reachable : Client → Prop where
  | start {config : Config} {c : Client} (h : withConfig config = .ok c) : Reachable c
  | perform {c : Client} (h : Reachable c) (op : Operation) : Reachable (c.perform op).1

/-! ### What a call can do -/

/-- The request that a call asks for, with its parameters: `sendInitialize` and `sendShutdown` each
ask for one, all other calls for none. -/
def Operation.request? (config : Config) : Operation → Option (ClientRequest × Option Json)
  | .sendInitialize options => some (.initialization, some (initializeParams config options))
  | .sendShutdown => some (.shutdown, none)
  | _ => none

/-- The response that a call asks for. The three replies differ in what they put into it, and all
other calls ask for none. -/
def Operation.response? : Operation → Option Response
  | .replyToShowMessageRequest id action =>
    some (.success id (orNull (action.map ActionItem.toJson)))
  | .replyWithError id code message => some (.failed id code message none)
  | .replyMethodNotFound id method => some (.methodNotFound id method)
  | _ => none

/-- What a call does to the client, and what it gives back. There is one constructor for each way in
which a client can change, so the two requests share one, and so do the three replies. -/
inductive Performed (c : Client) : Operation → Client → Outcome → Prop where
  | fed {bytes : Bytes} {next : Client} {result : Except ProtocolError (List Event)}
      (h : Fed c bytes next result) :
    Performed c (.feed bytes) next (.fed result)
  | drained : Performed c .drain { c with outgoing := [] } (.drained c.outgoing)
  /-- A request is sent under the next number. -/
  | requested {op : Operation} {kind : ClientRequest} {params : Option Json}
      (hop : op.request? c.config = some (kind, params)) (hstate : c.state = kind.source) :
    Performed c op { (c.sendRequest kind params).1 with state := kind.target }
      (.requested (.ok (.integer c.nextId)))
  | exited (hstate : c.state = .shutdown) :
    Performed c .sendExit { c.send exitNotification.wire with state := .exited } (.done (.ok ()))
  /-- A response is sent to a request of the server that awaits one. -/
  | replied {op : Operation} {response : Response} (hop : op.response? = some response)
      (hstate : c.state ≠ .exited) (hawaiting : c.awaitingReply.contains response.id = true) :
    Performed c op
      { c.send response.wire with awaitingReply := c.awaitingReply.erase response.id }
      (.done (.ok ()))
  /-- The session does not allow the command, and nothing changes. -/
  | refused {op : Operation} {outcome : Outcome} {e : StateError}
      (h : outcome.refusal? = some e) :
    Performed c op c outcome

/-- A command that needs the session to stand at `expected` finds it there, or `require` refuses it
with an error. The error is not needed to know that nothing changes. -/
theorem require_cases (current expected : Lifecycle) (operation : String) :
    (current = expected ∧ current.require operation expected = .ok ()) ∨
      current ≠ expected ∧ ∃ e, current.require operation expected = .error e := by
  by_cases h : current = expected
  · exact Or.inl ⟨h, (Lifecycle.require_eq_ok_iff _ _ _).mpr h⟩
  · refine Or.inr ⟨h, ?_⟩
    unfold Lifecycle.require
    rw [if_neg h]
    exact ⟨_, rfl⟩

/-- A reply is sent if the session has not ended and the server awaits it, and is refused otherwise.
The three operations that reply differ in `response` alone. -/
private theorem performed_reply {c : Client} {op : Operation} {response : Response}
    (operation : String) (hop : op.response? = some response) :
    Performed c op (c.reply operation response).1 (.done (c.reply operation response).2) := by
  unfold reply requireAwaiting
  by_cases hstate : c.state.isTerminal = true
  · rw [if_pos hstate]
    exact .refused rfl
  · rw [if_neg hstate]
    cases hawaiting : c.awaitingReply.contains response.id with
    | false => exact .refused rfl
    | true =>
      have hnot : c.state ≠ .exited := fun h => hstate (by rw [h]; rfl)
      exact .replied hop hnot hawaiting

/-- The inversion of `perform`: every call does one of the six in `Performed`. Every invariant of a
run is a case analysis on these, with one induction for the run. -/
theorem performed_perform (c : Client) (op : Operation) :
    Performed c op (c.perform op).1 (c.perform op).2 := by
  cases op with
  | feed bytes => exact .fed (fed_feed c bytes)
  | drain => exact .drained
  | sendInitialize options =>
    rcases require_cases c.state .uninitialized "initialize" with ⟨hstate, hok⟩ | ⟨-, e, herror⟩
    · simp only [perform, sendInitialize, hok]
      exact @Performed.requested c _ .initialization _ rfl hstate
    · simp only [perform, sendInitialize, herror]
      exact .refused rfl
  | sendShutdown =>
    rcases require_cases c.state .normal "shutdown" with ⟨hstate, hok⟩ | ⟨-, e, herror⟩
    · simp only [perform, sendShutdown, hok]
      exact @Performed.requested c _ .shutdown _ rfl hstate
    · simp only [perform, sendShutdown, herror]
      exact .refused rfl
  | sendExit =>
    rcases require_cases c.state .shutdown "exit" with ⟨hstate, hok⟩ | ⟨-, e, herror⟩
    · simp only [perform, sendExit, hok]
      exact .exited hstate
    · simp only [perform, sendExit, herror]
      exact .refused rfl
  | replyToShowMessageRequest id action => exact performed_reply _ rfl
  | replyWithError id code message => exact performed_reply _ rfl
  | replyMethodNotFound id method => exact performed_reply _ rfl

end Client

end LspSession
