import LspSession.Proofs.Client.Run
import LspSession.Proofs.Frame.Extension

/-!
# `LspSession.Proofs.Client.Faults`: a call that fails leaves the session as it was

A fault in what the server sent, wherever in a batch it stands and however many good documents
stand before it, costs the bytes received and nothing else. A command that the session does not
allow costs nothing at all. `intact_of_error` says so of every client that some calls lead to.

What is thrown away are the bytes of the failing call and those kept from earlier calls, and it is
as if they had never come: the calls that brought them can be left out of the run, and the client
is the same (`run_commands`). They are the last calls of the run that feed bytes, those after which
something was kept every time (`exists_kept`).
-/

set_option autoImplicit false

namespace LspSession.Client

/-! ### Bytes that are kept -/

/-- The call feeds bytes, and is no command, reply or drain. -/
def Operation.isFeed : Operation → Bool
  | .feed _ => true
  | _ => false

/-- The bytes that a call feeds, if it is one that does. -/
def Operation.fedBytes : Operation → Bytes
  | .feed bytes => bytes
  | _ => []

/-- The calls of a list that are no `Operation.isFeed`, in their order. -/
def commands (ops : List Operation) : List Operation := ops.filter fun op => !op.isFeed

/-- The `Operation.fedBytes` of the calls of a list, in their order and without gaps. -/
def fedBytes (ops : List Operation) : Bytes := ops.flatMap Operation.fedBytes

/-- A fault costs the bytes received and nothing else, whether it is one of a frame or of a
document: the client is the one that `discard` leaves. -/
theorem Fed.eq_discard {c next : Client} {bytes : Bytes} {e : ProtocolError}
    (h : Fed c bytes next (.error e)) : next = c.discard := by
  cases h <;> rfl

/-- Bytes that give no event are kept, or there were none. A batch without events has no documents,
and only the empty buffer decodes to none (`Frame.eq_nil_of_documents_nil`). -/
theorem Fed.eq_receive {c next : Client} {bytes : Bytes} (h : Fed c bytes next (.ok [])) :
    next = c.receive bytes := by
  cases h with
  | waiting => rfl
  | accepted hdecode hbatch =>
    rename_i d
    have hnone : d.documents = [] := by
      cases hdocuments : d.documents with
      | nil => rfl
      | cons document rest =>
        rw [hdocuments] at hbatch
        unfold handleAll at hbatch
        split at hbatch
        · cases hbatch
        · split at hbatch <;> cases hbatch
    have hbytes := Frame.eq_nil_of_documents_nil hdecode hnone
    rw [hnone] at hbatch
    cases hbatch
    unfold discard receive
    rw [hbytes]

/-- Bytes that are fed are kept and give no events, or nothing is kept in `received` after them.
This is why what is kept comes from the last calls that feed. -/
theorem Fed.kept_or_nil {c next : Client} {bytes : Bytes}
    {result : Except ProtocolError (List Event)} (h : Fed c bytes next result) :
    result = .ok [] ∨ next.received = [] := by
  cases h with
  | waiting => exact Or.inl rfl
  | misframed | rejected => exact Or.inr rfl
  | accepted _ hbatch => exact Or.inr (handledAll_of_handleAll hbatch).kept.2

/-- A call that feeds no bytes leaves `received` as it is. -/
theorem Performed.keeps {c next : Client} {op : Operation} {outcome : Outcome}
    (h : Performed c op next outcome) (hop : op.isFeed = false) :
    next.received = c.received ∧ op.fedBytes = [] := by
  cases op with
  | feed bytes => cases hop
  | _ => cases h <;> exact ⟨rfl, rfl⟩

/-- A call that feeds no bytes does the same whatever was received: `discard` may come before it or
after it. -/
theorem perform_discard (c : Client) {op : Operation} (h : op.isFeed = false) :
    c.discard.perform op = ((c.perform op).1.discard, (c.perform op).2) := by
  -- Replies look at the state and at the ids that await one, and at no bytes.
  have hreply (operation : String) (response : Response) :
      c.discard.reply operation response =
        ((c.reply operation response).1.discard, (c.reply operation response).2) := by
    have hrequire : c.discard.requireAwaiting operation response.id =
        c.requireAwaiting operation response.id := rfl
    unfold reply
    rw [hrequire]
    cases c.requireAwaiting operation response.id <;> rfl
  cases op with
  | feed bytes => cases h
  | drain => rfl
  | sendInitialize options =>
    simp only [perform, sendInitialize, show c.discard.state = c.state from rfl]
    cases c.state.require "initialize" .uninitialized <;> rfl
  | sendShutdown =>
    simp only [perform, sendShutdown, show c.discard.state = c.state from rfl]
    cases c.state.require "shutdown" .normal <;> rfl
  | sendExit =>
    simp only [perform, sendExit, show c.discard.state = c.state from rfl]
    cases c.state.require "exit" .shutdown <;> rfl
  | replyToShowMessageRequest id action =>
    simp only [perform, replyToShowMessageRequest, hreply]
  | replyWithError id code message => simp only [perform, replyWithError, hreply]
  | replyMethodNotFound id method => simp only [perform, replyMethodNotFound, hreply]

/-! ### Calls that can be left out -/

/-- No bytes fed in a run give an event or an error. All that comes of them is that they are kept.
-/
def OnlyKeeps (trace : Trace) : Prop :=
  ∀ step ∈ trace, step.1.isFeed = true → step.2 = .fed (.ok [])

/-- If a run `OnlyKeeps` the bytes fed in it, then the calls that feed them can be left out. The
client is then the same but for what is kept of them, and each of the other calls gives back the
same. -/
theorem run_commands (c : Client) (ops : List Operation) (h : OnlyKeeps (c.run ops).2) :
    (c.run ops).1.received = c.received ++ fedBytes ops ∧
      c.discard.run (commands ops) =
        ((c.run ops).1.discard, (c.run ops).2.filter fun step => !step.1.isFeed) := by
  induction ops generalizing c with
  | nil => exact ⟨(List.append_nil _).symm, rfl⟩
  | cons op rest ih =>
    rw [run_cons] at h ⊢
    obtain ⟨hreceived, hrun⟩ := ih (c.perform op).1
      fun step hstep => h step (List.mem_cons_of_mem _ hstep)
    have hhead := h (op, (c.perform op).2) List.mem_cons_self
    unfold fedBytes at hreceived ⊢
    unfold commands at hrun ⊢
    cases hop : op.isFeed with
    | true =>
      cases op with
      | feed bytes =>
        -- Bytes that are kept are all that tells the two runs apart.
        have hkeeps : (c.feed bytes).2 = .ok [] := Outcome.fed.inj (hhead rfl)
        have hfed := fed_feed c bytes
        rw [hkeeps] at hfed
        have hnext : (c.perform (.feed bytes)).1 = c.receive bytes := hfed.eq_receive
        rw [hnext] at hreceived hrun ⊢
        rw [List.filter_cons_of_neg (by simp [hop]), List.filter_cons_of_neg (by simp [hop])]
        refine ⟨?_, hrun⟩
        rw [hreceived, List.flatMap_cons, ← List.append_assoc]
        rfl
      | _ => cases hop
    | false =>
      -- Both runs make the call, and it neither reads nor writes what is kept.
      have hcommute := perform_discard c hop
      rw [List.filter_cons_of_pos (by simp [hop]), List.filter_cons_of_pos (by simp [hop]),
        run_cons, hcommute, hrun]
      refine ⟨?_, rfl⟩
      obtain ⟨hsame, hnone⟩ := (performed_perform c op).keeps hop
      rw [hreceived, hsame, List.flatMap_cons, hnone, List.nil_append]

/-- Either the bytes fed in a run are only kept, or the run divides in two: after `before` nothing
is kept, and in `after` the bytes fed are only kept. -/
theorem onlyKeeps_or_exists (c : Client) (ops : List Operation) :
    OnlyKeeps (c.run ops).2 ∨ ∃ before after, ops = before ++ after ∧
      (c.run before).1.received = [] ∧ OnlyKeeps ((c.run before).1.run after).2 := by
  induction ops generalizing c with
  | nil => exact Or.inl fun step hstep => absurd hstep List.not_mem_nil
  | cons op rest ih =>
    rcases ih (c.perform op).1 with hrest | ⟨before, after, hops, hnone, hafter⟩
    · -- Whether the second part starts at this call or behind it is up to the call.
      have hhead : (op.isFeed = true → (c.perform op).2 = .fed (.ok [])) ∨
          (c.perform op).1.received = [] := by
        cases op with
        | feed bytes =>
          rcases (fed_feed c bytes).kept_or_nil with hkept | hnone
          · exact Or.inl fun _ => congrArg Outcome.fed hkept
          · exact Or.inr hnone
        | _ => exact Or.inl fun hfeed => by cases hfeed
      rcases hhead with hkept | hnone
      · left
        rw [run_cons]
        intro step hstep
        rcases List.mem_cons.mp hstep with rfl | hstep
        · exact hkept
        · exact hrest step hstep
      · exact Or.inr ⟨[op], rest, rfl, hnone, hrest⟩
    · refine Or.inr ⟨op :: before, after, by rw [hops, List.cons_append], ?_, ?_⟩
      · rw [run_cons]
        exact hnone
      · rw [run_cons]
        exact hafter

/-- A run from a client that keeps nothing divides in two: after `before` nothing is kept, and in
`after` the bytes fed are only kept. The first part may be empty. -/
theorem exists_kept {c : Client} (hempty : c.received = []) (ops : List Operation) :
    ∃ before after, ops = before ++ after ∧ (c.run before).1.received = [] ∧
      OnlyKeeps ((c.run before).1.run after).2 := by
  rcases onlyKeeps_or_exists c ops with hkept | hparts
  · exact ⟨[], ops, rfl, hempty, hkept⟩
  · exact hparts

/-! ### Errors -/

/-- The bytes received so far can be thrown away by leaving out the calls that brought them. The run
without them ends with the client that `discard` makes of the one that has them. -/
theorem exists_run_eq_discard (config : Config) (ops : List Operation) :
    ∃ before after, ops = before ++ after ∧
      fedBytes after = ((ofConfig config).run ops).1.received ∧
      OnlyKeeps (((ofConfig config).run before).1.run after).2 ∧
      ((ofConfig config).run (before ++ commands after)).1 =
        ((ofConfig config).run ops).1.discard := by
  obtain ⟨before, after, rfl, hempty, hkept⟩ := exists_kept (c := ofConfig config) rfl ops
  obtain ⟨hreceived, hrun⟩ := run_commands _ after hkept
  rw [hempty, List.nil_append] at hreceived
  -- Nothing is kept at the cut, so the second run starts from the client of the first.
  rw [discard_of_received_nil hempty] at hrun
  refine ⟨before, after, rfl, ?_, hkept, ?_⟩
  · rw [run_append]
    exact hreceived.symm
  · rw [run_append, run_append, hrun]

/-- A command with an `Outcome.refusal?` changes nothing, in no field of the client. -/
theorem perform_of_refusal {c : Client} {op : Operation} {e : StateError}
    (h : (c.perform op).2.refusal? = some e) : (c.perform op).1 = c := by
  have hperformed := performed_perform c op
  generalize (c.perform op).1 = next at hperformed
  generalize (c.perform op).2 = outcome at hperformed h
  cases hperformed with
  | fed | drained | requested | exited | replied => cases h
  | refused => rfl

/-- Bytes that `Frame.decode` finds `.incomplete` are kept, and nothing else comes of them. -/
theorem feed_of_incomplete {c : Client} {bytes : Bytes} {expected : Option Nat} {actual : Nat}
    (h : Frame.decode c.config.maxMessageSize (c.received ++ bytes) =
      .error (.incomplete expected actual)) :
    c.feed bytes = ({ c with received := c.received ++ bytes }, .ok []) :=
  feed_of_error h

/-- A frame that stops short is no error of feeding, so no caller ever sees `FrameError.incomplete`.
-/
theorem feed_ne_incomplete (c : Client) (bytes : Bytes) (expected : Option Nat) (actual : Nat) :
    (c.feed bytes).2 ≠ .error (.frame (.incomplete expected actual)) := by
  intro h
  have hfed := fed_feed c bytes
  rw [h] at hfed
  generalize (c.feed bytes).1 = next at hfed
  -- A frame error comes from the decoder, where it is not one of stopping short, or else from no
  -- document.
  cases hfed with
  | misframed hdecode hfinal => cases hfinal
  | rejected hdecode hbatch => exact handleAll_ne_frame _ _ _ hbatch

/-- An error leaves the session intact, whatever calls led to it. Bytes that give an error cost
what is kept of the received bytes and nothing else, and every later run goes as if the calls that
brought these bytes had not been made. A frame that stops short gives no error, and only adds to
what is kept. A command that gives an error changes nothing. -/
theorem intact_of_error {config : Config} {ops : List Operation} {c : Client}
    (hc : ((ofConfig config).run ops).1 = c) :
    (∀ bytes e, (c.feed bytes).2 = .error e →
      (c.feed bytes).1 = { c with received := [] } ∧
        ∃ before after, ops = before ++ after ∧ fedBytes after = c.received ∧
          OnlyKeeps (((ofConfig config).run before).1.run after).2 ∧
          ∀ later, (c.feed bytes).1.run later =
            ((ofConfig config).run (before ++ commands after)).1.run later) ∧
      (∀ bytes expected actual,
        (c.feed bytes).2 ≠ .error (.frame (.incomplete expected actual)) ∧
          (Frame.decode c.config.maxMessageSize (c.received ++ bytes) =
              .error (.incomplete expected actual) →
            c.feed bytes = ({ c with received := c.received ++ bytes }, .ok []))) ∧
      ∀ op e, (c.perform op).2.refusal? = some e → (c.perform op).1 = c := by
  refine ⟨?_, ?_, fun op e => perform_of_refusal⟩
  -- Why bytes are refused does not matter here: the client after an error is always the same.
  · intro bytes e herror
    have hfed := fed_feed c bytes
    rw [herror] at hfed
    have hnext := hfed.eq_discard
    obtain ⟨before, after, hops, hbytes, hkept, hrun⟩ := exists_run_eq_discard config ops
    rw [hc] at hbytes hrun
    refine ⟨hnext, before, after, hops, hbytes, hkept, fun later => ?_⟩
    rw [hnext, hrun]
  · intro bytes expected actual
    exact ⟨feed_ne_incomplete c bytes expected actual, feed_of_incomplete⟩

/-- `intact_of_error` where a byte is kept, and with it the next bytes make up a header that holds
no length. Then the client is new again. -/
theorem intact_of_header_without_length :
    ((ofConfig .default).run [.feed [0x43]]).1 = Client.new.receive [0x43] ∧
      ((Client.new.receive [0x43]).feed [0x78, 0x0D, 0x0A, 0x0D, 0x0A]).2 =
        .error (.frame (.lineWithoutColon "Cx")) ∧
      ((Client.new.receive [0x43]).feed [0x78, 0x0D, 0x0A, 0x0D, 0x0A]).1 = Client.new := by
  have hshort : Frame.decode Frame.defaultLimit [0x43] = .error (.incomplete none 1) :=
    Frame.decode_of_split_error (List.cons_ne_nil _ _) rfl
  have hbad : Frame.decode Frame.defaultLimit [0x43, 0x78, 0x0D, 0x0A, 0x0D, 0x0A] =
      .error (.lineWithoutColon "Cx") :=
    Frame.decode_of_split_error (List.cons_ne_nil _ _) rfl
  have hkept : ((ofConfig .default).run [.feed [0x43]]).1 = Client.new.receive [0x43] := by
    show (Client.new.feed [0x43]).1 = _
    rw [feed_of_error hshort]
    rfl
  have herror : ((Client.new.receive [0x43]).feed [0x78, 0x0D, 0x0A, 0x0D, 0x0A]).2 =
      .error (.frame (.lineWithoutColon "Cx")) := by
    rw [feed_of_error hbad]
    rfl
  exact ⟨hkept, herror, ((intact_of_error hkept).1 _ _ herror).1⟩

end LspSession.Client
