import Mathlib.Data.List.Induction
import LspSession.Proofs.Client.Chunks
import LspSession.Proofs.Client.Course
import LspSession.Proofs.Client.Faults
import LspSession.Proofs.Client.InTurn
import LspSession.Proofs.Client.Outgoing

/-!
# `LspSession.Proofs.Client.Input`: every byte that is fed is accounted for

A client keeps the bytes of a frame that stops short and throws away those of the frames that it has
taken in. `input_of_run` says that nothing else happens to a byte before a fault. Take the bytes fed
since the client was created, or since feeding failed for the last time (`StartsAnew`). They are
whole frames and then what is kept. The documents of these frames are the ones whose events the
calls gave back. And the bytes as one piece decode, or stop short just where what is kept does: a
fault among them would have been reported by then, however the stream was cut.

The invariant is `AccountsFor`. A call that reports no fault carries it on (`AccountsFor.perform`):
bytes that stop short go to what is kept, and bytes that complete frames continue those of the calls
before. What is kept is nothing or it stops short (`Settled`), so how the whole decodes is read off
what is kept (`AccountsFor.decode_cases`).
-/

set_option autoImplicit false

namespace LspSession.Client

/-! ### What the calls feed and take in -/

/-- The bytes that a call feeds are at fault, or with them those kept before. A frame that stops
short (`.incomplete`) is no fault. -/
def Outcome.isFault : Outcome → Bool
  | .fed (.error _) => true
  | _ => false

/-- A run is cut where its input starts anew: at its start, or behind a call whose bytes are at
fault. No later bytes are, so `after` holds the input of the session as it stands. -/
structure StartsAnew (c : Client) (before after : List Operation) : Prop where
  start : before = [] ∨ ∃ earlier bytes e,
    before = earlier ++ [.feed bytes] ∧ ((c.run earlier).1.feed bytes).2 = .error e
  no_fault : ∀ step ∈ ((c.run before).1.run after).2, step.2.isFault = false

/-- A call is at fault exactly if it is a `.feed` and fails. Refused commands are no faults of the
input. -/
theorem isFault_perform_iff {c : Client} {op : Operation} :
    (c.perform op).2.isFault = true ↔
      ∃ bytes e, op = .feed bytes ∧ (c.feed bytes).2 = .error e := by
  cases op with
  | feed bytes =>
    show (Outcome.fed (c.feed bytes).2).isFault = true ↔ _
    cases hresult : (c.feed bytes).2 with
    | error e => exact iff_of_true rfl ⟨bytes, e, rfl, hresult⟩
    | ok events =>
      refine iff_of_false Bool.false_ne_true ?_
      rintro ⟨_, e, hop, herror⟩
      cases hop
      cases hresult.symm.trans herror
  | _ => exact iff_of_false Bool.false_ne_true fun ⟨_, _, hop, _⟩ => nomatch hop

/-- The documents whose events a call gives back: those that its bytes complete, if the batch is
accepted. -/
def Operation.documents (c : Client) : Operation → List Json
  | .feed bytes =>
    match Frame.decode c.config.maxMessageSize (c.received ++ bytes), (c.feed bytes).2 with
    | .ok d, .ok _ => d.documents
    | _, _ => []
  | _ => []

/-- The documents whose events the calls of a run give back, in their order. -/
def documents (c : Client) : List Operation → List Json
  | [] => []
  | op :: rest => op.documents c ++ (c.perform op).1.documents rest

/-- Bytes that `Frame.decode` refuses complete no documents. -/
theorem Operation.documents_of_error {c : Client} {bytes : Bytes} {e : FrameError}
    (hdecode : Frame.decode c.config.maxMessageSize (c.received ++ bytes) = .error e) :
    (Operation.feed bytes).documents c = [] := by
  simp only [Operation.documents, hdecode]

/-- Bytes that decode and are accepted complete the documents that `Frame.decode` finds in them. -/
theorem Operation.documents_of_accepted {c : Client} {bytes : Bytes} {d : Frame.Decoded}
    {events : List Event}
    (hdecode : Frame.decode c.config.maxMessageSize (c.received ++ bytes) = .ok d)
    (haccepted : (c.feed bytes).2 = .ok events) :
    (Operation.feed bytes).documents c = d.documents := by
  simp only [Operation.documents, hdecode, haccepted]

/-- What a document means does not depend on what was received, so `discard` leaves `eventOf` as it
is. -/
theorem eventOf_discard (c : Client) : c.discard.eventOf = c.eventOf := by
  funext document
  have hvalid : c.discard.validateOne [] document = c.validateOne [] document :=
    validateOne_congr (fun _ => rfl) document
  unfold eventOf handle
  rw [hvalid]
  cases c.validateOne [] document with
  | error e => rfl
  | ok incoming => exact congrArg Except.ok (event_apply c.discard c incoming)

/-- The events that a call gives back are those of its documents, each as the client before the call
takes it alone. -/
theorem map_events_perform (c : Client) (op : Operation) :
    (c.perform op).2.events.map Except.ok = (op.documents c).map c.eventOf := by
  cases op with
  | feed bytes =>
    have hfed := fed_feed c bytes
    show (Outcome.fed (c.feed bytes).2).events.map Except.ok = _
    cases hresult : (c.feed bytes).2 with
    | error e =>
      -- An error gives no events, so no documents are counted.
      have hnone : (Operation.feed bytes).documents c = [] := by
        simp only [Operation.documents, hresult]
        split
        · next h => cases h
        · rfl
      rw [hnone]
      rfl
    | ok events =>
      rw [hresult] at hfed
      generalize (c.feed bytes).1 = next at hfed
      cases hfed with
      | waiting hdecode =>
        rw [Operation.documents_of_error hdecode]
        rfl
      | accepted hdecode hbatch =>
        rw [Operation.documents_of_accepted hdecode hresult, ← eventOf_discard]
        exact map_event_of_takenInTurn (takenInTurn_iff.mpr hbatch)
  | _ => rfl

/-! ### The invariant -/

/-- Bytes are accounted for by `whole` frames, which carry the documents, and by what is kept behind
them. -/
def AccountsFor (c : Client) (input : Bytes) (documents : List Json) : Prop :=
  ∃ whole, input = whole ++ c.received ∧
    Frame.decode c.config.maxMessageSize whole = .ok ⟨documents, whole.length⟩

/-- A client that keeps nothing `AccountsFor` no bytes and no documents. -/
theorem accountsFor_nil {c : Client} (hempty : c.received = []) : c.AccountsFor [] [] :=
  ⟨[], by rw [hempty, List.append_nil], Frame.decode_nil _⟩

/-- Bytes that are accepted are accounted for with those before them: they go to what is kept, or
with that they become whole frames. -/
theorem AccountsFor.feed {c : Client} {input : Bytes} {documents : List Json}
    (h : c.AccountsFor input documents) {bytes : Bytes} {events : List Event}
    (haccepted : (c.feed bytes).2 = .ok events) :
    (c.feed bytes).1.AccountsFor (input ++ bytes)
      (documents ++ (Operation.feed bytes).documents c) := by
  obtain ⟨whole, rfl, hwhole⟩ := h
  have hfed := fed_feed c bytes
  rw [haccepted] at hfed
  generalize (c.feed bytes).1 = next at hfed
  cases hfed with
  | waiting hdecode =>
    rw [Operation.documents_of_error hdecode, List.append_nil]
    exact ⟨whole, List.append_assoc _ _ _, hwhole⟩
  | accepted hdecode hbatch =>
    rw [Operation.documents_of_accepted hdecode haccepted]
    obtain ⟨hconfig, hempty⟩ := (handledAll_of_handleAll hbatch).kept
    -- What was kept and the bytes are whole frames, and continue those of the calls before.
    have hboth := (Frame.decode_append_eq_ok_iff hwhole).mpr ⟨_, hdecode, rfl⟩
    refine ⟨whole ++ (c.received ++ bytes), ?_, ?_⟩
    · rw [hempty]
      simp [discard]
    · rw [hconfig, ← Frame.consumed_of_decode hboth]
      exact hboth

/-- A call whose outcome is no fault (`Outcome.isFault`) carries the account on. The bytes that it
feeds and the documents that they complete are added at the end. -/
theorem AccountsFor.perform {c : Client} {input : Bytes} {documents : List Json}
    (h : c.AccountsFor input documents) (op : Operation)
    (hnone : (c.perform op).2.isFault = false) :
    (c.perform op).1.AccountsFor (input ++ op.fedBytes) (documents ++ op.documents c) := by
  cases hop : op.isFeed with
  | true =>
    cases op with
    | feed bytes =>
      cases hresult : (c.feed bytes).2 with
      | error e =>
        have hfault : (c.perform (.feed bytes)).2.isFault = true :=
          isFault_perform_iff.mpr ⟨bytes, e, rfl, hresult⟩
        rw [hnone] at hfault
        cases hfault
      | ok events => exact h.feed hresult
    | _ => cases hop
  | false =>
    have hperformed := performed_perform c op
    obtain ⟨hreceived, hnobytes⟩ := hperformed.keeps hop
    have hnodocuments : op.documents c = [] := by
      cases op with
      | feed bytes => cases hop
      | _ => rfl
    -- Such a call neither feeds bytes nor touches those that are kept.
    obtain ⟨whole, hinput, hwhole⟩ := h
    refine ⟨whole, ?_, ?_⟩
    · rw [hreceived, hnobytes, List.append_nil, hinput]
    · rw [hperformed.config_eq, hnodocuments, List.append_nil]
      exact hwhole

/-- A run that reports no fault carries the account on, call by call. -/
theorem AccountsFor.run {c : Client} {input : Bytes} {documents : List Json}
    (h : c.AccountsFor input documents) (ops : List Operation)
    (hnone : ∀ step ∈ (c.run ops).2, step.2.isFault = false) :
    (c.run ops).1.AccountsFor (input ++ fedBytes ops) (documents ++ c.documents ops) := by
  induction ops generalizing c input documents with
  | nil =>
    show c.AccountsFor (input ++ []) (documents ++ [])
    rw [List.append_nil, List.append_nil]
    exact h
  | cons op rest ih =>
    rw [run_cons] at hnone
    obtain ⟨hhead, htail⟩ := List.forall_mem_cons.mp hnone
    have hrest := ih (h.perform op hhead) htail
    rw [List.append_assoc, List.append_assoc] at hrest
    exact hrest

/-- The input as a whole is decoded by `Frame.decode` if nothing is kept. If something is, then the
input stops short, just as what is kept does. -/
theorem AccountsFor.decode_cases {c : Client} {input : Bytes} {documents : List Json}
    (h : c.AccountsFor input documents) (hc : c.Settled) :
    (c.hasBufferedInput = false ∧
        ∃ d, Frame.decode c.config.maxMessageSize input = .ok d) ∨
      c.hasBufferedInput = true ∧ ∃ expected actual,
        Frame.decode c.config.maxMessageSize c.received = .error (.incomplete expected actual) ∧
          Frame.decode c.config.maxMessageSize input = .error (.incomplete expected actual) := by
  obtain ⟨whole, rfl, hwhole⟩ := h
  unfold hasBufferedInput
  rcases hc with hempty | ⟨expected, actual, hshort⟩
  · left
    rw [hempty, List.append_nil]
    exact ⟨rfl, _, hwhole⟩
  · right
    have hkept : c.received ≠ [] := ne_nil_of_incomplete hshort
    refine ⟨by simp [hkept], expected, actual, hshort, ?_⟩
    -- Behind whole frames the decoder goes on as from the start.
    rw [Frame.decode_append _ hwhole, hshort]
    rfl

/-! ### Runs -/

/-- Every call leaves a settled client (`Performed.settled`), and so does a run. -/
theorem Settled.run {c : Client} (hc : c.Settled) (ops : List Operation) :
    (c.run ops).1.Settled := by
  induction ops generalizing c with
  | nil => exact hc
  | cons op rest ih => exact ih ((performed_perform c op).settled hc)

/-- Every run can be cut where its input `StartsAnew`: behind the last call that is at fault, or at
its start. -/
theorem exists_startsAnew (c : Client) (ops : List Operation) :
    ∃ before after, ops = before ++ after ∧ c.StartsAnew before after := by
  induction ops using List.reverseRecOn with
  | nil => exact ⟨[], [], rfl, Or.inl rfl, fun step hstep => absurd hstep List.not_mem_nil⟩
  | append_singleton ops op ih =>
    obtain ⟨before, after, rfl, hcut⟩ := ih
    -- The last call is at fault, and the input starts anew behind it, or it belongs to the input.
    cases hfault : (((c.run (before ++ after)).1).perform op).2.isFault with
    | true =>
      refine ⟨before ++ after ++ [op], [], (List.append_nil _).symm, ?_,
        fun step hstep => absurd hstep List.not_mem_nil⟩
      obtain ⟨bytes, e, rfl, herror⟩ := isFault_perform_iff.mp hfault
      exact Or.inr ⟨_, bytes, e, rfl, herror⟩
    | false =>
      refine ⟨before, after ++ [op], List.append_assoc _ _ _, hcut.start, fun step hstep => ?_⟩
      rw [run_append] at hstep hfault
      rcases List.mem_append.mp hstep with hstep | hstep
      · exact hcut.no_fault step hstep
      · rw [List.mem_singleton.mp hstep]
        exact hfault

/-- Where the input of a run starts anew, nothing is kept in `received`: a new client keeps nothing,
and a fault throws away what was kept. -/
theorem StartsAnew.received_eq {c : Client} {before after : List Operation}
    (h : c.StartsAnew before after) (hempty : c.received = []) :
    (c.run before).1.received = [] := by
  rcases h.start with rfl | ⟨earlier, bytes, e, rfl, herror⟩
  · exact hempty
  · have hfed := fed_feed (c.run earlier).1 bytes
    rw [herror] at hfed
    rw [run_append]
    show (((c.run earlier).1.feed bytes).1).received = []
    rw [hfed.eq_discard]
    rfl

/-- The bytes fed in a `run` since the client was created, or since feeding failed for the last
time, are whole frames and then the bytes that are kept. The documents of these frames are the ones
that the calls since then gave back the events of, call by call and in their order. As one piece the
bytes decode, or a frame stops short in them: nothing is at fault that was not reported. They decode
exactly if nothing is kept, and if something is, then it stops short just where the whole does. -/
theorem input_of_run (config : Config) (ops : List Operation) :
    let c := ((ofConfig config).run ops).1
    let decode := Frame.decode config.maxMessageSize
    (∃ before after, ops = before ++ after ∧ (ofConfig config).StartsAnew before after) ∧
      ∀ before after, ops = before ++ after → (ofConfig config).StartsAnew before after →
        let start := ((ofConfig config).run before).1
        let input := fedBytes after
        (∃ whole, input = whole ++ c.received ∧
          decode whole = .ok ⟨start.documents after, whole.length⟩) ∧
        (∀ earlier op later, after = earlier ++ op :: later →
          let now := (start.run earlier).1
          (now.perform op).2.events.map Except.ok = (op.documents now).map now.eventOf) ∧
        (∀ e, decode input = .error e → e.isIncomplete = true) ∧
        (c.hasBufferedInput = false ↔ ∃ d, decode input = .ok d) ∧
        (c.hasBufferedInput = true → ∃ expected actual,
          decode c.received = .error (.incomplete expected actual) ∧
            decode input = .error (.incomplete expected actual)) := by
  intro c decode
  refine ⟨exists_startsAnew _ ops, fun before after hops hcut => ?_⟩
  intro start input
  have hconfig : c.config = config := run_config_eq (ofConfig config) ops
  have hsettled : c.Settled := Settled.run (Or.inl rfl) ops
  -- The account starts with nothing where the input starts anew.
  have haccount : c.AccountsFor input (start.documents after) := by
    have hstart : start.AccountsFor [] [] := accountsFor_nil (hcut.received_eq rfl)
    have hrun := hstart.run after hcut.no_fault
    rw [List.nil_append, List.nil_append] at hrun
    show (((ofConfig config).run ops).1).AccountsFor _ _
    rw [hops, run_append]
    exact hrun
  have hcases := haccount.decode_cases hsettled
  rw [hconfig] at hcases
  refine ⟨?_, fun earlier op later _ => map_events_perform _ op, ?_, ?_, ?_⟩
  · obtain ⟨whole, hinput, hwhole⟩ := haccount
    rw [hconfig] at hwhole
    exact ⟨whole, hinput, hwhole⟩
  · intro e herror
    rcases hcases with ⟨-, d, hdecode⟩ | ⟨-, expected, actual, -, hshort⟩
    · cases hdecode.symm.trans herror
    · cases hshort.symm.trans herror
      rfl
  · rcases hcases with ⟨hnone, hdecode⟩ | ⟨hsome, expected, actual, -, hshort⟩
    · exact iff_of_true hnone hdecode
    · refine iff_of_false (by rw [hsome]; nofun) ?_
      rintro ⟨d, hdecode⟩
      cases hshort.symm.trans hdecode
  · intro hsome
    rcases hcases with ⟨hnone, -⟩ | ⟨-, hboth⟩
    · rw [hnone] at hsome
      cases hsome
    · exact hboth

end LspSession.Client
