import LspSession.Proofs.Client.Run
import LspSession.Proofs.Frame.Extension

/-!
# `LspSession.Proofs.Client.Chunks`: how a stream is cut into pieces does not matter

A transport hands over a stream in pieces of its own choice. A piece may end inside a header, inside
the separator, inside a body or between two frames, so the batches that are validated differ from
one cut to another. `feed_flatten_iff` says that nothing else does: feeding the pieces one after
another takes the stream in to its last byte exactly if feeding it at once does, and then the
events and the client at the end are the same.

Two facts carry it. Bytes are taken in to the last one exactly if they decode with what was kept and
every document is handled (`absorbs_iff`). And such a stream may be cut in two anywhere
(`absorbs_append_iff`): if the first piece stops inside a frame it is kept, and if it does not,
then its documents are a batch of their own.
-/

set_option autoImplicit false

namespace LspSession.Client

/-! ### What is kept between two calls -/

/-- What is kept of the received bytes is nothing, or it stops short of a whole frame. Without this,
`feed []` could give events by itself, and a cut that brings no bytes would matter. -/
def Settled (c : Client) : Prop :=
  c.received = [] ∨ ∃ expected actual,
    Frame.decode c.config.maxMessageSize c.received = .error (.incomplete expected actual)

/-- The empty buffer decodes to no documents (`Frame.decode_nil`), so a buffer that stops short
holds at least one byte. -/
theorem ne_nil_of_incomplete {limit actual : Nat} {buffer : Bytes} {expected : Option Nat}
    (h : Frame.decode limit buffer = .error (.incomplete expected actual)) : buffer ≠ [] := by
  intro hnil
  rw [hnil, Frame.decode_nil] at h
  cases h

/-- Every call leaves a settled client. Only `feed` touches what is kept, and it keeps bytes only
where `Frame.decode` says that they stop short. -/
theorem Performed.settled {c next : Client} {op : Operation} {outcome : Outcome}
    (h : Performed c op next outcome) (hc : c.Settled) : next.Settled := by
  cases h with
  | fed h =>
    cases h with
    | waiting hdecode => exact Or.inr ⟨_, _, hdecode⟩
    | misframed | rejected => exact Or.inl rfl
    | accepted _ hbatch => exact Or.inl (handledAll_of_handleAll hbatch).kept.2
  | drained => exact hc
  | requested => exact hc
  | exited => exact hc
  | replied => exact hc
  | refused => exact hc

/-- Every reachable client is settled: a new one keeps nothing, and `Performed.settled` carries it
over each call. -/
theorem Reachable.settled {c : Client} (h : c.Reachable) : c.Settled := by
  induction h with
  | start h =>
    unfold withConfig at h
    split at h
    · cases h
    · cases h
      exact Or.inl rfl
  | perform h op ih => exact (performed_perform _ op).settled ih

/-! ### Bytes that are taken in to the last one -/

/-- Feeding bytes succeeds and keeps none of them: the stream ends with a whole frame, and every
document of it is handled. -/
def Absorbs (c : Client) (bytes : Bytes) (last : Client) (events : List Event) : Prop :=
  c.feed bytes = (last, .ok events) ∧ last.received = []

/-- Bytes are taken in to the last one exactly if they decode together with those kept before, and
`handleAll` handles every document. Here it no longer matters where the kept bytes end. -/
theorem absorbs_iff {c last : Client} {bytes : Bytes} {events : List Event} :
    c.Absorbs bytes last events ↔
      ∃ d, Frame.decode c.config.maxMessageSize (c.received ++ bytes) = .ok d ∧
        c.discard.handleAll d.documents = .ok (last, events) := by
  constructor
  · rintro ⟨hfeed, hempty⟩
    have hfed := fed_feed c bytes
    rw [hfeed] at hfed
    cases hfed with
    | waiting hdecode => exact absurd hempty (ne_nil_of_incomplete hdecode)
    | accepted hdecode hbatch => exact ⟨_, hdecode, hbatch⟩
  · rintro ⟨d, hdecode, hbatch⟩
    refine ⟨?_, (handledAll_of_handleAll hbatch).kept.2⟩
    rw [feed_of_decode hdecode, hbatch]

/-- Bytes that are taken in to the last one may be cut in two anywhere. The `first` piece is kept or
gives the `early` events, and the `second` gives the `late` ones. -/
theorem absorbs_append_iff {c last : Client} {first second : Bytes} {events : List Event} :
    c.Absorbs (first ++ second) last events ↔
      ∃ mid early late, c.feed first = (mid, .ok early) ∧ mid.Absorbs second last late ∧
        early ++ late = events := by
  constructor
  · intro h
    obtain ⟨d, hdecode, hbatch⟩ := absorbs_iff.mp h
    rw [← List.append_assoc] at hdecode
    cases hfirst : Frame.decode c.config.maxMessageSize (c.received ++ first) with
    | error e =>
      cases hwhole : e.isIncomplete with
      | false =>
        rw [Frame.decode_append_of_error second hfirst hwhole] at hdecode
        cases hdecode
      | true =>
        -- The first piece stops inside a frame, so the client only keeps it.
        refine ⟨c.receive first, [], events, ?_, ?_, rfl⟩
        · rw [feed_of_error hfirst, hwhole]
          rfl
        · exact absorbs_iff.mpr ⟨d, hdecode, hbatch⟩
    | ok d₁ =>
      -- The documents of the first piece are the front of the batch.
      obtain ⟨d₂, hsecond, rfl⟩ := (Frame.decode_append_eq_ok_iff hfirst).mp hdecode
      obtain ⟨mid, early, late, hfront, hback, hevents⟩ := handleAll_append_eq_ok_iff.mp hbatch
      obtain ⟨hconfig, hempty⟩ := (handledAll_of_handleAll hfront).kept
      refine ⟨mid, early, late, ?_, ?_, hevents⟩
      · rw [feed_of_decode hfirst, hfront]
      · refine absorbs_iff.mpr ⟨d₂, ?_, ?_⟩
        · rw [hconfig, hempty]
          exact hsecond
        · rw [discard_of_received_nil hempty]
          exact hback
  -- The other way round, the first piece is kept or handled, and what it leaves decodes with the
  -- second.
  · rintro ⟨mid, early, late, hfeed, hlate, hevents⟩
    obtain ⟨d₂, hsecond, hback⟩ := absorbs_iff.mp hlate
    rw [absorbs_iff, ← List.append_assoc]
    have hfed := fed_feed c first
    rw [hfeed] at hfed
    cases hfed with
    | waiting hdecode =>
      cases hevents
      exact ⟨d₂, hsecond, hback⟩
    | accepted hfirst hfront =>
      obtain ⟨hconfig, hempty⟩ := (handledAll_of_handleAll hfront).kept
      rw [hconfig, hempty] at hsecond
      rw [discard_of_received_nil hempty] at hback
      refine ⟨_, (Frame.decode_append_eq_ok_iff hfirst).mpr ⟨d₂, hsecond, rfl⟩, ?_⟩
      exact handleAll_append_eq_ok_iff.mpr ⟨mid, early, late, hfront, hback, hevents⟩

/-! ### Chunks -/

/-- Feeds chunks one after another: the client after the last, and what each of them gave, errors
included. -/
def feedEach (c : Client) : List Bytes → Client × List (Except ProtocolError (List Event))
  | [] => (c, [])
  | chunk :: rest =>
    let (next, result) := c.feed chunk
    let (last, results) := next.feedEach rest
    (last, result :: results)

/-- One chunk more in front: `feed` for that chunk, then `feedEach` for the others. -/
theorem feedEach_cons (c : Client) (chunk : Bytes) (rest : List Bytes) :
    c.feedEach (chunk :: rest) =
      (((c.feed chunk).1.feedEach rest).1,
        (c.feed chunk).2 :: ((c.feed chunk).1.feedEach rest).2) := rfl

/-- Feeding no bytes to a settled client changes nothing. It is taken in to the last byte only if
nothing was kept, since otherwise a frame still stops short. -/
theorem absorbs_nil_iff {c last : Client} {events : List Event} (hc : c.Settled) :
    c.Absorbs [] last events ↔ c = last ∧ events = [] ∧ last.received = [] := by
  rw [absorbs_iff, List.append_nil]
  constructor
  · rintro ⟨d, hdecode, hbatch⟩
    rcases hc with hempty | ⟨expected, actual, hshort⟩
    · rw [hempty, Frame.decode_nil] at hdecode
      cases hdecode
      rw [discard_of_received_nil hempty] at hbatch
      cases hbatch
      exact ⟨rfl, rfl, hempty⟩
    · rw [hshort] at hdecode
      cases hdecode
  · rintro ⟨rfl, rfl, hempty⟩
    refine ⟨⟨[], 0⟩, ?_, ?_⟩
    · rw [hempty, Frame.decode_nil]
    · rw [discard_of_received_nil hempty]
      rfl

/-- Feeding a stream at once succeeds and keeps none of it exactly if `feedEach` succeeds with every
chunk and keeps nothing after the last. Then the events of the chunks, one batch after another, are
those of the stream, and the client at the end is the same in every field. -/
theorem feed_flatten_iff {c : Client} (h : c.Reachable) (chunks : List Bytes) (last : Client)
    (events : List Event) :
    c.feed chunks.flatten = (last, .ok events) ∧ last.received = [] ↔
      ∃ batches : List (List Event), c.feedEach chunks = (last, batches.map .ok) ∧
        batches.flatten = events ∧ last.received = [] := by
  show c.Absorbs chunks.flatten last events ↔ _
  have hc := h.settled
  clear h
  induction chunks generalizing c events with
  | nil =>
    rw [List.flatten_nil, absorbs_nil_iff hc]
    constructor
    · rintro ⟨rfl, rfl, hempty⟩
      exact ⟨[], rfl, rfl, hempty⟩
    · rintro ⟨batches, hfed, hevents, hempty⟩
      obtain ⟨rfl, hnone⟩ := Prod.mk.inj hfed
      rw [eq_comm, List.map_eq_nil_iff] at hnone
      subst hnone
      exact ⟨rfl, hevents.symm, hempty⟩
  -- The stream is cut behind its first chunk, and the induction takes the rest from the client
  -- after that.
  | cons chunk rest ih =>
    rw [List.flatten_cons, absorbs_append_iff]
    have hnext : (c.feed chunk).1.Settled := (performed_perform c (.feed chunk)).settled hc
    constructor
    · rintro ⟨mid, early, late, hfeed, hlate, rfl⟩
      rw [hfeed] at hnext
      obtain ⟨batches, hfed, rfl, hempty⟩ := (ih late hnext).mp hlate
      refine ⟨early :: batches, ?_, rfl, hempty⟩
      rw [feedEach_cons, hfeed, hfed]
      rfl
    · rintro ⟨batches, hfed, rfl, hempty⟩
      rw [feedEach_cons] at hfed
      cases batches with
      | nil =>
        obtain ⟨-, hresults⟩ := Prod.mk.inj hfed
        cases hresults
      | cons early batches =>
        obtain ⟨hlast, hresults⟩ := Prod.mk.inj hfed
        obtain ⟨hearly, hrest⟩ := List.cons.inj hresults
        refine ⟨(c.feed chunk).1, early, batches.flatten, Prod.ext rfl hearly, ?_, rfl⟩
        exact (ih batches.flatten hnext).mpr ⟨batches, Prod.ext hlast hrest, rfl, hempty⟩

/-- The document of a notification without parameters. No client understands its method. -/
private def note : Json := .object [("method", .string "note")]

/-- `feed_flatten_iff` where the frame of `note` is cut between the two bytes of a line end, and a
piece without bytes comes at the cut. -/
theorem feedEach_cut_in_line_end :
    Client.new.Reachable ∧
      ∃ batches : List (List Event),
        Client.new.feedEach [(Frame.encode note).take 19, [], (Frame.encode note).drop 19] =
          (Client.new, batches.map .ok) ∧
        batches.flatten = [.unsupported none "note" none] ∧ Client.new.received = [] := by
  have hnew : Client.new.Reachable := .start withConfig_default
  have hdecode : (Frame.decode Frame.defaultLimit
      [(Frame.encode note).take 19, [], (Frame.encode note).drop 19].flatten).toOption =
        some ⟨[note], 39⟩ := by
    decide +kernel
  have hwhole : Client.new.Absorbs
      [(Frame.encode note).take 19, [], (Frame.encode note).drop 19].flatten Client.new
      [.unsupported none "note" none] := by
    refine absorbs_iff.mpr ⟨⟨[note], 39⟩, ?_, rfl⟩
    cases h : Frame.decode Frame.defaultLimit
        [(Frame.encode note).take 19, [], (Frame.encode note).drop 19].flatten with
    | error e =>
      rw [h] at hdecode
      cases hdecode
    | ok d =>
      rw [h] at hdecode
      cases hdecode
      exact h
  exact ⟨hnew, (feed_flatten_iff hnew _ _ _).mp hwhole⟩

end LspSession.Client
