import Mathlib.Data.List.Infix
import Mathlib.Data.List.Induction
import LspSession.Proofs.Client.Input
import LspSession.Proofs.Frame.RoundTrip
import LspSession.Proofs.Frame.Unfinished

/-!
# `LspSession.Proofs.Client.Kept`: which bytes a client keeps, and which it throws away

A client keeps bytes in the hope of more, and throws bytes away because no more could help. The
second is always right: what `feed` throws away for the fault of a frame could never have been
decoded, whatever had followed (`decode_append_cases`).

The first has no end. `kept_of_run` says what is kept: whole frames and then an unfinished one. The
limit `maxMessageSize` bounds the body of each of these frames, and nothing else:

- It is compared with the length that a header declares, so it has no say before the header is
  whole. Letters that go on and on are a header, and all of them are kept
  (`exists_run_of_open_header`).
- Frames are taken in all together or not at all, so it has no say in how many of them wait for an
  unfinished one. Pieces of two bytes are enough never to end where a frame ends (`acrossEnds`), and
  then all frames wait (`exists_run_of_whole_frames`).

Single bytes do end where a frame ends, and then no frame waits (`KeepsOne`). But whatever the size
of the pieces, no number bounds what is kept (`received_unbounded`).
-/

set_option autoImplicit false

namespace LspSession.Client

open LspSession.Frame (separator Unfinished)

/-! ### Thrown away -/

/-- Bytes that decode go on to decode as what follows them does, and fail as what follows them does.
Bytes at fault stay at fault in the same way, whatever follows. So the front of bytes that decode
decodes or stops short, and bytes that a client throws away for the fault of a frame could not have
been decoded, with whatever had followed them. -/
theorem decode_append_cases (limit : Nat) (front : Bytes) :
    (∀ d, Frame.decode limit front = .ok d → ∀ more,
      (∀ rest, Frame.decode limit more = .ok rest →
        Frame.decode limit (front ++ more) =
          .ok ⟨d.documents ++ rest.documents, front.length + more.length⟩) ∧
      ∀ e, Frame.decode limit more = .error e → Frame.decode limit (front ++ more) = .error e) ∧
    (∀ e, Frame.decode limit front = .error e → e.isIncomplete = false →
      ∀ more, Frame.decode limit (front ++ more) = .error e) ∧
    (∀ more whole, Frame.decode limit (front ++ more) = .ok whole →
      (∃ d, Frame.decode limit front = .ok d) ∨
        ∃ expected actual, Frame.decode limit front = .error (.incomplete expected actual)) ∧
    ∀ (c : Client) bytes e, c.config.maxMessageSize = limit → c.received ++ bytes = front →
      (c.feed bytes).2 = .error (.frame e) →
        (c.feed bytes).1.received = [] ∧
          ∀ more, Frame.decode limit (front ++ more) = .error e := by
  refine ⟨?_, ?_, ?_, ?_⟩
  · intro d hfront more
    have hwhole := Frame.decode_append more hfront
    constructor
    · intro rest hrest
      rw [hwhole, hrest, ← Frame.consumed_of_decode hfront, ← Frame.consumed_of_decode hrest]
      rfl
    · intro e herror
      rw [hwhole, herror]
      rfl
  · intro e hfront hfinal more
    exact Frame.decode_append_of_error more hfront hfinal
  · intro more whole hwhole
    exact Frame.decode_front_cases hwhole
  -- A frame error of feeding is an error of the decoder that more bytes do not change.
  · rintro c bytes e rfl rfl herror
    have hfed := fed_feed c bytes
    rw [herror] at hfed
    have hnext := hfed.eq_discard
    refine ⟨by rw [hnext]; rfl, fun more => ?_⟩
    generalize (c.feed bytes).1 = next at hfed
    cases hfed with
    | misframed hdecode hfinal => exact Frame.decode_append_of_error more hdecode hfinal
    | rejected hdecode hbatch => exact absurd hbatch (handleAll_ne_frame _ _ e)

/-! ### Kept -/

/-- Pieces of which none completes a frame are kept one after another: the client at the end has
received them all and nothing else has changed. -/
theorem run_feed_of_incomplete {c : Client} (chunks : List Bytes)
    (h : ∀ front, front <+: chunks → front ≠ [] → ∃ expected actual,
      Frame.decode c.config.maxMessageSize (c.received ++ front.flatten) =
        .error (.incomplete expected actual)) :
    (c.run (chunks.map .feed)).1 = c.receive chunks.flatten := by
  induction chunks using List.reverseRecOn with
  | nil =>
    show c = { c with received := c.received ++ [] }
    rw [List.append_nil]
  | append_singleton front chunk ih =>
    have hfront := ih fun earlier hearlier => h earlier (hearlier.trans (List.prefix_append _ _))
    -- The last piece is kept like those before it, because the whole stops short.
    obtain ⟨expected, actual, hshort⟩ := h (front ++ [chunk]) (List.prefix_refl _) (by simp)
    rw [List.flatten_append, List.flatten_singleton, ← List.append_assoc] at hshort
    rw [List.map_append, run_append, hfront]
    have hfeed : (c.receive front.flatten).feed chunk = _ := feed_of_incomplete hshort
    show ((c.receive front.flatten).feed chunk).1 = _
    rw [hfeed, List.flatten_append, List.flatten_singleton]
    show { c with received := c.received ++ front.flatten ++ chunk } = _
    rw [List.append_assoc]
    rfl

/-- The calls that feed pieces feed no more bytes at once than the longest piece has. -/
theorem fedBytes_le_of_mem_map {size : Nat} {chunks : List Bytes}
    (h : ∀ chunk ∈ chunks, chunk.length ≤ size) :
    ∀ op ∈ chunks.map Operation.feed, op.fedBytes.length ≤ size := by
  intro op hop
  obtain ⟨chunk, hchunk, rfl⟩ := List.mem_map.mp hop
  exact h chunk hchunk

/-! #### A header without an end -/

/-- A `separator` has a carriage return, so bytes without one hold no separator. -/
theorem not_infix_of_not_mem {bytes : Bytes} (hnone : 0x0D ∉ bytes) : ¬ separator <:+: bytes :=
  fun hin => hnone (hin.subset List.mem_cons_self)

/-- No carriage return is among letters. -/
theorem not_mem_letters (n : Nat) : (0x0D : UInt8) ∉ List.replicate n (0x61 : UInt8) := by
  intro hreturn
  have hletter := List.eq_of_mem_replicate hreturn
  cases hletter

/-- Letters are a header that goes on: under every limit they are `Unfinished`, and how much is
missing is not known. -/
theorem unfinished_letters (limit n : Nat) :
    Unfinished limit none (List.replicate (n + 1) 0x61) :=
  .header (List.cons_ne_nil _ _) (not_infix_of_not_mem (not_mem_letters (n + 1)))

/-- Letters that are fed one by one are kept, all of them, under every configuration. -/
theorem received_run_letters (config : Config) (n : Nat) :
    ((ofConfig config).run ((List.replicate n [0x61]).map .feed)).1.received =
      List.replicate n 0x61 := by
  rw [run_feed_of_incomplete]
  · show [] ++ (List.replicate n [0x61]).flatten = _
    rw [List.nil_append, List.flatten_replicate_singleton]
  · intro front hfront hsome
    obtain ⟨-, hletters⟩ := List.prefix_replicate_iff.mp hfront
    obtain ⟨k, hk⟩ := Nat.exists_eq_succ_of_ne_zero (mt List.length_eq_zero_iff.mp hsome)
    refine ⟨none, k + 1, Frame.decode_eq_incomplete_iff.mpr ⟨[], List.replicate (k + 1) 0x61,
      ⟨[], 0⟩, ?_, Frame.decode_nil _, unfinished_letters _ k, ?_⟩⟩
    · show [] ++ front.flatten = [] ++ List.replicate (k + 1) 0x61
      rw [hletters, hk, List.flatten_replicate_singleton]
    · exact List.length_replicate.symm

/-! #### Frames that wait for an unfinished one -/

/-- A small document, with a body of one byte. -/
def zero : Json := .number (.integer 0)

/-- The frame of `zero` without its first byte, and then the first byte of another such frame. -/
def rotated : Bytes := (Frame.encode zero).drop 1 ++ (Frame.encode zero).take 1

/-- Behind the first byte of a frame, `rotated` frames are whole frames and the first byte of one
more. -/
theorem take_append_rotated (n : Nat) :
    (Frame.encode zero).take 1 ++ (List.replicate n rotated).flatten =
      (List.replicate n (Frame.encode zero)).flatten ++ (Frame.encode zero).take 1 := by
  induction n with
  | zero => exact List.append_nil _
  | succ n ih =>
    rw [List.replicate_succ, List.replicate_succ, List.flatten_cons, List.flatten_cons,
      List.append_assoc (Frame.encode zero), ← ih, ← List.append_assoc, rotated,
      ← List.append_assoc (List.take 1 _), List.take_append_drop, List.append_assoc]

/-- The frame of `zero` decodes under every limit that admits its body of one byte. -/
theorem decode_encode_zero {limit : Nat} (hlimit : 1 ≤ limit) :
    Frame.decode limit (Frame.encode zero) = .ok ⟨[zero], (Frame.encode zero).length⟩ := by
  refine Frame.decode_encode_of_isOrdered (by decide) (by decide) ?_ (by decide +kernel)
  have hbody : (Frame.bodyOf zero).length = 1 := by decide +kernel
  rw [hbody]
  exact hlimit

/-- Any number of frames of `zero` decode, with one document each. -/
theorem exists_decode_replicate {limit : Nat} (hlimit : 1 ≤ limit) (n : Nat) :
    ∃ d, Frame.decode limit (List.replicate n (Frame.encode zero)).flatten = .ok d ∧
      d.documents.length = n := by
  induction n with
  | zero => exact ⟨⟨[], 0⟩, Frame.decode_nil limit, rfl⟩
  | succ n ih =>
    obtain ⟨d, hd, hn⟩ := ih
    rw [List.replicate_succ, List.flatten_cons, Frame.decode_append _ (decode_encode_zero hlimit),
      hd]
    refine ⟨_, rfl, ?_⟩
    show ([zero] ++ d.documents).length = n + 1
    rw [List.length_append, hn]
    exact Nat.add_comm 1 n

/-- A front of frames of `zero` decodes only where one of them ends: a cut inside the first frame
would leave it without its document. -/
theorem length_dvd_of_decode {limit n : Nat} (hlimit : 1 ≤ limit) {front : Bytes}
    {d : Frame.Decoded} (hfront : front <+: (List.replicate n (Frame.encode zero)).flatten)
    (hdecode : Frame.decode limit front = .ok d) :
    (Frame.encode zero).length ∣ front.length := by
  induction n generalizing front d with
  | zero =>
    rw [List.prefix_nil.mp hfront]
    exact Nat.dvd_zero _
  | succ n ih =>
    rw [List.replicate_succ, List.flatten_cons] at hfront
    rcases List.prefix_or_prefix_of_prefix hfront (List.prefix_append _ _) with hin | hover
    · -- The first frame alone has one document, for what is before the cut or behind it.
      obtain ⟨more, hmore⟩ := hin
      have hone := decode_encode_zero hlimit
      rw [← hmore] at hone
      obtain ⟨rest, hrest, hboth⟩ := (Frame.decode_append_eq_ok_iff hdecode).mp hone
      have hdocuments : d.documents ++ rest.documents = [zero] :=
        congrArg Frame.Decoded.documents hboth
      rcases List.append_eq_singleton_iff.mp hdocuments with ⟨hnone, -⟩ | ⟨-, hnone⟩
      · rw [Frame.eq_nil_of_documents_nil hdecode hnone]
        exact Nat.dvd_zero _
      · rw [← hmore, Frame.eq_nil_of_documents_nil hrest hnone, List.append_nil]
    · obtain ⟨later, rfl⟩ := hover
      obtain ⟨rest, hrest, -⟩ :=
        (Frame.decode_append_eq_ok_iff (decode_encode_zero hlimit)).mp hdecode
      rw [List.length_append]
      exact Nat.dvd_add (Nat.dvd_refl _) (ih ((List.prefix_append_right_inj _).mp hfront) hrest)

/-- Bytes cut into pieces of two, with a piece of one byte at the end of an odd number of them. -/
def pairs : Bytes → List Bytes
  | first :: second :: rest => [first, second] :: pairs rest
  | [last] => [[last]]
  | [] => []

/-- Nothing is lost between `pairs`. -/
theorem flatten_pairs (bytes : Bytes) : (pairs bytes).flatten = bytes := by
  fun_induction pairs bytes with
  | case1 first second rest ih =>
    rw [List.flatten_cons, ih, List.cons_append, List.singleton_append]
  | case2 last => rfl
  | case3 => rfl

/-- Of an even number of bytes all `pairs` have two. -/
theorem length_of_mem_pairs {bytes piece : Bytes} (heven : 2 ∣ bytes.length)
    (h : piece ∈ pairs bytes) : piece.length = 2 := by
  fun_induction pairs bytes with
  | case1 first second rest ih =>
    rcases List.mem_cons.mp h with rfl | h
    · rfl
    · exact ih ((Nat.dvd_add_left (Nat.dvd_refl 2)).mp heven) h
  | case2 last => exact absurd heven (by decide : ¬ 2 ∣ 1)
  | case3 => cases h

/-- Frames of `zero` in pieces that never end where a frame ends: one byte, and then `pairs`. The
frames have an even number of bytes, and every piece ends behind an odd number of them. -/
def acrossEnds (n : Nat) : List Bytes :=
  (Frame.encode zero).take 1 :: pairs (List.replicate n rotated).flatten

/-- The pieces of `acrossEnds` are whole frames and the first byte of one more. -/
theorem flatten_acrossEnds (n : Nat) :
    (acrossEnds n).flatten =
      (List.replicate n (Frame.encode zero)).flatten ++ (Frame.encode zero).take 1 := by
  rw [acrossEnds, List.flatten_cons, flatten_pairs, take_append_rotated]

/-- Behind the first one, the pieces of `acrossEnds` have two bytes each. -/
theorem length_of_mem_pairs_rotated {n : Nat} {piece : Bytes}
    (h : piece ∈ pairs (List.replicate n rotated).flatten) : piece.length = 2 := by
  refine length_of_mem_pairs ?_ h
  have heven : 2 ∣ rotated.length := by decide +kernel
  rw [List.length_flatten, List.map_replicate, List.sum_replicate_nat]
  exact Nat.dvd_mul_left_of_dvd heven n

/-- Where a front of `acrossEnds` stops, no frame stops. -/
theorem not_dvd_length_flatten {n : Nat} {front : List Bytes} (hfront : front <+: acrossEnds n)
    (hsome : front ≠ []) : ¬ (Frame.encode zero).length ∣ front.flatten.length := by
  have heven : 2 ∣ (Frame.encode zero).length := by decide +kernel
  have hone : ((Frame.encode zero).take 1).length = 1 := by decide +kernel
  rcases List.prefix_cons_iff.mp hfront with hnil | ⟨pieces, rfl, hpieces⟩
  · exact absurd hnil hsome
  -- Behind the first byte the pieces have two bytes each.
  · have htwo : 2 ∣ pieces.flatten.length := by
      have hall : pieces.map List.length = List.replicate pieces.length 2 :=
        List.map_eq_replicate_iff.mpr fun piece hpiece =>
          length_of_mem_pairs_rotated (hpieces.mem hpiece)
      rw [List.length_flatten, hall, List.sum_replicate_nat]
      exact Nat.dvd_mul_left 2 _
    intro hends
    have hall := heven.trans hends
    rw [List.flatten_cons, List.length_append, hone] at hall
    omega

/-- Frames that are fed `acrossEnds` are kept, all of them. -/
theorem received_run_acrossEnds {config : Config} (hlimit : 1 ≤ config.maxMessageSize) (n : Nat) :
    ((ofConfig config).run ((acrossEnds n).map .feed)).1.received =
      (List.replicate n (Frame.encode zero)).flatten ++ (Frame.encode zero).take 1 := by
  rw [run_feed_of_incomplete]
  · show [] ++ (acrossEnds n).flatten = _
    rw [List.nil_append, flatten_acrossEnds]
  · intro front hfront hsome
    show ∃ expected actual, Frame.decode config.maxMessageSize ([] ++ front.flatten) = _
    rw [List.nil_append]
    -- The pieces so far are a front of one whole frame more, and stop inside a frame.
    have hframes : front.flatten <+: (List.replicate (n + 1) (Frame.encode zero)).flatten := by
      refine (List.IsPrefix.flatten hfront).trans ?_
      rw [flatten_acrossEnds, List.replicate_succ', List.flatten_append, List.flatten_singleton]
      exact (List.prefix_append_right_inj _).mpr (List.take_prefix _ _)
    obtain ⟨d, hwhole, -⟩ := exists_decode_replicate hlimit (n + 1)
    obtain ⟨more, hmore⟩ := hframes
    rw [← hmore] at hwhole
    rcases Frame.decode_front_cases hwhole with ⟨e, hdecode⟩ | hshort
    · exact absurd (length_dvd_of_decode hlimit ⟨more, hmore⟩ hdecode)
        (not_dvd_length_flatten hfront hsome)
    · exact hshort

/-! #### No frame waits among single bytes -/

/-- What is kept is nothing, or an unfinished frame with no whole frame before it. -/
def KeepsOne (c : Client) : Prop :=
  c.received = [] ∨ ∃ expected, Unfinished c.config.maxMessageSize expected c.received

/-- Bytes that are fed one by one end every frame where it ends, so none is kept behind another: the
byte that makes `decode` wait would else stand behind a frame that had been whole before it. -/
theorem Performed.keepsOne {c next : Client} {op : Operation} {outcome : Outcome}
    (h : Performed c op next outcome) (hop : op.fedBytes.length ≤ 1) (hc : c.KeepsOne) :
    next.KeepsOne := by
  cases h with
  | @fed bytes _ _ h =>
    cases h with
    | @waiting expected actual hdecode =>
      right
      obtain ⟨whole, rest, d, hboth, hwhole, hunfinished, -⟩ :=
        Frame.decode_eq_incomplete_iff.mp hdecode
      have hbyte : bytes.length ≤ 1 := hop
      have hrest := List.length_pos_iff.mpr hunfinished.ne_nil
      have hlengths := congrArg List.length hboth
      rw [List.length_append, List.length_append] at hlengths
      -- What is whole was kept before.
      obtain ⟨part, hpart⟩ : whole <+: c.received :=
        List.prefix_of_prefix_length_le ⟨rest, hboth.symm⟩ (List.prefix_append _ _) (by omega)
      have hnone : whole = [] := by
        by_contra hsome
        obtain ⟨s, hs⟩ := Frame.exists_split_of_decode hsome hwhole
        have hgone := Frame.split_append part hs
        rw [hpart] at hgone
        rcases hc with hempty | ⟨before, hbefore⟩
        · exact hsome (List.append_eq_nil_iff.mp (hpart.trans hempty)).1
        · rw [(Frame.split_eq_incomplete_iff hbefore.ne_nil).mpr ⟨hbefore, rfl⟩] at hgone
          cases hgone
      rw [hnone, List.nil_append] at hboth
      refine ⟨expected, ?_⟩
      show Unfinished c.config.maxMessageSize expected (c.received ++ bytes)
      rw [hboth]
      exact hunfinished
    | misframed | rejected => exact Or.inl rfl
    | accepted _ hbatch => exact Or.inl (handledAll_of_handleAll hbatch).kept.2
  | drained => exact hc
  | requested => exact hc
  | exited => exact hc
  | replied => exact hc
  | refused => exact hc

/-- A run that feeds no more than a byte at once keeps no frame behind another. -/
theorem KeepsOne.run {c : Client} (hc : c.KeepsOne) (ops : List Operation)
    (hsmall : ∀ op ∈ ops, op.fedBytes.length ≤ 1) : (c.run ops).1.KeepsOne := by
  induction ops generalizing c with
  | nil => exact hc
  | cons op rest ih =>
    obtain ⟨hop, hrest⟩ := List.forall_mem_cons.mp hsmall
    exact ih ((performed_perform c op).keepsOne hop hc) hrest

/-! #### What is kept -/

/-- What is kept is nothing, or whole frames and then an unfinished one. The limit admits the body
of each frame, and if the header of the unfinished one is whole, then less than the limit is there
of its body. -/
theorem Settled.kept_cases {c : Client} (hc : c.Settled) :
    c.received = [] ∨ ∃ (frames : List Frame.Parts) (bytes : Bytes) (expected : Option Nat),
      c.received = frames.flatMap Frame.Parts.bytes ++ bytes ∧
      (∃ d, Frame.decode c.config.maxMessageSize (frames.flatMap Frame.Parts.bytes) = .ok d ∧
        d.documents.length = frames.length) ∧
      (∀ p ∈ frames, p.body.length ≤ c.config.maxMessageSize) ∧
      Unfinished c.config.maxMessageSize expected bytes ∧
      (separator <:+: bytes → ∃ header part, bytes = header ++ separator ++ part ∧
        part.length < c.config.maxMessageSize) := by
  rcases hc with hempty | ⟨expected, actual, hshort⟩
  · exact Or.inl hempty
  · right
    obtain ⟨whole, bytes, d, hkept, hwhole, hunfinished, -⟩ :=
      Frame.decode_eq_incomplete_iff.mp hshort
    obtain ⟨frames, ⟨rfl, -⟩, hcount, hbodies⟩ := Frame.exists_parts_of_decode hwhole
    refine ⟨frames, bytes, expected, hkept, ⟨d, hwhole, hcount.symm⟩, hbodies, hunfinished, ?_⟩
    intro hseparator
    cases hunfinished with
    | header _ hopen => exact absurd hseparator hopen
    | body hfirst hdeclares hadmitted hfits hpart =>
      exact ⟨_, _, rfl, lt_of_lt_of_le hpart hadmitted⟩

/-- With pieces of any size but zero a client can come to keep more than any number of bytes, with
no `separator` among them. The limit has no say here, since no header has declared a length yet. -/
theorem exists_run_of_open_header (config : Config) {size : Nat} (hsize : 1 ≤ size) (bound : Nat) :
    ∃ ops : List Operation, (∀ op ∈ ops, op.fedBytes.length ≤ size) ∧
      bound < ((ofConfig config).run ops).1.received.length ∧
      ¬ separator <:+: ((ofConfig config).run ops).1.received := by
  -- One letter more than the bound.
  refine ⟨(List.replicate (bound + 1) [0x61]).map .feed, fedBytes_le_of_mem_map ?_, ?_, ?_⟩
  · intro chunk hchunk
    rw [List.eq_of_mem_replicate hchunk]
    exact hsize
  · rw [received_run_letters, List.length_replicate]
    exact Nat.lt_succ_self bound
  · rw [received_run_letters]
    exact not_infix_of_not_mem (not_mem_letters _)

/-- With pieces of two bytes or more a client can come to keep more than any number of whole frames,
for one byte of the next. Each of them is within the limit. -/
theorem exists_run_of_whole_frames {config : Config} (hlimit : 1 ≤ config.maxMessageSize)
    {size : Nat} (hsize : 2 ≤ size) (bound : Nat) :
    ∃ ops : List Operation, (∀ op ∈ ops, op.fedBytes.length ≤ size) ∧
      ∃ whole bytes d, ((ofConfig config).run ops).1.received = whole ++ bytes ∧
        Frame.decode config.maxMessageSize whole = .ok d ∧ bound < d.documents.length ∧
        bytes.length = 1 := by
  have hone : ((Frame.encode zero).take 1).length = 1 := by decide +kernel
  obtain ⟨d, hwhole, hcount⟩ := exists_decode_replicate hlimit (bound + 1)
  refine ⟨(acrossEnds (bound + 1)).map .feed, fedBytes_le_of_mem_map ?_, _, _, d,
    received_run_acrossEnds hlimit (bound + 1), hwhole, ?_, hone⟩
  · intro piece hpiece
    rcases List.mem_cons.mp hpiece with rfl | hpiece
    · rw [hone]
      exact (Nat.le_succ 1).trans hsize
    · rw [length_of_mem_pairs_rotated hpiece]
      exact hsize
  · rw [hcount]
    exact Nat.lt_succ_self bound

/-- A valid configuration admits a byte. -/
theorem one_le_maxMessageSize_of_validate {config : Config} (h : config.validate = .ok ()) :
    1 ≤ config.maxMessageSize := by
  unfold Config.validate at h
  split at h
  · cases h
  · next hsome => exact Nat.one_le_iff_ne_zero.mpr hsome

/-- What a client keeps is nothing, or whole frames and then an unfinished one. The limit bounds the
body of each frame: `maxMessageSize` admits it, and if the header of the unfinished frame is whole,
then less than the limit is there of its body.

The limit bounds nothing else. In pieces of any size but zero a client can come to keep a header of
more than any number of bytes, whose `separator` has not come. In pieces of two bytes or more it can
come to keep more than any number of whole frames, for one byte of the next. In single bytes it
cannot: then the unfinished frame stands alone. -/
theorem kept_of_run {config : Config} (hvalid : config.validate = .ok ()) :
    let received (ops : List Operation) := ((ofConfig config).run ops).1.received
    let decode := Frame.decode config.maxMessageSize
    (∀ ops, received ops = [] ∨
      ∃ (frames : List Frame.Parts) (bytes : Bytes) (expected : Option Nat),
        received ops = frames.flatMap Frame.Parts.bytes ++ bytes ∧
        (∃ d, decode (frames.flatMap Frame.Parts.bytes) = .ok d ∧
          d.documents.length = frames.length) ∧
        (∀ p ∈ frames, p.body.length ≤ config.maxMessageSize) ∧
        Unfinished config.maxMessageSize expected bytes ∧
        (separator <:+: bytes → ∃ header part, bytes = header ++ separator ++ part ∧
          part.length < config.maxMessageSize)) ∧
    (∀ size bound, 1 ≤ size → ∃ ops : List Operation,
      (∀ op ∈ ops, op.fedBytes.length ≤ size) ∧ bound < (received ops).length ∧
        ¬ separator <:+: received ops) ∧
    (∀ size bound, 2 ≤ size → ∃ ops : List Operation,
      (∀ op ∈ ops, op.fedBytes.length ≤ size) ∧
        ∃ whole bytes d, received ops = whole ++ bytes ∧ decode whole = .ok d ∧
          bound < d.documents.length ∧ bytes.length = 1) ∧
    ∀ ops : List Operation, (∀ op ∈ ops, op.fedBytes.length ≤ 1) → received ops = [] ∨
      ∃ expected, Unfinished config.maxMessageSize expected (received ops) := by
  intro received decode
  have hlimit := one_le_maxMessageSize_of_validate hvalid
  have hconfig (ops : List Operation) : ((ofConfig config).run ops).1.config = config :=
    run_config_eq _ ops
  refine ⟨fun ops => ?_, fun size bound hsize => exists_run_of_open_header config hsize bound,
    fun size bound hsize => exists_run_of_whole_frames hlimit hsize bound, fun ops hsmall => ?_⟩
  · have hsettled : ((ofConfig config).run ops).1.Settled := Settled.run (Or.inl rfl) ops
    have hcases := hsettled.kept_cases
    rw [hconfig] at hcases
    exact hcases
  · have hone : ((ofConfig config).run ops).1.KeepsOne := KeepsOne.run (Or.inl rfl) ops hsmall
    rw [KeepsOne, hconfig] at hone
    exact hone

/-- With the default configuration, any number of bytes can be kept that were fed one by one, and
any number of frames that were fed in pieces of 4096 bytes. -/
theorem kept_of_default :
    Config.default.validate = .ok () ∧
      (∀ bound, ∃ ops : List Operation, (∀ op ∈ ops, op.fedBytes.length ≤ 1) ∧
        bound < ((ofConfig .default).run ops).1.received.length ∧
          ∃ expected, Unfinished Config.default.maxMessageSize expected
            ((ofConfig .default).run ops).1.received) ∧
      ∀ bound, ∃ ops : List Operation, (∀ op ∈ ops, op.fedBytes.length ≤ 4096) ∧
        ∃ whole bytes d, ((ofConfig .default).run ops).1.received = whole ++ bytes ∧
          Frame.decode Config.default.maxMessageSize whole = .ok d ∧
          bound < d.documents.length ∧ bytes.length = 1 := by
  obtain ⟨-, hheader, hframes, hsingle⟩ := kept_of_run Config.validate_default
  refine ⟨Config.validate_default, fun bound => ?_, fun bound => hframes 4096 bound (by decide)⟩
  obtain ⟨ops, hsmall, hmore, -⟩ := hheader 1 bound (Nat.le_refl 1)
  -- Something is kept, so it is the unfinished frame.
  refine ⟨ops, hsmall, hmore, (hsingle ops hsmall).resolve_left fun hnone => ?_⟩
  rw [hnone] at hmore
  exact Nat.not_lt_zero bound hmore

/-- No number that depends on the configuration and the size of the pieces alone bounds what a
client keeps. Pieces of one byte refute it already. -/
theorem received_unbounded :
    ¬ ∀ config : Config, config.validate = .ok () → ∀ size : Nat, ∃ bound : Nat,
      ∀ ops : List Operation, (∀ op ∈ ops, op.fedBytes.length ≤ size) →
        ((ofConfig config).run ops).1.received.length ≤ bound := by
  intro h
  obtain ⟨bound, hbound⟩ := h .default Config.validate_default 1
  obtain ⟨ops, hsmall, hmore, -⟩ := exists_run_of_open_header .default (Nat.le_refl 1) bound
  exact absurd (hbound ops hsmall) (Nat.not_le.mpr hmore)

end LspSession.Client
