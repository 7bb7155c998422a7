import LspSession.Proofs.Pump.Delivery

/-!
# `LspSession.Proofs.Pump.Refusal`: when a pump's own reply is refused

A pump replies to requests of the server in the name of its caller. If the session does not allow
the reply, then the pump fails with the error of a command that is not allowed, and the event is
lost. A caller that asks for nothing but to initialize and to shut down has no part in that, and
yet it happens: the server can bring it about by using an id twice.

The requests of one batch are all recorded before the first of them is replied to, in one set. So
the first reply to an id takes it out of the set for all the requests of the batch that have it.
`waitFor_of_served` says that this is the one way: at every moment the reply to the next event is
refused exactly if the id of its request is that of an event of the same batch which has been dealt
with before. What carries it is `Tallied`: of the ids of the events at hand, the set holds those
that do not occur among the events of the batch before them.
-/

set_option autoImplicit false

namespace LspSession.Pump

open Client (Operation Outcome)

variable {σ : Type} [Transport σ]

/-- A pump whose caller waits, writes, and asks for nothing but to initialize and to shut down, with
the events of the batch at hand that have been dealt with. The caller leaves all replies to the
pump. -/
inductive Served : Pump σ → List Event → Prop where
  | start {c : Client} (hstate : c.state ≠ .exited) (t : σ) : Served (new c t) []
  | command {p : Pump σ} {done : List Event} (h : Served p done) {op : Operation}
      {request : ClientRequest × Option Json} (hop : op.request? p.client.config = some request)
      (journal : Array Log.Record) :
    Served { p with client := (p.client.perform op).1, journal := journal } done
  /-- The caller may limit the next wait. -/
  | within {p : Pump σ} {done : List Event} (h : Served p done) (limit : Nat) :
    Served { p with transport := Transport.within limit p.transport } done
  | flush {p : Pump σ} {done : List Event} (h : Served p done) : Served p.flush.1 done
  /-- A turn with no event at hand begins a new batch. -/
  | fetch {p : Pump σ} {done : List Event} (h : Served p done) (hbacklog : p.backlog = []) :
    Served p.turn.1 []
  /-- A turn with an event at hand deals with it. -/
  | deal {p : Pump σ} {done rest : List Event} {event : Event} (h : Served p done)
      (hbacklog : p.backlog = event :: rest) :
    Served p.turn.1 (done ++ [event])

/-- The request of an event has the id of a request before it, among those of the batch that have
been dealt with (`done`). -/
def Repeats (done : List Event) (event : Event) (id : RequestId) : Prop :=
  event.requestId? = some id ∧ id ∈ done.filterMap Event.requestId?

/-! ### The ids that await a reply -/

/-- Of the requests at hand, those await a reply whose ids are not those of events dealt with. This
is the invariant of a pump that is `Served`. -/
structure Tallied (p : Pump σ) (done : List Event) : Prop where
  state_ne : p.client.state ≠ .exited
  isAwaitingReply_iff : ∀ id ∈ p.backlog.filterMap Event.requestId?,
    (p.client.isAwaitingReply id = true ↔ id ∉ done.filterMap Event.requestId?)

namespace Tallied

omit [Transport σ] in
/-- Nothing is to be said of a pump with an empty `backlog`, but that its session has not ended. -/
theorem of_backlog_nil {p : Pump σ} {done : List Event} (hstate : p.client.state ≠ .exited)
    (hbacklog : p.backlog = []) : Tallied p done where
  state_ne := hstate
  isAwaitingReply_iff id hid := by
    rw [hbacklog] at hid
    cases hid

omit [Transport σ] in
/-- A request of the client leaves it `Tallied`: it is not the reply to any id, and it records none.
-/
theorem command {p : Pump σ} {done : List Event} (h : Tallied p done) {op : Operation}
    {request : ClientRequest × Option Json} (hop : op.request? p.client.config = some request)
    (journal : Array Log.Record) :
    Tallied { p with client := (p.client.perform op).1, journal := journal } done := by
  have hperformed := Client.performed_perform p.client op
  have hsilent : op ≠ .sendExit ∧ (p.client.perform op).2.requestIds = [] := by
    cases op with
    | sendInitialize | sendShutdown => exact ⟨nofun, rfl⟩
    | _ => cases hop
  refine ⟨hperformed.state_ne_exited hsilent.1 h.state_ne, fun id hid => ?_⟩
  rw [hperformed.isAwaitingReply_iff, hsilent.2,
    Operation.repliedId?_of_response? (Operation.response?_of_request? hop)]
  refine ((or_iff_right List.not_mem_nil).trans ?_).trans (h.isAwaitingReply_iff id hid)
  exact and_iff_left (Option.some_ne_none id).symm

/-- Writing leaves the tally alone, since `Flushed` keeps all of the client but what it had queued.
-/
theorem flushed {p q : Pump σ} {done : List Event} {result : Except PumpError Unit}
    (h : Tallied p done) (hflushed : Flushed p q result) : Tallied q done := by
  obtain ⟨hclient, hbacklog⟩ := hflushed.kept
  refine ⟨?_, fun id hid => ?_⟩
  · rw [hclient]
    exact h.state_ne
  · rw [hclient]
    rw [hbacklog] at hid
    exact h.isAwaitingReply_iff id hid

omit [Transport σ] in
/-- An event that is dealt with by `handle` joins those dealt with, whether or not its reply is
refused. If it is refused then its id had been dealt with already. -/
theorem answered {p q : Pump σ} {done rest : List Event} {event : Event}
    {result : Except PumpError Unit} (h : Tallied p done) (hbacklog : p.backlog = event :: rest)
    (hanswered : Answered { p with backlog := rest } event q result) :
    Tallied q (done ++ [event]) := by
  have hrest : q.backlog = rest := hanswered.kept.2
  have htail (id : RequestId) (hid : id ∈ q.backlog.filterMap Event.requestId?) :
      p.client.isAwaitingReply id = true ↔ id ∉ done.filterMap Event.requestId? := by
    refine h.isAwaitingReply_iff id ?_
    rw [hbacklog, filterMap_cons_eq_append]
    rw [hrest] at hid
    exact List.mem_append_right _ hid
  have hjoin (id : RequestId) : id ∉ (done ++ [event]).filterMap Event.requestId? ↔
      id ∉ done.filterMap Event.requestId? ∧ event.requestId? ≠ some id := by
    rw [filterMap_concat_eq_append, List.mem_append, not_or, Option.mem_toList]
  -- A reply that is refused changes nothing, so its id must have been taken out before.
  cases result with
  | ok _ =>
    have hclient := hanswered.client_eq
    refine ⟨?_, fun id hid => ?_⟩
    · rw [hclient, Client.state_afterReply]
      exact h.state_ne
    · rw [hclient, Client.isAwaitingReply_afterReply_iff, hjoin]
      exact and_congr_left' (htail id hid)
  | error e =>
    obtain ⟨other, hother, hnone, -, hclient⟩ := hanswered.of_error h.state_ne
    have hstate : q.client.state = p.client.state := by rw [hclient]
    refine ⟨hstate ▸ h.state_ne, fun id hid => ?_⟩
    rw [hclient, hjoin, hother]
    refine (htail id hid).trans (iff_self_and.mpr fun hnot hsame => ?_)
    cases hsame
    have hawaiting := (htail other hid).mpr hnot
    rw [show p.client.isAwaitingReply other = false from hnone] at hawaiting
    cases hawaiting

/-- A turn keeps a pump `Tallied`: it begins a new one, or counts one more event. -/
theorem turned {p q : Pump σ} {done : List Event} {turn : Turn} (h : Tallied p done)
    (hturned : Turned p q turn) :
    (p.backlog = [] → Tallied q []) ∧
      ∀ event rest, p.backlog = event :: rest → Tallied q (done ++ [event]) := by
  cases hturned with
  | event hbacklog hanswered hflushed =>
    rw [hbacklog]
    refine ⟨nofun, fun event rest hcons => ?_⟩
    cases hcons
    exact (h.answered hbacklog hanswered).flushed hflushed
  | refused hbacklog hanswered =>
    rw [hbacklog]
    refine ⟨nofun, fun event rest hcons => ?_⟩
    cases hcons
    exact h.answered hbacklog hanswered
  | unwritten hbacklog hanswered hflushed =>
    rw [hbacklog]
    refine ⟨nofun, fun event rest hcons => ?_⟩
    cases hcons
    exact (h.answered hbacklog hanswered).flushed hflushed
  | unread hbacklog hflushed =>
    rw [hbacklog]
    refine ⟨fun _ => ?_, nofun⟩
    exact of_backlog_nil (h.flushed hflushed).state_ne (hflushed.kept.2.trans hbacklog)
  | fetched hbacklog hflushed hfetched =>
    rename_i r
    have hempty : r.backlog = [] := hflushed.kept.2.trans hbacklog
    have hstate := (h.flushed hflushed).state_ne
    rw [hbacklog]
    refine ⟨fun _ => ?_, nofun⟩
    cases hfetched with
    | dry => exact of_backlog_nil hstate hempty
    | faulty journal hread hfeed =>
      rename_i bytes t e
      have hperformed := Client.performed_perform r.client (.feed bytes)
      exact of_backlog_nil (hperformed.state_ne_exited nofun hstate) hempty
    | fed journal hread hfeed =>
      -- All requests of the batch are recorded before the first of them is replied to.
      rename_i bytes t events
      have hperformed := Client.performed_perform r.client (.feed bytes)
      have houtcome : (r.client.perform (.feed bytes)).2 = .fed (.ok events) :=
        congrArg Outcome.fed hfeed
      refine ⟨hperformed.state_ne_exited nofun hstate, fun id hid => ?_⟩
      have hrecorded : id ∈ events.filterMap Event.requestId? := by
        rw [hempty] at hid
        exact hid
      refine iff_of_true ((hperformed.isAwaitingReply_iff id).mpr (Or.inl ?_)) List.not_mem_nil
      rw [houtcome]
      exact hrecorded

end Tallied

/-- The ids that await a reply fit the events that have been dealt with, at every moment. The
induction is on how the pump was served. -/
theorem Served.tallied {p : Pump σ} {done : List Event} (h : Served p done) : Tallied p done := by
  induction h with
  | start hstate t => exact .of_backlog_nil hstate rfl
  | command h hop journal ih => exact ih.command hop journal
  | within h limit ih => exact ⟨ih.state_ne, ih.isAwaitingReply_iff⟩
  | flush h ih => exact ih.flushed (flushed_flush _)
  | fetch h hbacklog ih => exact (ih.turned (turned_turn _)).1 hbacklog
  | deal h hbacklog ih => exact (ih.turned (turned_turn _)).2 _ _ hbacklog

/-! ### Refusals -/

/-- The event at hand is refused and lost if it `Repeats` an id. The set of awaited ids has each id
once, and the earlier request has used it up. -/
theorem Tallied.turn_of_repeats {p : Pump σ} {done rest : List Event} {event : Event}
    {id : RequestId} (h : Tallied p done) (hbacklog : p.backlog = event :: rest)
    (hrepeats : Repeats done event id) :
    p.turn.2 = .failed (.session (.state (.unknownRequest id))) ∧ p.turn.1.backlog = rest := by
  obtain ⟨hid, hdone⟩ := hrepeats
  have hnone : ¬ p.client.isAwaitingReply id = true := by
    rw [h.isAwaitingReply_iff id (by
      rw [hbacklog, filterMap_cons_eq_append, hid]
      exact List.mem_append_left _ List.mem_cons_self)]
    exact not_not_intro hdone
  have hturned := turned_turn p
  generalize p.turn.1 = q at hturned ⊢
  generalize p.turn.2 = turn at hturned ⊢
  cases hturned with
  | event hcons hanswered | unwritten hcons hanswered =>
    rw [hbacklog] at hcons
    cases hcons
    exact absurd (hanswered.isAwaitingReply hid) hnone
  | refused hcons hanswered =>
    rw [hbacklog] at hcons
    cases hcons
    obtain ⟨other, hother, -, he, -⟩ := hanswered.of_error h.state_ne
    rw [hid] at hother
    cases hother
    exact ⟨by rw [he], hanswered.kept.2⟩
  | unread hnil | fetched hnil =>
    rw [hbacklog] at hnil
    cases hnil

/-- The event at hand is handed out if it `Repeats` no id and the transport does not fail. -/
theorem Tallied.turn_of_not_repeats {p : Pump σ} {done rest : List Event} {event : Event}
    (h : Tallied p done) (hbacklog : p.backlog = event :: rest)
    (hfirst : ∀ id, ¬ Repeats done event id) :
    p.turn.2 = .event event ∨ ∃ error, p.turn.2 = .failed (.io error) := by
  have hturned := turned_turn p
  generalize p.turn.1 = q at hturned
  generalize p.turn.2 = turn at hturned ⊢
  cases hturned with
  | event hcons hanswered hflushed =>
    rw [hbacklog] at hcons
    cases hcons
    exact Or.inl rfl
  | unwritten hcons hanswered hflushed =>
    cases hflushed with
    | failed => exact Or.inr ⟨_, rfl⟩
  | refused hcons hanswered =>
    rw [hbacklog] at hcons
    cases hcons
    obtain ⟨id, hid, hnone, -, -⟩ := hanswered.of_error h.state_ne
    have hdone : id ∈ done.filterMap Event.requestId? := by
      by_contra hnot
      have hawaiting := (h.isAwaitingReply_iff id (by
        rw [hbacklog, filterMap_cons_eq_append, hid]
        exact List.mem_append_left _ List.mem_cons_self)).mpr hnot
      rw [show p.client.isAwaitingReply id = false from hnone] at hawaiting
      cases hawaiting
    exact absurd ⟨hid, hdone⟩ (hfirst id)
  | unread hnil | fetched hnil =>
    rw [hbacklog] at hnil
    cases hnil

/-- A turn fails for a fault of the transport or of the server, or because of an id that the event
at hand repeats. -/
theorem Tallied.turn_failed {p : Pump σ} {done : List Event} {e : PumpError} (h : Tallied p done)
    (hturn : p.turn.2 = .failed e) :
    (∃ error, e = .io error) ∨ e = .eof ∨ (∃ fault, e = .session (.protocol fault)) ∨
      ∃ event rest id, p.backlog = event :: rest ∧ Repeats done event id ∧
        e = .session (.state (.unknownRequest id)) := by
  -- With an event at hand only its reply and a write can fail; without one, a write, a read and a
  -- feed.
  cases hbacklog : p.backlog with
  | cons event rest =>
    by_cases hrepeats : ∃ id, Repeats done event id
    · obtain ⟨id, hid⟩ := hrepeats
      rw [(h.turn_of_repeats hbacklog hid).1] at hturn
      cases hturn
      exact Or.inr (Or.inr (Or.inr ⟨event, rest, id, rfl, hid, rfl⟩))
    · rcases h.turn_of_not_repeats hbacklog (not_exists.mp hrepeats) with hevent | ⟨error, hfailed⟩
      · rw [hevent] at hturn
        cases hturn
      · rw [hfailed] at hturn
        cases hturn
        exact Or.inl ⟨error, rfl⟩
  | nil =>
    have hturned := turned_turn p
    rw [hturn] at hturned
    generalize p.turn.1 = q at hturned
    cases hturned with
    | refused hcons | unwritten hcons =>
      rw [hbacklog] at hcons
      cases hcons
    | unread hnil hflushed =>
      cases hflushed with
      | failed => exact Or.inl ⟨_, rfl⟩
    | fetched hnil hflushed hfetched =>
      cases hfetched with
      | dry hread hresult =>
        rename_i result t
        cases result with
        | bytes | waiting => cases hresult
        | ended =>
          cases hresult
          exact Or.inr (Or.inl rfl)
        | failed error =>
          cases hresult
          exact Or.inl ⟨error, rfl⟩
      | faulty => exact Or.inr (Or.inr (Or.inl ⟨_, rfl⟩))

/-- A pump that takes turns stays one whose caller leaves the replies to it, so `Served` holds
whenever a wait ends. -/
theorem Served.turns {accept : Event → Bool} {p q : Pump σ} {done events : List Event}
    (h : Served p done) (hturns : Turns accept p events q) : ∃ done', Served q done' := by
  have hturn (p : Pump σ) (hp : ∃ done, Served p done) : ∃ done, Served p.turn.1 done := by
    obtain ⟨done, h⟩ := hp
    cases hbacklog : p.backlog with
    | nil => exact ⟨[], h.fetch hbacklog⟩
    | cons event rest => exact ⟨done ++ [event], h.deal hbacklog⟩
  exact hturns.induction hturn ⟨done, h⟩

/-- Take a pump whose caller leaves the replies to it and does not end the session (`Served`). If
waiting for an event fails, then for a fault of the transport or of the server, or because the
request of the event that was dealt with last has the id of a request before it in the same batch.
Then the error is that no reply to this id is awaited. And so it is whenever such an event is at
hand: waiting fails for that reason, and the event is lost. Any other event at hand is handed out,
unless the transport fails. -/
theorem waitFor_of_served {p : Pump σ} {done : List Event} (h : Served p done)
    (accept : Event → Bool) :
    (∀ e, (p.waitFor accept).2.2 = .ready (.error e) →
      (∃ error, e = .io error) ∨ e = .eof ∨ (∃ fault, e = .session (.protocol fault)) ∨
        ∃ before event id, Served (p.waitFor accept).1 (before ++ [event]) ∧
          Repeats before event id ∧ e = .session (.state (.unknownRequest id))) ∧
      ∀ event rest, p.backlog = event :: rest →
        (∀ id, Repeats done event id →
          (p.waitFor accept).2.2 = .ready (.error (.session (.state (.unknownRequest id)))) ∧
            (p.waitFor accept).1.backlog = rest) ∧
        ((∀ id, ¬ Repeats done event id) →
          p.turn.2 = .event event ∨ ∃ error, p.turn.2 = .failed (.io error)) := by
  refine ⟨fun e hfails => ?_, fun event rest hbacklog => ⟨fun id hid => ?_, fun hfirst => ?_⟩⟩
  · obtain ⟨events, q, turn, result, hturns, hlast, hresult, hwait⟩ := waitFrom_cases accept 0 p
    obtain ⟨before, hq⟩ := h.turns hturns
    rw [waitFor, hwait] at hfails ⊢
    -- The wait reports the failure of its last turn and makes none up.
    have hfailed : turn = .failed e := by
      have hready : result = .ready (.error e) := hfails
      rw [hready] at hresult
      cases turn with
      | event event =>
        rw [Turn.result?] at hresult
        split at hresult <;> cases hresult
      | failed e' =>
        cases hresult
        rfl
      | again | pending => cases hresult
    rcases hq.tallied.turn_failed (hlast.trans hfailed) with
      hio | heof | hfault | ⟨event, rest, id, hbacklog, hid, he⟩
    · exact Or.inl hio
    · exact Or.inr (Or.inl heof)
    · exact Or.inr (Or.inr (Or.inl hfault))
    · exact Or.inr (Or.inr (Or.inr ⟨before, event, id, hq.deal hbacklog, hid, he⟩))
  · obtain ⟨hturn, hlost⟩ := h.tallied.turn_of_repeats hbacklog hid
    rw [waitFor, waitFrom_eq]
    generalize p.turn = next at hturn hlost ⊢
    obtain ⟨q, turn⟩ := next
    cases hturn
    exact ⟨rfl, hlost⟩
  · exact h.tallied.turn_of_not_repeats hbacklog hfirst

/-! ### An id used twice -/

/-- A request of a server for `workspace/configuration`, which is not understood, with the id four.
-/
private def ask : Json :=
  .object [("id", .number (.integer 4)), ("jsonrpc", .string "2.0"),
    ("method", .string "workspace/configuration")]

/-- The event that `ask` comes to, one of a method that is not understood. -/
private def asked : Event := .unsupported (some (.integer 4)) "workspace/configuration" none

/-- A pump whose server writes the request `ask` twice, in one piece. -/
private def asking : Pump Stream := new .new ⟨[Frame.encodeAll [ask, ask]], none, [], none⟩

/-- The two events of `asking` come to hand together. The first of them is handed out, and the
second is refused. -/
private theorem turns_asking : ∃ q r s, asking.turn = (q, .again) ∧ q.backlog = [asked, asked] ∧
    q.turn = (r, .event asked) ∧ r.backlog = [asked] ∧
    r.turn = (s, .failed (.session (.state (.unknownRequest (.integer 4))))) ∧ s.backlog = [] := by
  have hlength : (Frame.encodeAll [ask, ask]).length = 162 := by decide +kernel
  have ht : asking.transport.Faultless := by
    refine ⟨?_, rfl, rfl⟩
    show ∀ chunk ∈ [_], chunk ≠ []
    simp [← List.length_pos_iff, hlength]
  have hfeed : asking.client.feed (Frame.encodeAll [ask, ask]) =
      ((Client.new.discard.applyAll [.call asked, .call asked]).1, .ok [asked, asked]) := by
    have hplain : ∀ m ∈ [ask, ask], m.isIntegral Json.depthLimit = true ∧ m.isOrdered = true ∧
        (Frame.bodyOf m).length ≤ Frame.defaultLimit := by decide +kernel
    refine Client.feed_encodeAll rfl hplain ?_ rfl
    rw [hlength]
    decide
  obtain ⟨bytes, rest, -, -, hfits, hturn⟩ :=
    turn_of_input (p := asking) rfl ht (List.cons_ne_nil _ _)
  obtain ⟨rfl, rfl⟩ := hfits _ [] rfl (by rw [hlength]; decide)
  obtain ⟨q, hagain, harrived⟩ := hturn _ _ hfeed
  -- Both requests were recorded together, under the one id.
  have hq : Tallied q [] := by
    have hserved : Served asking.turn.1 [] := .fetch (.start (c := .new) nofun _) rfl
    rw [hagain] at hserved
    exact hserved.tallied
  obtain ⟨r, hfirst, hr, -, -⟩ := turn_of_backlog harrived.backlog_eq harrived.faultless
    hq.state_ne fun id hid => by
      refine (harrived.isAwaitingReply_iff id).mpr (Or.inl ?_)
      rw [filterMap_cons_eq_append, hid]
      exact List.mem_append_left _ List.mem_cons_self
  have htallied : Tallied r [asked] := by
    have hturned := turned_turn q
    rw [hfirst] at hturned
    exact (hq.turned hturned).2 _ _ harrived.backlog_eq
  have hrepeats : Repeats [asked] asked (.integer 4) := ⟨rfl, List.mem_cons_self⟩
  obtain ⟨hsecond, hlost⟩ := htallied.turn_of_repeats hr hrepeats
  exact ⟨q, r, r.turn.1, hagain, harrived.backlog_eq, hfirst, hr, Prod.ext rfl hsecond, hlost⟩

/-- A server that uses an id twice in one piece makes the pump of `asking` fail with the error of a
command that is not allowed, though its caller has asked for nothing. The event of the second
request is lost. -/
theorem nextEvents_asking : ∃ q,
    asking.nextEvents 2 =
        (q, [.ready (.ok (.unsupported (some (.integer 4)) "workspace/configuration" none)),
          .ready (.error (.session (.state (.unknownRequest (.integer 4)))))]) ∧
      q.backlog = [] := by
  obtain ⟨q, r, s, hagain, -, hfirst, -, hsecond, hs⟩ := turns_asking
  refine ⟨s, ?_, hs⟩
  rw [nextEvents_of_again hagain, nextEvents_succ, nextEvent_eq, hfirst]
  simp only [nextEvents_succ, nextEvent_eq, hsecond]
  rfl

/-- Once the first of the two events has been handed out, `waitFor` fails whatever is waited for,
and the second event is at hand no more. -/
theorem waitFor_asking : ∃ p : Pump Stream, Served p [asked] ∧ p.backlog = [asked] ∧
    Repeats [asked] asked (.integer 4) ∧ ∀ accept,
      (p.waitFor accept).2.2 =
          .ready (.error (.session (.state (.unknownRequest (.integer 4))))) ∧
        (p.waitFor accept).1.backlog = [] := by
  obtain ⟨q, r, s, hagain, hq, hfirst, hr, -⟩ := turns_asking
  have hstart : Served asking [] := .start (c := .new) nofun _
  have hserved : Served r [asked] := by
    have hfetched := hstart.fetch rfl
    rw [hagain] at hfetched
    have hdealt := hfetched.deal hq
    rw [hfirst] at hdealt
    exact hdealt
  have hrepeats : Repeats [asked] asked (.integer 4) := ⟨rfl, List.mem_cons_self⟩
  exact ⟨r, hserved, hr, hrepeats, fun accept =>
    ((waitFor_of_served hserved accept).2 asked [] hr).1 _ hrepeats⟩

end LspSession.Pump
