import LspSession.Client.Basic

/-!
# `LspSession.Proofs.Lifecycle`: the course of a session

What moves a session is few things: a request of the client is sent, granted or denied, and the
exit is sent. Each of them leads from one place to another, so the moves made so far say where the
session stands (`after`), if they follow on one another at all (`Follows`).

The moves of a whole session are a `course`: attempts to initialize until one is granted, attempts
to shut down until one is granted, and the exit. `isCourseSoFar_iff` says that rows of moves that
follow on one another from the start are the beginnings of courses. A row that leads to a place is
the same for all rows that lead there, but for the number of failed attempts (`history`).
-/

set_option autoImplicit false

namespace LspSession

namespace ClientRequest

/-- The `Lifecycle` place where a session has to stand for a request to be sent, and where it stands
again once the request is denied. -/
def source : ClientRequest → Lifecycle
  | .initialization => .uninitialized
  | .shutdown => .normal

/-- Where a session stands once a request is sent (`.sent`) and until it is answered. -/
def target : ClientRequest → Lifecycle
  | .initialization => .awaitingInitializeAck
  | .shutdown => .awaitingShutdownAck

/-- Where a session stands once a request is granted (`.granted`). -/
def goal : ClientRequest → Lifecycle
  | .initialization => .normal
  | .shutdown => .shutdown

end ClientRequest

namespace Lifecycle

/-- What moves a session from one place to another. Three moves are about one `ClientRequest` of the
two, and the exit is by itself. -/
inductive Move where
  /-- A request is sent to the server. -/
  | sent (kind : ClientRequest)
  /-- The server grants a request. -/
  | granted (kind : ClientRequest)
  /-- The server denies a request. -/
  | denied (kind : ClientRequest)
  /-- The exit is sent. -/
  | exit
  deriving DecidableEq

/-- Where a move starts from. An answer starts from where the sending of its request led. -/
def Move.source : Move → Lifecycle
  | .sent kind => kind.source
  | .granted kind | .denied kind => kind.target
  | .exit => .shutdown

/-- Where a move leads. A request that is denied leads back to where it was sent from. -/
def Move.target : Move → Lifecycle
  | .sent kind => kind.target
  | .granted kind => kind.goal
  | .denied kind => kind.source
  | .exit => .exited

/-! ### Rows of moves -/

/-- `Follows s moves t`: the moves lead from `s` to `t`, each starting where the one before it led.
So a row of moves has a meaning only if it fits together. -/
inductive Follows : Lifecycle → List Move → Lifecycle → Prop where
  | nil (s : Lifecycle) : Follows s [] s
  | cons (m : Move) {rest : List Move} {t : Lifecycle} (tail : Follows m.target rest t) :
    Follows m.source (m :: rest) t

/-- Where a session stands after moves from its start: the `Move.target` of the last. This says
nothing of whether the moves fit together. -/
def after (moves : List Move) : Lifecycle := (moves.getLast?.map Move.target).getD .start

/-- One move leads from its `source` to its `target`. -/
theorem Follows.single (m : Move) : Follows m.source [m] m.target := .cons m (.nil _)

/-- Moves that end where others start can be put in one row with them. -/
theorem Follows.append {s t u : Lifecycle} {first second : List Move} (h : Follows s first t)
    (h' : Follows t second u) : Follows s (first ++ second) u := by
  induction h with
  | nil s => exact h'
  | cons m tail ih => exact .cons m (ih h')

/-- A row of moves may be cut anywhere, and the place at the cut is where the `first` part ends and
the `second` starts. -/
theorem Follows.of_append {s u : Lifecycle} {first second : List Move}
    (h : Follows s (first ++ second) u) : ∃ t, Follows s first t ∧ Follows t second u := by
  induction first generalizing s with
  | nil => exact ⟨s, .nil s, h⟩
  | cons m rest ih =>
    rw [List.cons_append] at h
    cases h with
    | cons m tail =>
      obtain ⟨t, hrest, hsecond⟩ := ih tail
      exact ⟨t, .cons m hrest, hsecond⟩

/-- Moves lead to where the last of them leads, and no moves lead nowhere else. So `after` is right
for moves that fit together. -/
theorem Follows.eq_getLast? {s t : Lifecycle} {moves : List Move} (h : Follows s moves t) :
    t = (moves.getLast?.map Move.target).getD s := by
  induction h with
  | nil s => rfl
  | cons m tail ih =>
    rename_i rest t
    rw [ih, List.getLast?_cons]
    cases rest.getLast? <;> rfl

/-- Moves lead from a place to one place only. -/
theorem Follows.unique {s t u : Lifecycle} {moves : List Move} (h : Follows s moves t)
    (h' : Follows s moves u) : t = u := h.eq_getLast?.trans h'.eq_getLast?.symm

/-- Nothing follows `exited`, because no move starts there. -/
theorem Follows.eq_nil_of_exited {t : Lifecycle} {moves : List Move}
    (h : Follows .exited moves t) : moves = [] ∧ t = .exited := by
  -- The place is made a variable for the case split; afterwards each move starts from some other
  -- place.
  generalize hs : Lifecycle.exited = s at h
  cases h with
  | nil => exact ⟨rfl, rfl⟩
  | cons m tail =>
    cases m with
    | sent kind | granted kind | denied kind => cases kind <;> cases hs
    | exit => cases hs

/-- Once the exit is among the moves, it is the last of them and they lead to `exited`. -/
theorem Follows.eq_exited_of_mem {s t : Lifecycle} {moves : List Move} (h : Follows s moves t)
    (hexit : .exit ∈ moves) : t = .exited := by
  induction h with
  | nil s => cases hexit
  | cons m tail ih =>
    rcases List.mem_cons.mp hexit with rfl | hrest
    · exact tail.eq_nil_of_exited.2
    · exact ih hrest

/-! ### Courses -/

/-- Attempts at a request that are denied, `n` of them: each is sent and denied. -/
def failures (kind : ClientRequest) (n : Nat) : List Move :=
  (List.replicate n [.sent kind, .denied kind]).flatten

/-- Attempts at a request up to the one that is granted, `n` of which are denied before. -/
def attempts (kind : ClientRequest) (n : Nat) : List Move :=
  failures kind n ++ [.sent kind, .granted kind]

/-- The moves of a whole session, by the numbers of attempts that fail: `m` at initializing and `n`
at shutting down. -/
def course (m n : Nat) : List Move := attempts .initialization m ++ attempts .shutdown n ++ [.exit]

/-- The moves are the beginning of those of a whole session, with any numbers of attempts that fail.
-/
def IsCourseSoFar (moves : List Move) : Prop := ∃ m n, moves <+: course m n

/-- One attempt more that fails stands behind the others. `failures` puts it in front. -/
theorem failures_succ (kind : ClientRequest) (n : Nat) :
    failures kind (n + 1) = failures kind n ++ [.sent kind] ++ [.denied kind] := by
  rw [failures, List.replicate_succ', List.flatten_append, List.append_assoc]
  rfl

/-- `attempts` with its last two moves one by one, as moves are put behind a history. -/
theorem attempts_eq (kind : ClientRequest) (n : Nat) :
    attempts kind n = failures kind n ++ [.sent kind] ++ [.granted kind] := by
  rw [attempts, List.append_assoc]
  rfl

/-- The moves that lead to a place, by the numbers of attempts that fail. They are determined but
for these numbers. -/
def history (m n : Nat) : Lifecycle → List Move
  | .uninitialized => failures .initialization m
  | .awaitingInitializeAck => failures .initialization m ++ [.sent .initialization]
  | .normal => attempts .initialization m ++ failures .shutdown n
  | .awaitingShutdownAck => attempts .initialization m ++ failures .shutdown n ++ [.sent .shutdown]
  | .shutdown => attempts .initialization m ++ attempts .shutdown n
  | .exited => course m n

/-- The failed attempts of `failures` lead back to where they started. -/
theorem follows_failures (kind : ClientRequest) (n : Nat) :
    Follows kind.source (failures kind n) kind.source := by
  induction n with
  | zero => exact .nil _
  | succ n ih =>
    rw [failures_succ]
    exact (ih.append (.single (.sent kind))).append (.single (.denied kind))

/-- Attempts up to the one that is granted lead to `goal`. -/
theorem follows_attempts (kind : ClientRequest) (n : Nat) :
    Follows kind.source (attempts kind n) kind.goal := by
  rw [attempts_eq]
  exact ((follows_failures kind n).append (.single (.sent kind))).append (.single (.granted kind))

/-- The moves of a whole session (`course`) lead from its start to its end. -/
theorem follows_course (m n : Nat) : Follows .start (course m n) .exited :=
  ((follows_attempts .initialization m).append (follows_attempts .shutdown n)).append
    (.single .exit)

/-- A move behind a history of where it starts is a `history` of where it leads. The numbers change
where the move is an attempt that fails. -/
theorem history_append_move (m n : Nat) (move : Move) :
    ∃ m' n', history m n move.source ++ [move] = history m' n' move.target := by
  cases move with
  | sent kind => cases kind <;> exact ⟨m, n, rfl⟩
  | granted kind =>
    cases kind with
    | initialization =>
      -- The attempts at the next request start to be counted.
      refine ⟨m, 0, ?_⟩
      show failures .initialization m ++ [.sent .initialization] ++ [.granted .initialization] =
        attempts .initialization m ++ []
      rw [attempts_eq, List.append_nil]
    | shutdown =>
      refine ⟨m, n, ?_⟩
      show attempts .initialization m ++ failures .shutdown n ++ [.sent .shutdown] ++
        [.granted .shutdown] = attempts .initialization m ++ attempts .shutdown n
      rw [attempts_eq .shutdown]
      simp only [List.append_assoc]
  | denied kind =>
    cases kind with
    | initialization => exact ⟨m + 1, n, (failures_succ _ m).symm⟩
    | shutdown =>
      refine ⟨m, n + 1, ?_⟩
      show attempts .initialization m ++ failures .shutdown n ++ [.sent .shutdown] ++
        [.denied .shutdown] = attempts .initialization m ++ failures .shutdown (n + 1)
      rw [failures_succ]
      simp only [List.append_assoc]
  | exit => exact ⟨m, n, rfl⟩

/-- Moves behind a `history` are a history of where they lead. The induction is on the moves, one at
a time. -/
theorem Follows.history_append {s t : Lifecycle} {moves : List Move} (h : Follows s moves t)
    (m n : Nat) : ∃ m' n', history m n s ++ moves = history m' n' t := by
  induction h generalizing m n with
  | nil s => exact ⟨m, n, List.append_nil _⟩
  | cons move tail ih =>
    -- The move extends the history by itself, and the rest extends what that gives.
    obtain ⟨m₁, n₁, hmove⟩ := history_append_move m n move
    obtain ⟨m₂, n₂, htail⟩ := ih m₁ n₁
    refine ⟨m₂, n₂, ?_⟩
    rw [← htail, ← hmove, List.append_assoc]
    rfl

/-- Every `history` is the beginning of a course with the same numbers. -/
theorem history_prefix_course (m n : Nat) (s : Lifecycle) : history m n s <+: course m n := by
  have hinitialization : failures .initialization m ++ [.sent .initialization] <+:
      attempts .initialization m := ⟨[.granted .initialization], (attempts_eq _ m).symm⟩
  have hshutdown : failures .shutdown n ++ [.sent .shutdown] <+: attempts .shutdown n :=
    ⟨[.granted .shutdown], (attempts_eq _ n).symm⟩
  have hcourse : attempts .initialization m ++ attempts .shutdown n <+: course m n :=
    List.prefix_append _ _
  have hfirst : attempts .initialization m <+: course m n :=
    (List.prefix_append _ _).trans hcourse
  have hsecond : attempts .initialization m ++ failures .shutdown n ++ [.sent .shutdown] <+:
      course m n := by
    rw [List.append_assoc]
    exact (List.prefix_append_right_inj _ |>.mpr hshutdown).trans hcourse
  -- The six histories stand one before the other in the course.
  cases s with
  | uninitialized => exact ((List.prefix_append _ _).trans hinitialization).trans hfirst
  | awaitingInitializeAck => exact hinitialization.trans hfirst
  | normal => exact (List.prefix_append _ _).trans hsecond
  | awaitingShutdownAck => exact hsecond
  | shutdown => exact hcourse
  | exited => exact List.prefix_rfl

/-- Moves follow on one another (`Follows`) from the start exactly if they are the beginning of a
course. One side is a language of rows and the other a walk through places. -/
theorem isCourseSoFar_iff {moves : List Move} :
    IsCourseSoFar moves ↔ ∃ s, Follows .start moves s := by
  constructor
  · rintro ⟨m, n, rest, hrest⟩
    have hcourse := follows_course m n
    rw [← hrest] at hcourse
    obtain ⟨s, hs, -⟩ := hcourse.of_append
    exact ⟨s, hs⟩
  -- The empty row is a history of the start, and the moves extend it to one of where they lead.
  · rintro ⟨s, hs⟩
    obtain ⟨m, n, hhistory⟩ := hs.history_append 0 0
    have hmoves : moves = history m n s := hhistory
    rw [hmoves]
    exact ⟨m, n, history_prefix_course m n s⟩

/-- A move keeps a beginning of a course such a beginning exactly if it starts where the session
stands. -/
theorem isCourseSoFar_append_iff {moves : List Move} {s : Lifecycle} (h : Follows .start moves s)
    (move : Move) : IsCourseSoFar (moves ++ [move]) ↔ s = move.source := by
  rw [isCourseSoFar_iff]
  constructor
  · rintro ⟨t, ht⟩
    obtain ⟨s', hs', hmove⟩ := ht.of_append
    rw [h.unique hs']
    cases hmove
    rfl
  · rintro rfl
    exact ⟨_, h.append (.single move)⟩

end Lifecycle

end LspSession
