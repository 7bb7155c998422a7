import LspSession.Json.Reader

/-!
# `LspSession.Proofs.Json.Fault`: what a fault says about longer inputs

A `Fault` comes from one input, but whoever gets the bytes of a document bit by bit wants to know
what it says about the bytes that are still to come. The theorems:

* `Reading.run_append_of_error`: a reader that stops at a byte stops there whatever follows. It
  stops at the end for two reasons: something is still open, or the number that the input ends in is
  too large, which an exponent behind it could mend.
* `ofBytes_append_of_error`: so the fault of an input, with its sentence and its place, is the fault
  of all inputs that start with it, unless it is one of those two.
* `fault_of_ofBytes_append`: what is missing a few bytes to be a document has one of those two
  faults. No other fault can come from reading too early.
-/

set_option autoImplicit false

namespace LspSession.Json

/-- A fault that more bytes may mend: something is still open, or the input ends in a number that is
too large as far as it goes. -/
def Fault.mayMend : Fault → Bool
  | .truncated => true
  | @malformed wrong _ => wrong == .numberTooLarge

/-- A reader that has nothing left to read stops for want of bytes or for a number that is too
large. All other faults are found at a byte, by `Reading.step`. -/
theorem Reading.stop_of_finish {s : Reading} {stop : Stop} (h : s.finish = .error stop) :
    (∃ inside, stop = .short inside) ∨ ∃ left, stop = .wrong .numberTooLarge left := by
  unfold finish at h
  split at h
  · cases h
  · split at h
    · exact Or.inl ⟨_, (Except.error.inj h).symm⟩
    · split at h
      · exact Or.inr ⟨_, (Except.error.inj h).symm⟩
      · cases h
      · exact Or.inl ⟨_, (Except.error.inj h).symm⟩
  · exact Or.inl ⟨_, (Except.error.inj h).symm⟩

/-- Where a reader stops at a byte, it stops there with any bytes `more` behind its input, which are
then left besides those that were left before. -/
theorem Reading.run_append_of_error {s : Reading} {bytes : Bytes} {stop : Stop}
    (h : s.run bytes = .error stop) :
    (∃ inside, stop = .short inside) ∨ (∃ left, stop = .wrong .numberTooLarge left) ∨
      ∃ w left, stop = .wrong w left ∧
        ∀ more, s.run (bytes ++ more) = .error (.wrong w (left + more.length)) := by
  induction bytes generalizing s with
  | nil =>
    rcases stop_of_finish h with hshort | hlarge
    · exact Or.inl hshort
    · exact Or.inr (Or.inl hlarge)
  | cons b rest ih =>
    unfold run at h
    cases hstep : s.step b with
    | some next =>
      rw [hstep] at h
      rcases ih h with hshort | hlarge | ⟨w, left, hstop, hmore⟩
      · exact Or.inl hshort
      · exact Or.inr (Or.inl hlarge)
      · refine Or.inr (Or.inr ⟨w, left, hstop, fun more => ?_⟩)
        rw [List.cons_append, run, hstep]
        exact hmore more
    | none =>
      rw [hstep] at h
      -- The byte is refused whatever follows, so only the number of bytes left is another.
      refine Or.inr (Or.inr ⟨_, _, (Except.error.inj h).symm, fun more => ?_⟩)
      rw [List.cons_append, run, hstep, List.length_append]
      dsimp only
      rw [Nat.add_right_comm]

/-- A reader that stops at the same byte of a longer input reports the same `Fault`: what counts for
its place are the bytes up to there. -/
theorem Stop.fault_append {w : Wrong} {left : Nat} {bytes : Bytes} (more : Bytes) :
    Stop.fault (bytes ++ more) (.wrong w (left + more.length)) =
      Stop.fault bytes (.wrong w left) := by
  have hcount : (bytes ++ more).length - (left + more.length) = bytes.length - left := by
    rw [List.length_append]
    omega
  unfold fault
  dsimp only
  rw [hcount, List.take_append_of_le_length (Nat.sub_le _ _)]

/-- The fault of an input is the fault of every longer one, with the same sentence and the same
place, unless more bytes may mend it. -/
theorem ofBytes_append_of_error {bytes : Bytes} {fault : Fault} (h : ofBytes bytes = .error fault)
    (hfinal : fault.mayMend = false) (more : Bytes) : ofBytes (bytes ++ more) = .error fault := by
  unfold ofBytes at h ⊢
  cases hrun : Reading.run ⟨[], .value⟩ bytes with
  | ok document =>
    rw [hrun] at h
    cases h
  | error stop =>
    rw [hrun] at h
    have hfault : Stop.fault bytes stop = fault := Except.error.inj h
    subst hfault
    -- The first two ways to stop are those that `mayMend` admits, and `hfinal` excludes them.
    rcases Reading.run_append_of_error hrun with ⟨inside, rfl⟩ | ⟨left, rfl⟩ | ⟨w, left, rfl, hmore⟩
    · cases hfinal
    · cases hfinal
    · rw [hmore more]
      exact congrArg Except.error (Stop.fault_append more)

/-- Where some bytes complete an input to a document, its fault is one that more bytes may mend. -/
theorem fault_of_ofBytes_append {bytes more : Bytes} {document : Json} {fault : Fault}
    (h : ofBytes bytes = .error fault) (hmore : ofBytes (bytes ++ more) = .ok document) :
    fault.mayMend = true := by
  cases hmend : fault.mayMend with
  | true => rfl
  | false =>
    rw [ofBytes_append_of_error h hmend more] at hmore
    cases hmore

end LspSession.Json
