/-!
# `LspSession.Proofs.Outcome`: when an outcome is a value

What a step comes to is a value or an error (`Except`). A row of steps gives a value if each of them
does, from the values of those before it. With these lemmas a reader is taken apart step by step,
and what is left of an outcome that is a value are the values that it was made of.
-/

set_option autoImplicit false

namespace LspSession

variable {α β : Type}

/-- A function is applied to an outcome that is a value. So `outcome.map f` is a value exactly if
`outcome` is. -/
theorem map_eq_ok_iff {ε : Type} {f : α → β} {outcome : Except ε α} {b : β} :
    outcome.map f = .ok b ↔ ∃ a, outcome = .ok a ∧ f a = b := by
  cases outcome <;> simp [Except.map]

/-- Renaming the errors changes no value: `outcome.mapError f` and `outcome` are the same values. -/
theorem mapError_eq_ok_iff {ε δ : Type} {f : ε → δ} {outcome : Except ε α} {a : α} :
    outcome.mapError f = .ok a ↔ outcome = .ok a := by
  cases outcome with
  | error e => constructor <;> intro h <;> cases h
  | ok value =>
    constructor
    · intro h
      cases h
      rfl
    · intro h
      cases h
      rfl

/-- Of two steps the second gives a value from the value of the first. Applied step by step this
takes a `do` block apart. -/
theorem bind_eq_ok_iff {ε : Type} {first : Except ε α} {next : α → Except ε β} {b : β} :
    first >>= next = .ok b ↔ ∃ a, first = .ok a ∧ next a = .ok b := by
  cases first <;> simp [bind, Except.bind]

end LspSession
