import LspSession.Message.IdSet

/-!
# `LspSession.Proofs.Message.IdSet`: a set of ids does not show the order of insertions

A set of ids is a list, and an id is inserted before the first greater one. Ids are in a total order
(`RequestId.before_or_before`), so two ids that are inserted one after the other stand at the same
places whichever comes first (`IdSet.insert_comm`). The list need not be in order for this.
-/

set_option autoImplicit false

namespace LspSession

/-! ### The order of ids -/

/-- Of two different ids one comes before the other: `before` puts integers by their value, then
strings, in the order of their letters. -/
theorem RequestId.before_or_before {a b : RequestId} (h : a ≠ b) :
    a.before b = true ∨ b.before a = true := by
  cases a with
  | integer i =>
    cases b with
    | integer j =>
      have hne : i ≠ j := fun hij => h (congrArg RequestId.integer hij)
      simpa [before] using Int64.lt_or_lt_of_ne hne
    | string t => exact Or.inl rfl
  | string s =>
    cases b with
    | integer j => exact Or.inr rfl
    | string t =>
      have hne : s ≠ t := fun hst => h (congrArg RequestId.string hst)
      by_cases hlt : s < t
      · exact Or.inl (decide_eq_true hlt)
      · refine Or.inr (decide_eq_true (Decidable.not_not.mp fun hgt => hne ?_))
        exact String.le_antisymm (String.not_lt.mp hgt) (String.not_lt.mp hlt)

/-- An id that comes before another does not come after it, and is not the same. So the three cases
of `insertInto` exclude each other. -/
theorem RequestId.not_before_of_before {a b : RequestId} (h : a.before b = true) :
    b.before a = false ∧ a ≠ b := by
  cases a with
  | integer i =>
    cases b with
    | integer j =>
      have hlt : i < j := of_decide_eq_true h
      refine ⟨decide_eq_false (Int64.lt_asymm hlt), ?_⟩
      rintro ⟨⟩
      exact Int64.lt_irrefl hlt
    | string t => exact ⟨rfl, nofun⟩
  | string s =>
    cases b with
    | integer j => cases h
    | string t =>
      have hlt : s < t := of_decide_eq_true h
      refine ⟨decide_eq_false (String.lt_asymm hlt), ?_⟩
      rintro ⟨⟩
      exact String.lt_irrefl s hlt

/-- An id that comes before another comes before all that the other comes before. There are four
cases in which neither hypothesis puts a string before an integer. -/
theorem RequestId.before_trans {a b c : RequestId} (hab : a.before b = true)
    (hbc : b.before c = true) : a.before c = true := by
  cases a with
  | integer i =>
    cases b with
    | integer j =>
      cases c with
      | integer k =>
        exact decide_eq_true (Int64.lt_trans (of_decide_eq_true hab) (of_decide_eq_true hbc))
      | string u => rfl
    | string t =>
      cases c with
      | integer k => cases hbc
      | string u => rfl
  | string s =>
    cases b with
    | integer j => cases hab
    | string t =>
      cases c with
      | integer k => cases hbc
      | string u =>
        exact decide_eq_true (String.lt_trans (of_decide_eq_true hab) (of_decide_eq_true hbc))

namespace IdSet

/-! ### Insertions -/

/-- An id that comes before the first of a list is put in front of it by `insertInto`, and the rest
is not looked at. -/
theorem insertInto_of_before {a x : RequestId} (h : a.before x = true) (rest : List RequestId) :
    insertInto a (x :: rest) = a :: x :: rest := by
  rw [insertInto, if_neg (RequestId.not_before_of_before h).2, if_pos h]

/-- An id that comes after the first of a list is put by `insertInto` into what follows it. -/
theorem insertInto_of_after {a x : RequestId} (h : x.before a = true) (rest : List RequestId) :
    insertInto a (x :: rest) = x :: insertInto a rest := by
  obtain ⟨hbefore, hne⟩ := RequestId.not_before_of_before h
  rw [insertInto, if_neg hne.symm, if_neg (by rw [hbefore]; exact Bool.false_ne_true)]

/-- An id that is the first of a list is not put into it again, so a set has no id twice. -/
theorem insertInto_self (a : RequestId) (rest : List RequestId) :
    insertInto a (a :: rest) = a :: rest := by
  rw [insertInto, if_pos rfl]

/-- Two ids are put into a list at the same places, whether the smaller one comes first or last.
Both are compared with the first of the list, and with each other where they meet. -/
private theorem insertInto_comm_of_before {a b : RequestId} (h : a.before b = true)
    (ids : List RequestId) :
    insertInto a (insertInto b ids) = insertInto b (insertInto a ids) := by
  induction ids with
  | nil =>
    show insertInto a [b] = insertInto b [a]
    rw [insertInto_of_before h, insertInto_of_after h]
    rfl
  | cons x rest ih =>
    by_cases hax : a = x
    · subst hax
      rw [insertInto_of_after h, insertInto_self, insertInto_self, insertInto_of_after h]
    · rcases RequestId.before_or_before hax with hlt | hgt
      · -- The smaller id comes before the list, and before the list with the greater id in it.
        rw [insertInto_of_before hlt, insertInto_of_after h]
        by_cases hbx : b = x
        · subst hbx
          rw [insertInto_self, insertInto_of_before h]
        · rcases RequestId.before_or_before hbx with hlt' | hgt'
          · rw [insertInto_of_before hlt', insertInto_of_before h]
          · rw [insertInto_of_after hgt', insertInto_of_before hlt]
      -- Both ids come after the first of the list, so they go into what follows it.
      · rw [insertInto_of_after hgt, insertInto_of_after (RequestId.before_trans hgt h),
          insertInto_of_after hgt, insertInto_of_after (RequestId.before_trans hgt h), ih]

/-- The set does not show which of two ids was inserted first. Hence a batch of requests leaves the
same set in whatever order they come. -/
theorem insert_comm (s : IdSet) (a b : RequestId) :
    (s.insert a).insert b = (s.insert b).insert a := by
  unfold insert
  by_cases hab : a = b
  · rw [hab]
  · rcases RequestId.before_or_before hab with h | h
    · rw [insertInto_comm_of_before h]
    · rw [insertInto_comm_of_before h]

end IdSet

end LspSession
