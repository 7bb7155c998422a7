import LspSession.Message.Basic

/-!
# `LspSession.Message.IdSet`: sets of request ids

A set of ids is kept as an ascending list, integers before strings, so that two sets with the same
members are equal and the order of insertions does not show.
-/

set_option autoImplicit false

namespace LspSession

/-- Whether an id comes before another: integers by their value, strings by their characters, and
every integer before every string. -/
def RequestId.before : RequestId → RequestId → Bool
  | .integer i, .integer j => decide (i < j)
  | .integer _, .string _ => true
  | .string _, .integer _ => false
  | .string s, .string t => decide (s < t)

/-- A set of ids, as a list in ascending order without repetitions. Sets are built with `insert` and
`erase` only. -/
structure IdSet where
  ids : List RequestId
  deriving DecidableEq, Repr

namespace IdSet

/-- The set of no ids. -/
def empty : IdSet := ⟨[]⟩

/-- Whether an id is in the set, looked up in the list `ids`. -/
def contains (s : IdSet) (id : RequestId) : Bool := s.ids.contains id

/-- An ascending list with one more id at its place by `RequestId.before`. An id that is in the list
already is not put there again. -/
def insertInto (id : RequestId) : List RequestId → List RequestId
  | [] => [id]
  | x :: rest =>
    -- The list ascends, so an id that is in it is met before any greater one.
    if id = x then x :: rest
    else if id.before x then id :: x :: rest
    else x :: insertInto id rest

/-- The set with one more id, which changes nothing if the id is in the set. -/
def insert (s : IdSet) (id : RequestId) : IdSet := ⟨insertInto id s.ids⟩

/-- The set without an id, which changes nothing if the id is not in the set. -/
def erase (s : IdSet) (id : RequestId) : IdSet := ⟨s.ids.filter (· ≠ id)⟩

/-- No id is in the empty set. -/
@[simp] theorem contains_empty (id : RequestId) : empty.contains id = false := rfl

/-- The members of `insertInto` are those before and the one inserted, wherever it has come to
stand. -/
private theorem mem_insertInto (id x : RequestId) (l : List RequestId) :
    x ∈ insertInto id l ↔ x = id ∨ x ∈ l := by
  induction l with
  | nil => simp [insertInto]
  | cons y rest ih =>
    unfold insertInto
    split
    · subst_vars
      simp
    · split
      · simp
      · simp only [List.mem_cons, ih]
        constructor
        · rintro (h | h | h)
          · exact Or.inr (Or.inl h)
          · exact Or.inl h
          · exact Or.inr (Or.inr h)
        · rintro (h | h | h)
          · exact Or.inr (Or.inl h)
          · exact Or.inl h
          · exact Or.inr (Or.inr h)

/-- An inserted id is in the set, and of every other id `contains` says what it said before. -/
theorem contains_insert (s : IdSet) (id x : RequestId) :
    (s.insert id).contains x = true ↔ x = id ∨ s.contains x = true := by
  simp [contains, insert, mem_insertInto]

/-- An erased id is not in the set, and of every other id `contains` says what it said before. -/
theorem contains_erase (s : IdSet) (id x : RequestId) :
    (s.erase id).contains x = true ↔ x ≠ id ∧ s.contains x = true := by
  simp [contains, erase, and_comm]

end IdSet

end LspSession
