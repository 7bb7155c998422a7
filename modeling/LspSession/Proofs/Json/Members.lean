import Mathlib.Data.List.Nodup
import LspSession.Json.Basic

/-!
# `LspSession.Proofs.Json.Members`: looking for a member by its name

The members of an object may be listed in any order when the object is written, and stand in
ascending order when it has been read. Whoever looks for a member by its name finds the same value
in both lists if no two members have one name (`member?_sortMembers`). Sorting the values of the
members as well sorts the value that is found (`member?_sorted`).
-/

set_option autoImplicit false

namespace LspSession.Json

/-- Where no two members have one name, the value that `member?` finds for a name is the one listed
with it. Without the hypothesis the first of several would be found. -/
theorem member?_eq_some_iff {members : List (String × Json)} (h : (members.map Prod.fst).Nodup)
    {name : String} {value : Json} :
    member? name members = some value ↔ (name, value) ∈ members := by
  induction members with
  | nil => exact iff_of_false nofun List.not_mem_nil
  | cons first rest ih =>
    obtain ⟨key, found⟩ := first
    rw [List.map_cons, List.nodup_cons] at h
    rw [List.mem_cons, member?, List.lookup_cons]
    by_cases hkey : name = key
    · subst hkey
      -- The name stands at the front, so it stands nowhere else.
      have hrest : (name, value) ∉ rest := fun hmem => h.1 (List.mem_map.mpr ⟨_, hmem, rfl⟩)
      simp [hrest, eq_comm]
    · rw [beq_false_of_ne hkey]
      exact (ih h.2).trans (by simp [hkey])

/-- A member that is found, with the others that `withoutMember` leaves, is all members in some
order. So a member can be taken out of an object and put back. -/
theorem perm_cons_withoutMember {members : List (String × Json)}
    (h : (members.map Prod.fst).Nodup) {name : String} {value : Json}
    (hfound : member? name members = some value) :
    ((name, value) :: withoutMember name members).Perm members := by
  have hmembers : members.Nodup := List.Nodup.of_map _ h
  have hothers : ((name, value) :: withoutMember name members).Nodup :=
    List.nodup_cons.mpr ⟨fun hmem => by simp [withoutMember] at hmem, hmembers.filter _⟩
  refine (List.perm_ext_iff_of_nodup hothers hmembers).mpr fun ⟨key, other⟩ => ?_
  rw [List.mem_cons, withoutMember, List.mem_filter]
  by_cases hkey : key = name
  · -- The name stands only once, so a member with it is the one that was found.
    subst hkey
    rw [← member?_eq_some_iff h, hfound]
    simp [eq_comm]
  · simp [hkey]

/-- Members with different names are kept when `consMember` joins members with one name: there is
nothing to join. -/
theorem foldr_consMember {members : List (String × Json)} (h : (members.map Prod.fst).Nodup) :
    members.foldr consMember [] = members := by
  induction members with
  | nil => rfl
  | cons first rest ih =>
    rw [List.map_cons, List.nodup_cons] at h
    rw [List.foldr_cons, ih h.2]
    cases rest with
    | nil => rfl
    | cons next rest =>
      -- Two members that stand side by side have different names, so neither replaces the other.
      have hne : first.1 ≠ next.1 := fun heq => h.1 (by rw [heq]; exact List.mem_cons_self)
      exact if_neg hne

/-- Sorting members with different names by `sortMembers` only reorders them, since joining them has
no effect. -/
theorem perm_sortMembers {members : List (String × Json)} (h : (members.map Prod.fst).Nodup) :
    (sortMembers members).Perm members := by
  have hperm := List.mergeSort_perm members fun a b => !decide (b.1 < a.1)
  have hnames := ((hperm.map Prod.fst).nodup_iff).mpr h
  rw [sortMembers, foldr_consMember hnames]
  exact hperm

/-- Sorting members with different names changes no value that is found by name. So a reader of
members need not know in which order they were written. -/
theorem member?_sortMembers {members : List (String × Json)} (h : (members.map Prod.fst).Nodup)
    (name : String) : member? name (sortMembers members) = member? name members := by
  have hperm := perm_sortMembers h
  have hsorted : ((sortMembers members).map Prod.fst).Nodup :=
    ((hperm.map Prod.fst).nodup_iff).mpr h
  refine Option.ext fun value => ?_
  -- Both lists hold the same members, and each name stands once in either.
  rw [member?_eq_some_iff hsorted, member?_eq_some_iff h]
  exact hperm.mem_iff

/-- Sorting the values of members by `sortedMembers` keeps their names, and the order in which they
stand. -/
theorem map_fst_sortedMembers (members : List (String × Json)) :
    (sortedMembers members).map Prod.fst = members.map Prod.fst := by
  induction members with
  | nil => rfl
  | cons first rest ih =>
    rw [sortedMembers, List.map_cons, List.map_cons, ih]

/-- Sorting the values of members sorts the value that is found, and where none was found none is.
-/
theorem member?_sortedMembers (name : String) (members : List (String × Json)) :
    member? name (sortedMembers members) = (member? name members).map sorted := by
  induction members with
  | nil => rfl
  | cons first rest ih =>
    obtain ⟨key, value⟩ := first
    rw [sortedMembers, member?, member?, List.lookup_cons, List.lookup_cons]
    cases name == key with
    | true => rfl
    | false => exact ih

/-- The value that is found by name in the members of a sorted object is the sorted value, if no two
members have one name. It joins `member?_sortMembers` and `member?_sortedMembers`, as `Json.sorted`
does both. -/
theorem member?_sorted {members : List (String × Json)} (h : (members.map Prod.fst).Nodup)
    (name : String) :
    member? name (sortMembers (sortedMembers members)) = (member? name members).map sorted := by
  have hnames : ((sortedMembers members).map Prod.fst).Nodup := by
    rw [map_fst_sortedMembers]
    exact h
  rw [member?_sortMembers hnames, member?_sortedMembers]

end LspSession.Json
