import LspSession.Proofs.Json.Members
import LspSession.Proofs.Json.RoundTrip
import LspSession.Proofs.Outcome

/-!
# `LspSession.Proofs.Json.Ordered`: documents that are read are in order

The reader sorts the members of an object when it closes it, and joins members with one name. So
whatever bytes a document is read from, and in whatever order they list its members, the members of
every object in it stand in ascending order of their names, each name once (`isOrdered_of_ofBytes`).
An object in order is known by its members: putting them together anew, in any order, gives the same
object (`sortMembers_eq_of_perm`).

The reader takes one byte at a time, and what it holds meanwhile is in order: the values in the
containers that wait, and the value or the members at hand. `Reading.IsOrdered` says so, every byte
keeps it (`isOrdered_step`), and at the end only the document is left.
-/

set_option autoImplicit false

namespace LspSession.Json

/-! ### Members in ascending order -/

/-- Members stand in ascending order of their names, each name once. It is the form that
`sortMembers` gives to the members of an object that is read. -/
def Ascending (members : List (String × Json)) : Prop := members.Pairwise fun a b => a.1 < b.1

/-- Members in ascending order have different names, so `member?` finds the one that is listed. -/
theorem Ascending.nodup {members : List (String × Json)} (h : Ascending members) :
    (members.map Prod.fst).Nodup :=
  List.pairwise_map.mpr (List.Pairwise.imp (fun hlt => String.ne_of_lt hlt) h)

/-- Joining members with one name by `consMember` adds no member: of several with one name it keeps
one that was there. -/
theorem mem_of_mem_foldr_consMember {members : List (String × Json)} {m : String × Json}
    (h : m ∈ members.foldr consMember []) : m ∈ members := by
  induction members with
  | nil => exact h
  | cons member rest ih =>
    rw [List.foldr_cons] at h
    cases hjoined : rest.foldr consMember [] with
    | nil =>
      rw [hjoined] at h
      exact List.mem_cons.mpr (Or.inl (List.mem_singleton.mp h))
    | cons first more =>
      rw [hjoined, consMember] at h
      rw [hjoined] at ih
      split at h
      · exact List.mem_cons_of_mem _ (ih h)
      · rcases List.mem_cons.mp h with rfl | h
        · exact List.mem_cons_self
        · exact List.mem_cons_of_mem _ (ih h)

/-- Members in order of their names are ascending once those with one name are joined. After
sorting, equal names stand side by side, so joining neighbours is enough. -/
theorem ascending_foldr_consMember {members : List (String × Json)}
    (h : members.Pairwise fun a b => ¬ b.1 < a.1) : Ascending (members.foldr consMember []) := by
  induction members with
  | nil => exact List.Pairwise.nil
  | cons member rest ih =>
    obtain ⟨hfirst, hrest⟩ := List.pairwise_cons.mp h
    have hjoined := ih hrest
    have hmem : ∀ m ∈ rest.foldr consMember [], ¬ m.1 < member.1 := fun m hm =>
      hfirst m (mem_of_mem_foldr_consMember hm)
    rw [List.foldr_cons]
    generalize rest.foldr consMember [] = joined at hjoined hmem
    cases joined with
    | nil => exact List.pairwise_singleton _ _
    | cons first more =>
      rw [consMember]
      split
      · exact hjoined
      · next hne =>
        -- The name is below the first of the others, and so below all of them.
        have hlt : member.1 < first.1 :=
          Std.lt_of_le_of_ne (String.not_lt.mp (hmem first List.mem_cons_self)) hne
        refine List.pairwise_cons.mpr ⟨fun m hm => ?_, hjoined⟩
        rcases List.mem_cons.mp hm with rfl | hm
        · exact hlt
        · exact String.lt_trans hlt ((List.pairwise_cons.mp hjoined).1 m hm)

/-- Sorting by `sortMembers` puts members in ascending order, whatever they were. -/
theorem ascending_sortMembers (members : List (String × Json)) :
    Ascending (sortMembers members) := by
  let before (a b : String × Json) : Bool := !decide (b.1 < a.1)
  have hbefore (a b : String × Json) : before a b = true ↔ ¬ b.1 < a.1 := by
    simp only [before, Bool.not_eq_true', decide_eq_false_iff_not]
  have htrans (a b c : String × Json) (hab : before a b = true) (hbc : before b c = true) :
      before a c = true := by
    rw [hbefore, String.not_lt] at hab hbc ⊢
    exact String.le_trans hab hbc
  have htotal (a b : String × Json) : (before a b || before b a) = true := by
    rw [Bool.or_eq_true, hbefore, hbefore, String.not_lt, String.not_lt]
    exact String.le_total a.1 b.1
  -- The order of names is total and transitive, so the sorted list has no pair out of order.
  have hsorted := List.pairwise_mergeSort htrans htotal members
  exact ascending_foldr_consMember (hsorted.imp fun h => (hbefore _ _).mp h)

/-- Members in ascending order are what `sortMembers` gives for the same members in whatever order.
So an object in order is known by its members alone. -/
theorem sortMembers_eq_of_perm {members listed : List (String × Json)} (h : Ascending members)
    (hperm : listed.Perm members) : sortMembers listed = members := by
  have hnames : (listed.map Prod.fst).Nodup := ((hperm.map Prod.fst).nodup_iff).mpr h.nodup
  -- Two ascending lists of the same members are equal.
  refine List.Perm.eq_of_pairwise (fun a b _ _ hab hba => ?_) (ascending_sortMembers listed) h
    ((perm_sortMembers hnames).trans hperm)
  exact absurd (String.lt_trans hab hba) (String.lt_irrefl _)

/-! ### Values in order -/

/-- Items are in order exactly if each of them is. The test `areOrdered` walks the list, and proofs
use the statement for all members of it. -/
theorem areOrdered_iff {items : List Json} :
    areOrdered items = true ↔ ∀ item ∈ items, item.isOrdered = true := by
  induction items with
  | nil => exact iff_of_true rfl nofun
  | cons item items ih => rw [areOrdered, Bool.and_eq_true, ih, List.forall_mem_cons]

/-- The values of members are in order exactly if each of them is; nothing is said of the names
here. -/
theorem areOrderedMembers_iff {members : List (String × Json)} :
    areOrderedMembers members = true ↔ ∀ m ∈ members, m.2.isOrdered = true := by
  induction members with
  | nil => exact iff_of_true rfl nofun
  | cons m members ih => rw [areOrderedMembers, Bool.and_eq_true, ih, List.forall_mem_cons]

/-- An object is in order exactly if its members are `Ascending` and their values are in order. -/
theorem isOrdered_object_iff {members : List (String × Json)} :
    (Json.object members).isOrdered = true ↔
      Ascending members ∧ ∀ m ∈ members, m.2.isOrdered = true := by
  rw [isOrdered, Bool.and_eq_true, decide_eq_true_iff, areOrderedMembers_iff]
  rfl

/-- Values in order make an object in order when `ofMembers` puts them together, since it sorts the
members itself. -/
theorem isOrdered_ofMembers {members : List (String × Json)}
    (h : ∀ m ∈ members, m.2.isOrdered = true) : (ofMembers members).isOrdered = true := by
  refine isOrdered_object_iff.mpr ⟨ascending_sortMembers members, fun m hm => h m ?_⟩
  exact (List.mergeSort_perm members _).mem_iff.mp (mem_of_mem_foldr_consMember hm)

/-! ### The reader -/

/-- The values that an open container has read so far are in order. The members of an object are
sorted only when it is closed, so their own order does not count yet. -/
def Open.IsOrdered : Open → Prop
  | .array items => ∀ item ∈ items, item.isOrdered = true
  | .object members _ => ∀ m ∈ members, m.2.isOrdered = true

/-- What the reader has at hand is in order: the items or members read so far, or the value that is
finished or about to be. -/
def Mode.IsOrdered : Mode → Prop
  | .afterItem items => ∀ item ∈ items, item.isOrdered = true
  | .nextName members | .colon members _ | .afterMember members | .text (.name members) _ _ =>
    ∀ m ∈ members, m.2.isOrdered = true
  | .word _ document | .done document => document.isOrdered = true
  | .value | .firstItem | .firstName | .number _ | .text .value _ _ => True

/-- All that the reader holds is in order, in the containers that wait and at hand. This is the
invariant of the reader. -/
structure Reading.IsOrdered (s : Reading) : Prop where
  stack : ∀ o ∈ s.stack, o.IsOrdered
  mode : s.mode.IsOrdered

variable {s next : Reading} {b : UInt8} {stack : List Open}

/-- A finished value in order goes to the container that waits for it, and the reader stays in order
(`Reading.complete`). -/
theorem isOrdered_complete {value : Json} (hstack : ∀ o ∈ stack, o.IsOrdered)
    (hvalue : value.isOrdered = true) : (Reading.complete stack value).IsOrdered := by
  cases stack with
  | nil => exact ⟨hstack, hvalue⟩
  | cons o rest =>
    obtain ⟨ho, hrest⟩ := List.forall_mem_cons.mp hstack
    cases o with
    | array items => exact ⟨hrest, List.forall_mem_cons.mpr ⟨hvalue, ho⟩⟩
    | object members name => exact ⟨hrest, List.forall_mem_cons.mpr ⟨hvalue, ho⟩⟩

/-- The first byte of a value leaves all in order: what it opens holds nothing yet. -/
theorem isOrdered_start (hstack : ∀ o ∈ stack, o.IsOrdered)
    (h : Reading.start? stack b = some next) : next.IsOrdered := by
  unfold Reading.start? at h
  split at h
  · cases h
    exact ⟨hstack, rfl⟩
  split at h
  · cases h
    exact ⟨hstack, rfl⟩
  split at h
  · cases h
    exact ⟨hstack, rfl⟩
  split at h
  · cases h
    exact ⟨hstack, trivial⟩
  split at h
  · cases (Option.ite_none_right_eq_some.mp h).2
    exact ⟨hstack, trivial⟩
  split at h
  · cases (Option.ite_none_right_eq_some.mp h).2
    exact ⟨hstack, trivial⟩
  obtain ⟨n, -, rfl⟩ := Option.map_eq_some_iff.mp h
  exact ⟨hstack, trivial⟩

/-- A byte where no value is under way leaves all in order. Where it closes a container, the values
in it were in order and so is the whole. -/
theorem isOrdered_stepBetween (hs : s.IsOrdered) (h : s.stepBetween b = some next) :
    next.IsOrdered := by
  obtain ⟨stack, mode⟩ := s
  obtain ⟨hstack, hmode⟩ := hs
  unfold Reading.stepBetween at h
  split at h
  · cases h
    exact ⟨hstack, hmode⟩
  have hpush {o : Open} (ho : o.IsOrdered) : ∀ x ∈ o :: stack, x.IsOrdered :=
    List.forall_mem_cons.mpr ⟨ho, hstack⟩
  cases mode with
  | value => exact isOrdered_start hstack h
  | firstItem =>
    simp only at h
    split at h
    · cases h
      exact isOrdered_complete hstack rfl
    · exact isOrdered_start (hpush (o := .array []) (List.forall_mem_nil _)) h
  | afterItem items =>
    simp only at h
    split at h
    · cases h
      exact ⟨hpush (o := .array items) hmode, trivial⟩
    · cases (Option.ite_none_right_eq_some.mp h).2
      -- The items were gathered newest first and are turned round when the array closes.
      refine isOrdered_complete hstack (areOrdered_iff.mpr fun item hitem => ?_)
      exact hmode item (List.mem_reverse.mp hitem)
  | firstName =>
    simp only at h
    split at h
    · cases h
      exact isOrdered_complete hstack rfl
    · cases (Option.ite_none_right_eq_some.mp h).2
      exact ⟨hstack, List.forall_mem_nil _⟩
  | nextName members =>
    cases (Option.ite_none_right_eq_some.mp h).2
    exact ⟨hstack, hmode⟩
  | colon members name =>
    cases (Option.ite_none_right_eq_some.mp h).2
    exact ⟨hpush (o := .object members name) hmode, trivial⟩
  | afterMember members =>
    simp only at h
    split at h
    · cases h
      exact ⟨hstack, hmode⟩
    · cases (Option.ite_none_right_eq_some.mp h).2
      refine isOrdered_complete hstack (isOrdered_ofMembers fun m hm => ?_)
      exact hmode m (List.mem_reverse.mp hm)
  | word | number | text | done => cases h

/-- A byte leaves all in order. This is the step of the invariant `Reading.IsOrdered`, with a case
for every mode of the reader. -/
theorem isOrdered_step (hs : s.IsOrdered) (h : s.step b = some next) : next.IsOrdered := by
  obtain ⟨stack, mode⟩ := s
  obtain ⟨hstack, hmode⟩ := hs
  cases mode with
  | word rest value =>
    unfold Reading.step at h
    simp only at h
    split at h
    · cases h
    · cases (Option.ite_none_right_eq_some.mp h).2
      exact isOrdered_complete hstack hmode
    · cases (Option.ite_none_right_eq_some.mp h).2
      exact ⟨hstack, hmode⟩
  | number n =>
    unfold Reading.step at h
    simp only at h
    split at h
    · cases h
      exact ⟨hstack, trivial⟩
    · -- The byte ended the number, and is then one that stands behind a value.
      obtain ⟨numeral, -, h⟩ := Option.bind_eq_some_iff.mp h
      obtain ⟨value, -, h⟩ := Option.bind_eq_some_iff.mp h
      exact isOrdered_stepBetween (isOrdered_complete hstack rfl) h
    · cases h
  | text role mode bytes =>
    unfold Reading.step at h
    simp only at h
    split at h
    · cases h
      cases role <;> exact ⟨hstack, hmode⟩
    · obtain ⟨text, -, h⟩ := Option.bind_eq_some_iff.mp h
      cases h
      cases role with
      | value => exact isOrdered_complete hstack rfl
      | name members => exact ⟨hstack, hmode⟩
    · cases h
  | value | firstItem | afterItem | firstName | nextName | colon | afterMember | done =>
    exact isOrdered_stepBetween ⟨hstack, hmode⟩ h

/-- A document that is read from here on is in order, by induction on the bytes that are left. -/
theorem isOrdered_of_run {bytes : Bytes} {document : Json} (hs : s.IsOrdered)
    (h : s.run bytes = .ok document) : document.isOrdered = true := by
  induction bytes generalizing s with
  | nil =>
    rw [Reading.run, Reading.finish] at h
    split at h
    · next hmode =>
      cases h
      have hdone := hs.mode
      rw [hmode] at hdone
      exact hdone
    · split at h
      · cases h
      · split at h
        · cases h
        · cases h
          rfl
        · cases h
    · cases h
  | cons b rest ih =>
    rw [Reading.run] at h
    split at h
    · next hstep => exact ih (isOrdered_step hs hstep) h
    · cases h

/-- A document that `ofBytes` reads is in order, since the reader starts with nothing at hand. -/
theorem isOrdered_of_ofBytes {bytes : Bytes} {document : Json} (h : ofBytes bytes = .ok document) :
    document.isOrdered = true :=
  isOrdered_of_run (s := ⟨[], .value⟩) ⟨List.forall_mem_nil _, trivial⟩ (mapError_eq_ok_iff.mp h)

end LspSession.Json
