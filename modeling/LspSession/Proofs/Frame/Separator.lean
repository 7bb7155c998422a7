import LspSession.Frame.Decode

/-!
# `LspSession.Proofs.Frame.Separator`: where the first separator stands

`separatorPlace?` walks a buffer byte by byte. `SeparatorAt` says without a walk that a separator
stands at a place, and `separatorPlace?_eq_some_iff` joins the two: the place found is the first at
which one stands. What lies behind a separator has no say in this, so a place once found stays the
one found when more bytes come (`separatorPlace?_append`). `splitSeparator?_append` says the same of
the bytes before and after the separator.
-/

set_option autoImplicit false

namespace LspSession.Frame

/-- A separator stands in `buffer` behind its first `place` bytes. This is the search of
`separatorPlace?` without a walk: nothing is said of the bytes before the place, nor of those behind
the four of the separator. -/
def SeparatorAt (buffer : Bytes) (place : Nat) : Prop := separator <+: buffer.drop place

/-- A separator needs its four bytes, so the place of one is at least `separator.length` before the
end of the buffer. Every bound on a place of `separatorPlace?` comes from here. -/
theorem SeparatorAt.add_length_le {buffer : Bytes} {place : Nat} (h : SeparatorAt buffer place) :
    place + separator.length ≤ buffer.length := by
  have hlen := h.length_le
  rw [List.length_drop] at hlen
  have hfour : separator.length = 4 := rfl
  omega

/-- A separator stays where it is when bytes follow: the place counts from the front of the buffer,
and `more` stands behind all of it. -/
theorem SeparatorAt.append {buffer : Bytes} {place : Nat} (h : SeparatorAt buffer place)
    (more : Bytes) : SeparatorAt (buffer ++ more) place := by
  have hfits := h.add_length_le
  unfold SeparatorAt
  rw [List.drop_append_of_le_length (by omega)]
  exact h.trans (List.prefix_append _ _)

/-- A separator of `buffer ++ more` that fits into `buffer` stands in `buffer` alone. Without
`hfits` it could end in the bytes behind, and the shorter buffer would have only its front. -/
theorem SeparatorAt.of_append {buffer more : Bytes} {place : Nat}
    (hfits : place + separator.length ≤ buffer.length)
    (h : SeparatorAt (buffer ++ more) place) : SeparatorAt buffer place := by
  unfold SeparatorAt at h
  rw [List.drop_append_of_le_length (by omega)] at h
  exact List.prefix_of_prefix_length_le h (List.prefix_append _ _)
    (by rw [List.length_drop]; omega)

/-- A separator behind the first byte is a separator of what follows that byte, one place earlier.
With this the walk of `separatorPlaceFrom` is followed byte by byte. -/
theorem separatorAt_cons_succ (b : UInt8) (rest : Bytes) (place : Nat) :
    SeparatorAt (b :: rest) (place + 1) ↔ SeparatorAt rest place := by
  rfl

/-! ### The place found -/

/-- Where `separatorPlaceFrom` passes over a byte, no separator starts with it. The hypothesis is
the one that the last pattern of the search leaves behind. -/
private theorem not_separatorAt_zero {b : UInt8} {rest : Bytes}
    (hno : ∀ tail, b = 0x0D → rest = 0x0A :: 0x0D :: 0x0A :: tail → False) :
    ¬ SeparatorAt (b :: rest) 0 := by
  rintro ⟨tail, htail⟩
  injection htail with hb hrest
  exact hno tail hb.symm hrest.symm

/-- What `separatorPlaceFrom` finds, for any number `start` of bytes before those it looks at:
`start` and the first place of `buffer` at which a separator stands. -/
theorem separatorPlaceFrom_eq_some_iff {start found : Nat} {buffer : Bytes} :
    separatorPlaceFrom start buffer = some found ↔
      ∃ n, found = start + n ∧ SeparatorAt buffer n ∧ ∀ m < n, ¬ SeparatorAt buffer m := by
  -- The cases are those of the search: no byte, a separator, or a byte that is passed over.
  fun_induction separatorPlaceFrom start buffer with
  | case1 start =>
    simp [SeparatorAt, separator]
  | case2 start rest =>
    have hzero : SeparatorAt (0x0D :: 0x0A :: 0x0D :: 0x0A :: rest) 0 := ⟨rest, rfl⟩
    constructor
    · intro h
      cases h
      exact ⟨0, rfl, hzero, fun m hm => absurd hm (Nat.not_lt_zero m)⟩
    · rintro ⟨n, rfl, -, hfirst⟩
      have hn : n = 0 := Nat.eq_zero_of_not_pos fun hpos => hfirst 0 hpos hzero
      rw [hn, Nat.add_zero]
  | case3 start b rest hno ih =>
    -- Every place in the buffer is one further on than behind the byte.
    have hhead := not_separatorAt_zero hno
    rw [ih]
    constructor
    · rintro ⟨n, rfl, hat, hfirst⟩
      refine ⟨n + 1, by omega, (separatorAt_cons_succ b rest n).mpr hat, ?_⟩
      intro m hm
      cases m with
      | zero => exact hhead
      | succ m => exact hfirst m (by omega)
    · rintro ⟨n, rfl, hat, hfirst⟩
      cases n with
      | zero => exact absurd hat hhead
      | succ n => exact ⟨n, by omega, hat, fun m hm => hfirst (m + 1) (by omega)⟩

/-- The place found by `separatorPlace?` is the first at which a separator stands, and there is no
other way to find one. All later facts about the search are read off this equivalence. -/
theorem separatorPlace?_eq_some_iff {buffer : Bytes} {place : Nat} :
    separatorPlace? buffer = some place ↔
      SeparatorAt buffer place ∧ ∀ m < place, ¬ SeparatorAt buffer m := by
  unfold separatorPlace?
  rw [separatorPlaceFrom_eq_some_iff]
  simp only [Nat.zero_add, exists_eq_left']

/-- A place once found stays the one found when more bytes come. So a decoder that has seen a whole
header need not look for its end again when the rest of the body arrives. -/
theorem separatorPlace?_append {buffer : Bytes} {place : Nat} (more : Bytes)
    (h : separatorPlace? buffer = some place) :
    separatorPlace? (buffer ++ more) = some place := by
  rw [separatorPlace?_eq_some_iff] at h ⊢
  obtain ⟨hat, hfirst⟩ := h
  have hfits := hat.add_length_le
  refine ⟨hat.append more, ?_⟩
  -- An earlier one would fit into the shorter buffer, and the search would have found it there.
  intro m hm hearly
  exact hfirst m hm (hearly.of_append (by omega))

/-- What `splitSeparator?` cuts off stays the same header when more bytes come, and these are added
to what stands after the separator. Nothing is said of a buffer without a separator, which more
bytes may well give one. -/
theorem splitSeparator?_append {buffer header after : Bytes} (more : Bytes)
    (h : splitSeparator? buffer = some (header, after)) :
    splitSeparator? (buffer ++ more) = some (header, after ++ more) := by
  simp only [splitSeparator?, Option.map_eq_some_iff, Prod.mk.injEq] at h ⊢
  obtain ⟨place, hplace, rfl, rfl⟩ := h
  have hfits := (separatorPlace?_eq_some_iff.mp hplace).1.add_length_le
  refine ⟨place, separatorPlace?_append more hplace, ?_, ?_⟩
  · exact List.take_append_of_le_length (by omega)
  · exact List.drop_append_of_le_length hfits

end LspSession.Frame
