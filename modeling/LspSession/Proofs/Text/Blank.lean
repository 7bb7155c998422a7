import LspSession.Text.Blank

/-!
# `LspSession.Proofs.Text.Blank`: what trimming leaves

`trim` drops the blanks at the front and then those at the back. `Trims` says without dropping
anything what is left: a core that has no blank at either end and nothing but blanks around it.
`trim_eq_iff` joins the two, so a text has one such core.
-/

set_option autoImplicit false

namespace LspSession.Text

/-- A text is a core with blanks around it, and neither end of the core is blank. A core may hold
blanks inside, and that of a blank text is empty. -/
structure Trims (text core : List Char) : Prop where
  around : ∃ front back, text = front ++ core ++ back ∧ ∀ c ∈ front ++ back, isBlank c = true
  head : ∀ c ∈ core.head?, isBlank c = false
  last : ∀ c ∈ core.getLast?, isBlank c = false

/-- Blanks in front do not count for `trimLeft`, however many there are. -/
theorem trimLeft_append {front : List Char} (text : List Char)
    (h : ∀ c ∈ front, isBlank c = true) : trimLeft (front ++ text) = trimLeft text :=
  List.dropWhile_append_of_pos h

/-- Blanks behind do not count for `trimRight`, which works on the reversed text. -/
theorem trimRight_append {back : List Char} (text : List Char)
    (h : ∀ c ∈ back, isBlank c = true) : trimRight (text ++ back) = trimRight text := by
  unfold trimRight
  rw [List.reverse_append, List.dropWhile_append_of_pos fun c hc => h c (List.mem_reverse.mp hc)]

/-- A text that starts with no blank keeps its front, and an empty text has none to lose. -/
theorem trimLeft_of_head {text : List Char} (h : ∀ c ∈ text.head?, isBlank c = false) :
    trimLeft text = text := by
  cases text with
  | nil => rfl
  | cons c cs => exact trimLeft_cons_of_not_blank c cs (h c rfl)

/-- A text that ends in no blank keeps its back: it is `trimLeft_of_head` for the reversed text. -/
theorem trimRight_of_last {text : List Char} (h : ∀ c ∈ text.getLast?, isBlank c = false) :
    trimRight text = text := by
  have hrev : trimLeft text.reverse = text.reverse :=
    trimLeft_of_head (by rw [List.head?_reverse]; exact h)
  unfold trimLeft at hrev
  unfold trimRight
  rw [hrev, List.reverse_reverse]

/-- What `trimLeft` leaves starts with no blank. -/
theorem head_trimLeft (text : List Char) : ∀ c ∈ (trimLeft text).head?, isBlank c = false := by
  intro c hc
  have h := List.head?_dropWhile_not isBlank text
  unfold trimLeft at hc
  rw [Option.mem_def.mp hc] at h
  exact h

/-- What `trimRight` leaves ends in no blank. -/
theorem last_trimRight (text : List Char) :
    ∀ c ∈ (trimRight text).getLast?, isBlank c = false := by
  unfold trimRight
  rw [List.getLast?_reverse]
  exact head_trimLeft text.reverse

/-- Only blanks are dropped from the front: the text is some blanks and then `trimLeft text`. -/
theorem exists_trimLeft (text : List Char) :
    ∃ front, text = front ++ trimLeft text ∧ ∀ c ∈ front, isBlank c = true :=
  ⟨text.takeWhile isBlank, List.takeWhile_append_dropWhile.symm,
    fun _ hc => List.all_eq_true.mp List.all_takeWhile _ hc⟩

/-- Only blanks are dropped from the back: the text is `trimRight text` and then some blanks. -/
theorem exists_trimRight (text : List Char) :
    ∃ back, text = trimRight text ++ back ∧ ∀ c ∈ back, isBlank c = true := by
  obtain ⟨front, htext, hblank⟩ := exists_trimLeft text.reverse
  refine ⟨front.reverse, ?_, fun c hc => hblank c (List.mem_reverse.mp hc)⟩
  calc text = text.reverse.reverse := (List.reverse_reverse text).symm
    _ = (front ++ trimLeft text.reverse).reverse := by rw [← htext]
    _ = trimRight text ++ front.reverse := List.reverse_append

/-- Trimming leaves a core: `trim text` satisfies `Trims`, so every text has a core. -/
theorem trims_trim (text : List Char) : Trims text (trim text) := by
  obtain ⟨front, hfront, hblank⟩ := exists_trimLeft text
  obtain ⟨back, hback, hblank'⟩ := exists_trimRight (trimLeft text)
  refine ⟨⟨front, back, ?_, ?_⟩, ?_, last_trimRight _⟩
  · rw [List.append_assoc, trim, ← hback]
    exact hfront
  · intro c hc
    exact (List.mem_append.mp hc).elim (hblank c) (hblank' c)
  · -- The core is the front of what starts with no blank.
    intro c hc
    have hcore : (trimRight (trimLeft text)).head? = some c := hc
    apply head_trimLeft text c
    rw [hback, List.head?_append, hcore]
    rfl

/-- A core is what trimming leaves, so a text has no other core than `trim text`. -/
theorem Trims.trim_eq {text core : List Char} (h : Trims text core) : trim text = core := by
  obtain ⟨⟨front, back, rfl, hblank⟩, hhead, hlast⟩ := h
  have hfront : ∀ c ∈ front, isBlank c = true := fun c hc => hblank c (List.mem_append_left _ hc)
  have hback : ∀ c ∈ back, isBlank c = true := fun c hc => hblank c (List.mem_append_right _ hc)
  rw [trim, List.append_assoc, trimLeft_append _ hfront]
  -- Trimming goes from the front first, so an empty core lets it run into the blanks behind.
  cases core with
  | nil =>
    rw [List.nil_append, ← List.append_nil back, trimLeft_append _ hback]
    rfl
  | cons c cs =>
    rw [List.cons_append, trimLeft_cons_of_not_blank _ _ (hhead c rfl), ← List.cons_append,
      trimRight_append _ hback, trimRight_of_last hlast]

/-- What trimming leaves is the core of a text. `Trims` is the graph of `trim`. -/
theorem trim_eq_iff {text core : List Char} : trim text = core ↔ Trims text core :=
  ⟨fun h => h ▸ trims_trim text, Trims.trim_eq⟩

instance (text core : List Char) : Decidable (Trims text core) :=
  decidable_of_iff (trim text = core) trim_eq_iff

end LspSession.Text
