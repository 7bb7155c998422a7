import LspSession.Log.Pattern.Reader

/-!
# `LspSession.Proofs.Log.Pattern.Steps`: the readers of patterns have steps enough

`Reader.hyphens`, `Reader.content` and `Reader.body` are given a number of steps to go by, and fail
or stop where it runs out. So a pattern could be refused for want of steps alone. It never is: every
step takes at least one character, and `Node.ofText?` starts with one step more than the text has
characters. The theorems:

* `Reader.Leaves` bounds what a reader leaves of a text, and `Leaves.bind` puts two bounds together.
  With it, `leaves_content` and `leaves_body` follow the readers line by line.
* `Reader.content_succ` and `Reader.body_succ`: one step more makes no difference to a reader that
  has enough of them.
* `Reader.hyphens_eq_of_le`, `Reader.content_eq_of_le` and `Node.ofText?_eq_of_lt`: neither does any
  greater number. What a text is read as depends on the text alone.
-/

set_option autoImplicit false

namespace LspSession.Log.Pattern

namespace Reader

variable {α β : Type}

/-! ### What a reader leaves -/

/-- Where the reader `r` succeeds on the rest `s` of a pattern, it leaves at most `count` characters
of it. Nothing is said about what it reads, nor about the flags and names in `s`. -/
def Leaves (r : Reader α) (s : Rest) (count : Nat) : Prop :=
  ∀ result rest, r.run s = some (result, rest) → rest.text.length ≤ count

/-- A reader that leaves at most `count` characters leaves at most `more`, where `more` is no
smaller. -/
theorem Leaves.mono {r : Reader α} {s : Rest} {count more : Nat} (h : Leaves r s count)
    (hle : count ≤ more) : Leaves r s more :=
  fun result rest hrun => Nat.le_trans (h result rest hrun) hle

/-- `pure` leaves all that there is, and looks at none of it. -/
theorem Leaves.pure {x : α} {s : Rest} {count : Nat} (h : s.text.length ≤ count) :
    Leaves (Pure.pure x) s count := by
  intro result rest hrun
  obtain ⟨rfl, rfl⟩ := Prod.mk.inj (Option.some.inj hrun)
  exact h

/-- A reader that fails leaves nothing that could be too long, so it meets every bound. -/
theorem Leaves.failure {s : Rest} {count : Nat} : Leaves (failure : Reader α) s count := by
  intro result rest hrun
  cases hrun

/-- Two readers in a row: `next` starts on what `r` leaves, so its own bound is needed only for
rests that are no longer than that. -/
theorem Leaves.bind {r : Reader α} {next : α → Reader β} {s : Rest} {count more : Nat}
    (h : Leaves r s count)
    (hnext : ∀ x rest, rest.text.length ≤ count → Leaves (next x) rest more) :
    Leaves (r >>= next) s more := by
  intro result rest hrun
  rw [StateT.run_bind] at hrun
  obtain ⟨⟨x, between⟩, hfirst, hrun⟩ := Option.bind_eq_some_iff.mp hrun
  exact hnext x between (h x between hfirst) result rest hrun

/-- `get` takes nothing, and what follows it knows the rest that it starts on. -/
theorem Leaves.get {next : Rest → Reader α} {s : Rest} {count : Nat} (h : Leaves (next s) s count) :
    Leaves (MonadState.get >>= next) s count := h

/-- `modify` leaves the text as it is, where it changes the flags or the names alone. -/
theorem leaves_modify {update : Rest → Rest} {s : Rest} (h : (update s).text = s.text) :
    Leaves (modify update) s s.text.length := by
  intro result rest hrun
  obtain ⟨rfl, rfl⟩ := Prod.mk.inj (Option.some.inj hrun)
  exact Nat.le_of_eq (congrArg List.length h)

/-- `goOn text` leaves `text`, whatever there was before. -/
theorem leaves_goOn {text : List Char} {s : Rest} {count : Nat} (h : text.length ≤ count) :
    Leaves (goOn text) s count := by
  intro result rest hrun
  obtain ⟨rfl, rfl⟩ := Prod.mk.inj (Option.some.inj hrun)
  exact h

/-- What `behindBlanks` gives is no longer than the text that it is given, in a comment or outside
of one. -/
theorem length_behindBlanks {isComment : Bool} {text : List Char} :
    (behindBlanks isComment text).length ≤ text.length := by
  fun_induction behindBlanks isComment text with
  | case1 => exact Nat.le_refl _
  | case2 c rest ih => exact Nat.le_succ_of_le ih
  | case3 isComment c rest _ _ ih => exact Nat.le_succ_of_le ih
  | case4 isComment c rest _ _ _ ih => exact Nat.le_succ_of_le ih
  | case5 => exact Nat.le_refl _

/-- `skipBlanks` makes no text longer, whether the flags say that blanks are skipped or not. -/
theorem leaves_skipBlanks {s : Rest} : Leaves skipBlanks s s.text.length := by
  intro result rest hrun
  obtain ⟨rfl, rfl⟩ := Prod.mk.inj (Option.some.inj hrun)
  dsimp only
  split
  · exact length_behindBlanks
  · exact Nat.le_refl _

/-- A text is longer than what stands behind its first character. The readers take one by a match on
`s.text`, of which `h` is what is left. -/
theorem length_lt_of_eq_cons {s : Rest} {c : Char} {behind : List Char} (h : s.text = c :: behind) :
    behind.length < s.text.length := by
  rw [h]
  exact Nat.lt_succ_self _

/-- `take` takes one character. On an empty text it fails, so the bound holds there, too. -/
theorem leaves_take {s : Rest} : Leaves take s (s.text.length - 1) := by
  refine Leaves.get ?_
  split
  · exact Leaves.failure
  · next hbehind =>
    have hlt := length_lt_of_eq_cons hbehind
    exact (leaves_goOn (Nat.le_refl _)).bind fun _ _ hle => .pure (by omega)

/-- `takeIf` leaves at most what there was. It takes one character or none. -/
theorem leaves_takeIf {c : Char} {s : Rest} : Leaves (takeIf c) s s.text.length := by
  refine Leaves.get ?_
  split
  · exact .pure (Nat.le_refl _)
  · next hbehind =>
    have hlt := length_lt_of_eq_cons hbehind
    split
    · exact (leaves_goOn (Nat.le_of_lt hlt)).bind fun _ _ hle => .pure hle
    · exact .pure (Nat.le_refl _)

/-- Where `takeIf` finds the character that it looks for, it takes it. -/
theorem length_lt_of_takeIf {c : Char} {s rest : Rest}
    (h : (takeIf c).run s = some (true, rest)) : rest.text.length < s.text.length := by
  obtain ⟨text, spacious, names⟩ := s
  cases text with
  | nil => cases h
  | cons d behind =>
    have hrun : (if c == d then goOn behind >>= fun _ => Pure.pure (c == d)
        else Pure.pure (c == d) : Reader Bool).run ⟨d :: behind, spacious, names⟩ =
          some (true, rest) := h
    split at hrun
    · obtain ⟨-, rfl⟩ := Prod.mk.inj (Option.some.inj hrun)
      exact Nat.lt_succ_self _
    · next hne => exact absurd (Prod.mk.inj (Option.some.inj hrun)).1 hne

/-! ### Escapes -/

/-- `number` makes no text longer. It takes `count` digits, and blanks between them. -/
theorem leaves_number {count value : Nat} {s : Rest} :
    Leaves (number count value) s s.text.length := by
  induction count generalizing value s with
  | zero => exact .pure (Nat.le_refl _)
  | succ count ih =>
    refine leaves_take.bind fun c rest hle => ?_
    split
    · exact .failure
    · exact leaves_skipBlanks.bind fun _ rest' hle' => ih.mono (by omega)

/-- `numbered` makes no text longer: it is `number`, with a check of what was read. -/
theorem leaves_numbered {count : Nat} {s : Rest} : Leaves (numbered count) s s.text.length := by
  refine leaves_skipBlanks.bind fun _ rest hle => ?_
  refine leaves_number.bind fun value rest' hle' => ?_
  split
  · exact .pure (by omega)
  · exact .failure

/-- `escape` takes the letter behind the backslash at least, and the digits of a number with it. -/
theorem leaves_escape {s : Rest} : Leaves escape s (s.text.length - 1) := by
  refine leaves_take.bind fun c rest hle => ?_
  split
  -- `x`, `u` and `U` stand before digits. The letters behind them stand for a part by themselves.
  iterate 3 exact leaves_numbered.mono hle
  iterate 14 exact .pure hle
  split
  · exact .pure hle
  · split
    · exact .pure hle
    · exact .failure

/-! ### Sets -/

/-- `member` looks at no text, and leaves it as it is: it only checks that a node can stand in a
set. -/
theorem leaves_member {node : Node} {s : Rest} : Leaves (member node) s s.text.length := by
  unfold member
  split
  iterate 3 exact .pure (Nat.le_refl _)
  exact .failure

/-- `item` takes a character at least, which is what keeps the calls of `content` going forward. -/
theorem leaves_item {s : Rest} : Leaves item s (s.text.length - 1) := by
  refine leaves_take.bind fun c rest hle => ?_
  split
  · exact leaves_escape.mono (by omega)
  · exact .pure hle

/-- `itemOrRange` takes a character at least, and more of them where it reads a range. -/
theorem leaves_itemOrRange {s : Rest} : Leaves itemOrRange s (s.text.length - 1) := by
  refine leaves_item.bind fun first rest hle => ?_
  refine leaves_skipBlanks.bind fun _ rest₁ hle₁ => Leaves.get ?_
  split
  · next hbehind =>
    have hlt := length_lt_of_eq_cons hbehind
    dsimp only
    split
    · exact leaves_member.mono (by omega)
    · refine (leaves_goOn (Nat.le_refl _)).bind fun _ rest₂ hle₂ => ?_
      refine leaves_skipBlanks.bind fun _ rest₃ hle₃ => ?_
      refine leaves_item.bind fun last rest₄ hle₄ => ?_
      split
      · split
        · exact .pure (by omega)
        · exact .failure
      · exact .failure
  · exact leaves_member.mono (by omega)

/-- The name of a class stands between two colons and before a bracket. So what `named?` leaves is
shorter than what it is given. -/
theorem length_of_named?_eq_some {text rest : List Char} {negated : Bool}
    (h : named? text = some (negated, rest)) : rest.length < text.length := by
  unfold named? at h
  split at h
  · next text =>
    simp only at h
    generalize hbody : (if text.head? = some '^' then text.tail else text) = body at h
    have hle : body.length ≤ text.length := by
      rw [← hbody]
      split
      · rw [List.length_tail]
        exact Nat.sub_le _ _
      · exact Nat.le_refl _
    split at h
    · next behind hdrop =>
      have hlength := congrArg List.length hdrop
      rw [List.length_drop, List.length_cons, List.length_cons] at hlength
      obtain ⟨-, h⟩ := Option.ite_none_right_eq_some.mp h
      obtain ⟨-, rfl⟩ := Prod.mk.inj (Option.some.inj h)
      rw [List.length_cons]
      omega
    · cases h
  · cases h

/-- `hyphens` makes no text longer, however many steps it has. -/
theorem leaves_hyphens {steps : Nat} {s : Rest} : Leaves (hyphens steps) s s.text.length := by
  induction steps generalizing s with
  | zero => exact .pure (Nat.le_refl _)
  | succ steps ih =>
    refine leaves_takeIf.bind fun found rest hle => ?_
    split
    · refine leaves_skipBlanks.bind fun _ rest₁ hle₁ => ?_
      exact ih.bind fun _ rest₂ hle₂ => .pure (by omega)
    · exact .pure hle

/-- `setStart` makes no text longer. It takes nothing where the set starts with another member. -/
theorem leaves_setStart {s : Rest} : Leaves setStart s s.text.length := by
  -- Both branches on the circumflex go on with the same lines.
  have hfirst : ∀ (negated : Bool) (rest : Rest), rest.text.length ≤ s.text.length →
      Leaves (do
        let first ← hyphens (← MonadState.get).text.length
        if first.isEmpty then
          if ← takeIf ']' then
            skipBlanks
            return (negated, [.letter ⟨']', false⟩])
        return (negated, first)) rest s.text.length := by
    intro negated rest hle
    refine Leaves.get (leaves_hyphens.bind fun first rest₁ hle₁ => ?_)
    dsimp only
    split
    · refine leaves_takeIf.bind fun found rest₂ hle₂ => ?_
      split
      · exact leaves_skipBlanks.bind fun _ rest₃ hle₃ => .pure (by omega)
      · exact .pure (by omega)
    · exact .pure (by omega)
  refine leaves_skipBlanks.bind fun _ rest hle => ?_
  refine leaves_takeIf.bind fun negated rest₁ hle₁ => ?_
  dsimp only
  split
  · exact leaves_skipBlanks.bind fun _ rest₂ hle₂ => hfirst negated rest₂ (by omega)
  · exact hfirst negated rest₁ (by omega)

/-- `content` makes no text longer, however many steps it has. The induction is on the steps: each
case of the reader takes some characters and calls the reader again, a set in a set twice. -/
theorem leaves_content {steps : Nat} {left : Option Member} {members : List Member} {s : Rest} :
    Leaves (content steps left members) s s.text.length := by
  induction steps generalizing left members s with
  | zero => exact .failure
  | succ steps ih =>
    have hgoOn {behind : List Char} {rest : Rest} {r : Reader Member}
        (hr : ∀ rest', Leaves r rest' rest'.text.length) (hle : behind.length ≤ s.text.length) :
        Leaves (goOn behind >>= fun _ => r) rest s.text.length :=
      (leaves_goOn hle).bind fun _ rest' hle' => (hr rest').mono hle'
    refine leaves_skipBlanks.bind fun _ rest hle => Leaves.get ?_
    split
    · next hbehind =>
      have hlt := length_lt_of_eq_cons hbehind
      exact hgoOn (fun _ => .pure (Nat.le_refl _)) (by omega)
    -- The three operators are two characters long.
    iterate 3
      next hbehind =>
        have hlength := congrArg List.length hbehind
        rw [List.length_cons, List.length_cons] at hlength
        exact hgoOn (fun _ => ih) (by omega)
    · next hbehind =>
      have hlt := length_lt_of_eq_cons hbehind
      split
      · next hnamed =>
        have hlt' := length_of_named?_eq_some hnamed
        exact hgoOn (fun _ => ih) (by omega)
      · refine hgoOn (fun rest₁ => ?_) (by omega)
        refine leaves_setStart.bind fun first rest₂ hle₂ => ?_
        exact ih.bind fun inner rest₃ hle₃ => ih.mono (by omega)
    · exact leaves_itemOrRange.bind fun m rest₁ hle₁ => ih.mono (by omega)

/-! ### Groups and patterns -/

/-- `groupName` makes no text longer. It takes the name and the bracket behind it. -/
theorem leaves_groupName {s : Rest} : Leaves groupName s s.text.length := by
  refine Leaves.get ?_
  dsimp only
  split
  · next hdrop =>
    have hlength := congrArg List.length hdrop
    rw [List.length_drop, List.length_cons] at hlength
    split
    · intro result rest hrun
      obtain ⟨rfl, rfl⟩ := Prod.mk.inj (Option.some.inj hrun)
      dsimp only
      omega
    · exact .failure
  · exact .failure

/-- `start` makes no text longer. It takes nothing where the group has neither a name nor flags. -/
theorem leaves_start {s : Rest} : Leaves start s s.text.length := by
  refine leaves_skipBlanks.bind fun _ rest hle => Leaves.get ?_
  have hname {behind : List Char} (hshort : behind.length ≤ s.text.length) :
      Leaves (do
        goOn behind
        groupName
        return Start.group []) rest s.text.length := by
    refine (leaves_goOn hshort).bind fun _ rest₁ hle₁ => ?_
    exact leaves_groupName.bind fun _ rest₂ hle₂ => .pure (by omega)
  split
  iterate 2
    next hbehind =>
      have hlength := congrArg List.length hbehind
      simp only [List.length_cons] at hlength
      exact hname (by omega)
  · next hbehind =>
    have hlt := length_lt_of_eq_cons hbehind
    dsimp only
    split
    · next hdrop =>
      have hlength := congrArg List.length hdrop
      rw [List.length_drop, List.length_cons] at hlength
      exact (leaves_goOn (Nat.le_refl _)).bind fun _ rest₁ hle₁ => .pure (by omega)
    · next hdrop =>
      have hlength := congrArg List.length hdrop
      rw [List.length_drop, List.length_cons] at hlength
      refine (leaves_goOn (Nat.le_refl _)).bind fun _ rest₁ hle₁ => ?_
      split
      · exact .failure
      · exact .pure (by omega)
    · exact .failure
  · exact .pure hle

/-- `single` takes a character at least, as `take` does with which it starts. -/
theorem leaves_single {s : Rest} : Leaves single s (s.text.length - 1) := by
  refine leaves_take.bind fun c rest hle => ?_
  split
  · exact leaves_escape.mono (by omega)
  iterate 4 exact .pure hle

/-- `body` makes no text longer, however many steps it has. As with `content`, the induction is on
the steps and the cases are those of the reader: a group calls it twice, all others once. -/
theorem leaves_body {inGroup : Bool} {steps : Nat} {branches parts : List Node} {s : Rest} :
    Leaves (body inGroup steps branches parts) s s.text.length := by
  induction steps generalizing inGroup branches parts s with
  | zero => exact .failure
  | succ steps ih =>
    refine leaves_skipBlanks.bind fun _ rest hle => Leaves.get ?_
    split
    · split
      · exact .failure
      · exact .pure hle
    · next hbehind =>
      have hlt := length_lt_of_eq_cons hbehind
      refine (leaves_goOn (Nat.le_refl _)).bind fun _ rest₁ hle₁ => ?_
      split
      · exact .pure (by omega)
      · exact .failure
    · next hbehind =>
      have hlt := length_lt_of_eq_cons hbehind
      exact (leaves_goOn (Nat.le_refl _)).bind fun _ rest₁ hle₁ => ih.mono (by omega)
    · next hbehind =>
      have hlt := length_lt_of_eq_cons hbehind
      refine (leaves_goOn (Nat.le_refl _)).bind fun _ rest₁ hle₁ => Leaves.get ?_
      refine leaves_start.bind fun begin rest₂ hle₂ => ?_
      cases begin with
      | switches switches =>
        exact (leaves_modify rfl).bind fun _ rest₃ hle₃ => ih.mono (by omega)
      | group switches =>
        refine (leaves_modify rfl).bind fun _ rest₃ hle₃ => ?_
        refine ih.bind fun inner rest₄ hle₄ => ?_
        exact (leaves_modify rfl).bind fun _ rest₅ hle₅ => ih.mono (by omega)
    · next hbehind =>
      have hlt := length_lt_of_eq_cons hbehind
      refine (leaves_goOn (Nat.le_refl _)).bind fun _ rest₁ hle₁ => ?_
      refine leaves_setStart.bind fun first rest₂ hle₂ => ?_
      exact leaves_content.bind fun inner rest₃ hle₃ => ih.mono (by omega)
    -- A star, a plus sign and a question mark are read alike.
    iterate 3
      next hbehind =>
        have hlt := length_lt_of_eq_cons hbehind
        refine (leaves_goOn (Nat.le_refl _)).bind fun _ rest₁ hle₁ => ?_
        refine leaves_takeIf.bind fun found rest₂ hle₂ => ?_
        split
        · exact .failure
        · exact .failure
        · exact ih.mono (by omega)
    · exact .failure
    · exact leaves_single.bind fun part rest₁ hle₁ => ih.mono (by omega)

/-! ### Enough steps -/

/-- Two rows of readers give the same on `s` if their first readers do, and if what follows gives
the same on every rest that the first reader can leave. -/
theorem run_bind_congr {r r' : Reader α} {next next' : α → Reader β} {s : Rest}
    (hfirst : r.run s = r'.run s)
    (h : ∀ x rest, r.run s = some (x, rest) → (next x).run rest = (next' x).run rest) :
    (r >>= next).run s = (r' >>= next').run s := by
  rw [StateT.run_bind, StateT.run_bind, ← hfirst]
  exact Option.bind_congr fun ⟨x, rest⟩ hrun => h x rest hrun

/-- `run_bind_congr` where a bound is known on what the first reader leaves. Then what follows has
to give the same on the rests within that bound, as in `Leaves.bind`. -/
theorem Leaves.run_bind_congr {r r' : Reader α} {next next' : α → Reader β} {s : Rest} {count : Nat}
    (hr : Leaves r s count) (hfirst : r.run s = r'.run s)
    (h : ∀ x rest, rest.text.length ≤ count → (next x).run rest = (next' x).run rest) :
    (r >>= next).run s = (r' >>= next').run s :=
  Reader.run_bind_congr hfirst fun x rest hrun => h x rest (hr x rest hrun)

/-- `run_bind_congr` for `get`, which leaves the rest `s` that it gives. -/
theorem run_get_congr {next next' : Rest → Reader α} {s : Rest}
    (h : (next s).run s = (next' s).run s) :
    (MonadState.get >>= next).run s = (MonadState.get >>= next').run s := h

/-- `hyphens` has steps enough where it has one for each character. -/
theorem hyphens_succ {steps : Nat} {s : Rest} (h : s.text.length ≤ steps) :
    (hyphens (steps + 1)).run s = (hyphens steps).run s := by
  induction steps generalizing s with
  | zero =>
    have hnil := List.eq_nil_of_length_eq_zero (Nat.le_zero.mp h)
    obtain ⟨text, spacious, names⟩ := s
    subst hnil
    rfl
  | succ steps ih =>
    rw [hyphens.eq_def, hyphens.eq_def (steps + 1)]
    refine run_bind_congr rfl fun found rest hfound => ?_
    cases found with
    | false => rfl
    | true =>
      have hlt := length_lt_of_takeIf hfound
      refine leaves_skipBlanks.run_bind_congr rfl fun _ rest₁ hle => ?_
      exact run_bind_congr (ih (by omega)) fun _ _ _ => rfl

/-- `content` has steps enough where it has one for each character: each call takes one at least,
and the last one takes the bracket that closes the set. -/
theorem content_succ {steps : Nat} {left : Option Member} {members : List Member} {s : Rest}
    (h : s.text.length ≤ steps) :
    (content (steps + 1) left members).run s = (content steps left members).run s := by
  induction steps generalizing left members s with
  | zero =>
    -- Without a character both fail, one for want of a step and one for want of a member.
    have hnil := List.eq_nil_of_length_eq_zero (Nat.le_zero.mp h)
    obtain ⟨text, spacious, names⟩ := s
    subst hnil
    cases spacious <;> rfl
  | succ steps ih =>
    rw [content.eq_def, content.eq_def (steps + 1)]
    refine leaves_skipBlanks.run_bind_congr rfl fun _ rest hle => ?_
    refine run_get_congr ?_
    split
    · rfl
    iterate 3
      next hbehind =>
        have hlength := congrArg List.length hbehind
        rw [List.length_cons, List.length_cons] at hlength
        refine (leaves_goOn (Nat.le_refl _)).run_bind_congr rfl fun _ rest₁ hle₁ => ?_
        exact ih (by omega)
    · next hbehind =>
      have hlt := length_lt_of_eq_cons hbehind
      split
      · next hnamed =>
        have hlt' := length_of_named?_eq_some hnamed
        refine (leaves_goOn (Nat.le_refl _)).run_bind_congr rfl fun _ rest₁ hle₁ => ?_
        exact ih (by omega)
      · refine (leaves_goOn (Nat.le_refl _)).run_bind_congr rfl fun _ rest₁ hle₁ => ?_
        refine leaves_setStart.run_bind_congr rfl fun first rest₂ hle₂ => ?_
        refine leaves_content.run_bind_congr (ih (by omega)) fun inner rest₃ hle₃ => ?_
        exact ih (by omega)
    · refine leaves_itemOrRange.run_bind_congr rfl fun m rest₁ hle₁ => ?_
      exact ih (by omega)

/-- `body` has steps enough where it has one for each character and one for the end, which it has to
see to know that the pattern is whole. -/
theorem body_succ {inGroup : Bool} {steps : Nat} {branches parts : List Node} {s : Rest}
    (h : s.text.length < steps) :
    (body inGroup (steps + 1) branches parts).run s =
      (body inGroup steps branches parts).run s := by
  induction steps generalizing inGroup branches parts s with
  | zero => omega
  | succ steps ih =>
    rw [body.eq_def, body.eq_def inGroup (steps + 1)]
    refine leaves_skipBlanks.run_bind_congr rfl fun _ rest hle => ?_
    refine run_get_congr ?_
    split
    · rfl
    · rfl
    · next hbehind =>
      have hlt := length_lt_of_eq_cons hbehind
      refine (leaves_goOn (Nat.le_refl _)).run_bind_congr rfl fun _ rest₁ hle₁ => ?_
      exact ih (by omega)
    · next hbehind =>
      have hlt := length_lt_of_eq_cons hbehind
      refine (leaves_goOn (Nat.le_refl _)).run_bind_congr rfl fun _ rest₁ hle₁ => ?_
      refine run_get_congr (leaves_start.run_bind_congr rfl fun begin rest₂ hle₂ => ?_)
      cases begin with
      | switches switches =>
        refine (leaves_modify rfl).run_bind_congr rfl fun _ rest₃ hle₃ => ?_
        exact ih (by omega)
      | group switches =>
        refine (leaves_modify rfl).run_bind_congr rfl fun _ rest₃ hle₃ => ?_
        refine leaves_body.run_bind_congr (ih (by omega)) fun inner rest₄ hle₄ => ?_
        refine (leaves_modify rfl).run_bind_congr rfl fun _ rest₅ hle₅ => ?_
        exact ih (by omega)
    · next hbehind =>
      have hlt := length_lt_of_eq_cons hbehind
      refine (leaves_goOn (Nat.le_refl _)).run_bind_congr rfl fun _ rest₁ hle₁ => ?_
      refine leaves_setStart.run_bind_congr rfl fun first rest₂ hle₂ => ?_
      refine leaves_content.run_bind_congr rfl fun inner rest₃ hle₃ => ?_
      exact ih (by omega)
    iterate 3
      next hbehind =>
        have hlt := length_lt_of_eq_cons hbehind
        refine (leaves_goOn (Nat.le_refl _)).run_bind_congr rfl fun _ rest₁ hle₁ => ?_
        refine leaves_takeIf.run_bind_congr rfl fun found rest₂ hle₂ => ?_
        split
        · rfl
        · rfl
        · exact ih (by omega)
    · rfl
    · next hsome _ _ _ _ _ _ _ _ =>
      have hpos := List.length_pos_iff.mpr hsome
      refine leaves_single.run_bind_congr rfl fun part rest₁ hle₁ => ?_
      exact ih (by omega)

/-- A reader to which one step more makes no difference, from `least` steps on, gives the same for
all such numbers of steps. -/
theorem run_eq_of_le {r : Nat → Reader α} {s : Rest} {least steps more : Nat}
    (hsucc : ∀ n, least ≤ n → (r (n + 1)).run s = (r n).run s) (h : least ≤ steps)
    (hle : steps ≤ more) : (r more).run s = (r steps).run s := by
  induction hle with
  | refl => rfl
  | step hle ih => rw [hsucc _ (Nat.le_trans h hle), ih]

/-- The hyphens that a set starts with are the same for every number of steps from the length of the
text on, which is the number that `setStart` gives. -/
theorem hyphens_eq_of_le {steps more : Nat} {s : Rest} (h : s.text.length ≤ steps)
    (hle : steps ≤ more) : (hyphens more).run s = (hyphens steps).run s :=
  run_eq_of_le (fun _ => hyphens_succ) h hle

/-- The content of a set is the same for every number of steps from the length of the text on. The
number that `body` gives, the length behind the opening bracket, is one of them. -/
theorem content_eq_of_le {steps more : Nat} {left : Option Member} {members : List Member}
    {s : Rest} (h : s.text.length ≤ steps) (hle : steps ≤ more) :
    (content more left members).run s = (content steps left members).run s :=
  run_eq_of_le (r := fun n => content n left members) (fun _ => content_succ) h hle

/-- A pattern is the same for every number of steps beyond the length of the text, as `body_succ`
says of one step more. -/
theorem body_eq_of_le {inGroup : Bool} {steps more : Nat} {branches parts : List Node} {s : Rest}
    (h : s.text.length < steps) (hle : steps ≤ more) :
    (body inGroup more branches parts).run s = (body inGroup steps branches parts).run s :=
  run_eq_of_le (r := fun n => body inGroup n branches parts) (fun _ => body_succ) h hle

end Reader

/-- What `Node.ofText?` gives for a text is what `Reader.body` gives with any number of steps that
is greater than the length of the text. No pattern is refused because its steps run out. -/
theorem Node.ofText?_eq_of_lt {text : List Char} {steps : Nat} (h : text.length < steps) :
    Node.ofText? text =
      ((Reader.body false steps [] []).run ⟨text, false, []⟩).map (·.1) := by
  unfold Node.ofText?
  rw [Reader.body_eq_of_le (Nat.lt_succ_self text.length) h]

end LspSession.Log.Pattern
