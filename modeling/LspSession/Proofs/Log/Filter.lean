import LspSession.Log.Filter
import LspSession.Proofs.Log.Pattern.Quote
import Mathlib.Data.List.Induction
import Mathlib.Data.List.TakeWhile

/-!
# `LspSession.Proofs.Log.Filter`: which rule of a filter decides

`Filter.ruleFor?` walks over the rules that hold for a record and keeps the best one that it has
found. `Filter.Decides` says without a walk which rule that is: every rule before it that holds
gives way to it, and no rule behind it that holds goes before it. The theorems:

* `goesBefore_total` and `goesBefore_trans`: of two rules one goes before the other, and rules that
  go before each other can be put in a row. Without the second the walk would not find the best
  rule, because it compares each rule with one other alone.
* `ruleFor?_eq_some_iff` and `ruleFor?_eq_none_iff`: the walk finds the rule that decides, and finds
  none only where no rule holds.
* `keeps_iff`: a record is kept exactly if a rule decides on it and admits its level.
* `keeps_of_rank_le`: more important records from the same place are kept with it.
* `ofBracket?_quote`: a clause can ask a field for any value without an equals sign, if the value is
  written as `Pattern.quote` writes it. Such a clause is never the reason that a filter is refused.
-/

set_option autoImplicit false

namespace LspSession.Log

/-! ### The order of rules -/

namespace Rule

/-- `goesBefore` compares the two parts of `closeness` one after the other. Where both are the same
it compares the names of the fields, and a rule goes before its equal. -/
theorem goesBefore_iff {rule found : Rule} :
    rule.goesBefore found = true ↔
      found.closeness.1 < rule.closeness.1 ∨ found.closeness.1 = rule.closeness.1 ∧
        (found.closeness.2 < rule.closeness.2 ∨ found.closeness.2 = rule.closeness.2 ∧
          found.field.getD "" ≤ rule.field.getD "") := by
  unfold goesBefore
  simp only
  split
  · next hlength =>
    rw [decide_eq_true_eq]
    constructor
    · exact Or.inl
    · rintro (hless | ⟨hsame, -⟩)
      · exact hless
      · exact absurd hsame.symm hlength
  · next hlength =>
    have hlength := (Decidable.not_not.mp hlength).symm
    split
    · next hfields =>
      rw [decide_eq_true_eq]
      constructor
      · intro hless
        exact Or.inr ⟨hlength, Or.inl hless⟩
      · rintro (hless | ⟨-, hless | ⟨hsame, -⟩⟩)
        · omega
        · exact hless
        · exact absurd hsame.symm hfields
    · next hfields =>
      have hfields := (Decidable.not_not.mp hfields).symm
      rw [decide_eq_true_eq]
      constructor
      · intro hle
        exact Or.inr ⟨hlength, Or.inr ⟨hfields, hle⟩⟩
      · rintro (hless | ⟨-, hless | ⟨-, hle⟩⟩)
        · omega
        · omega
        · exact hle

/-- Of two rules one goes before the other. Both do if they are alike in `closeness` and field, and
then the walk of `ruleFor?` prefers the later one. -/
theorem goesBefore_total (rule other : Rule) :
    rule.goesBefore other = true ∨ other.goesBefore rule = true := by
  rw [goesBefore_iff, goesBefore_iff]
  rcases Nat.lt_trichotomy rule.closeness.1 other.closeness.1 with hless | hsame | hless
  · exact Or.inr (Or.inl hless)
  · rcases Nat.lt_trichotomy rule.closeness.2 other.closeness.2 with hless | hfields | hless
    · exact Or.inr (Or.inr ⟨hsame, Or.inl hless⟩)
    · rcases String.le_total (rule.field.getD "") (other.field.getD "") with hle | hle
      · exact Or.inr (Or.inr ⟨hsame, Or.inr ⟨hfields, hle⟩⟩)
      · exact Or.inl (Or.inr ⟨hsame.symm, Or.inr ⟨hfields.symm, hle⟩⟩)
    · exact Or.inl (Or.inr ⟨hsame.symm, Or.inl hless⟩)
  · exact Or.inl (Or.inl hless)

/-- A rule that goes before another goes before all that the other goes before. There are nine
cases, by the part of `closeness` in which each pair differs. -/
theorem goesBefore_trans {first second third : Rule} (h : first.goesBefore second = true)
    (hnext : second.goesBefore third = true) : first.goesBefore third = true := by
  rw [goesBefore_iff] at h hnext ⊢
  rcases h with hless | ⟨hsame, h⟩
  · left
    -- The first parts differ in one of the two steps, so they differ in the end.
    rcases hnext with hless' | ⟨hsame', -⟩ <;> omega
  · rcases hnext with hless' | ⟨hsame', hnext⟩
    · left
      omega
    · refine Or.inr ⟨hsame'.trans hsame, ?_⟩
      rcases h with hless | ⟨hfields, hle⟩
      · left
        rcases hnext with hless' | ⟨hfields', -⟩ <;> omega
      · rcases hnext with hless' | ⟨hfields', hle'⟩
        · left
          omega
        · exact Or.inr ⟨hfields'.trans hfields, String.le_trans hle' hle⟩

/-- Of rules that hold for a record, the one that the others give way to: it goes before each that
stands in front of it, and none behind it goes before it. -/
def Heads (rules : List Rule) (rule : Rule) : Prop :=
  ∃ before after, rules = before ++ rule :: after ∧
    (∀ other ∈ before, rule.goesBefore other = true) ∧
    ∀ other ∈ after, other.goesBefore rule = false

/-- No two rules head the same list. The one that stands first would have to go before the other as
well as not to. -/
theorem Heads.unique {rules : List Rule} {rule other : Rule} (h : Heads rules rule)
    (hother : Heads rules other) : rule = other := by
  obtain ⟨before, after, rfl, hbefore, hafter⟩ := h
  obtain ⟨before', after', hsplit, hbefore', hafter'⟩ := hother
  rcases List.append_eq_append_iff.mp hsplit with ⟨between, rfl, hrest⟩ | ⟨between, rfl, hrest⟩
  · cases between with
    | nil => exact (List.cons.inj hrest).1
    | cons first between =>
      -- The rule stands in front of the other.
      obtain ⟨rfl, rfl⟩ := List.cons.inj hrest
      have hyes := hbefore' rule (by simp)
      have hno := hafter other (by simp)
      rw [hyes] at hno
      cases hno
  · cases between with
    | nil => exact (List.cons.inj hrest).1.symm
    | cons first between =>
      obtain ⟨rfl, rfl⟩ := List.cons.inj hrest
      have hyes := hbefore other (by simp)
      have hno := hafter' rule (by simp)
      rw [hyes] at hno
      cases hno

/-- A rule that heads a list goes before every rule in it, itself and those behind it included
(`goesBefore_total`). -/
theorem Heads.goesBefore {rules : List Rule} {rule other : Rule} (h : Heads rules rule)
    (hother : other ∈ rules) : rule.goesBefore other = true := by
  obtain ⟨before, after, rfl, hbefore, hafter⟩ := h
  have hself : rule.goesBefore rule = true := (goesBefore_total rule rule).elim id id
  rcases List.mem_append.mp hother with hmem | hmem
  · exact hbefore other hmem
  · rcases List.mem_cons.mp hmem with rfl | hmem
    · exact hself
    · rcases goesBefore_total rule other with hyes | hno
      · exact hyes
      · rw [hafter other hmem] at hno
        cases hno

end Rule

namespace Filter

/-! ### The rule that decides -/

/-- One step of `ruleFor?`: the rule found so far gives way to one that goes before it. -/
def better (found : Option Rule) (rule : Rule) : Option Rule :=
  match found with
  | none => some rule
  | some other => if rule.goesBefore other then some rule else found

/-- The walk of `ruleFor?` ends with the rule that heads the list. The induction takes the last rule
off, since the walk compares it with the best of those in front of it. -/
theorem foldl_better {rules : List Rule} (hsome : rules ≠ []) :
    ∃ rule, rules.foldl better none = some rule ∧ Rule.Heads rules rule := by
  induction rules using List.reverseRecOn with
  | nil => exact absurd rfl hsome
  | append_singleton rules last ih =>
    rw [List.foldl_append, List.foldl_cons, List.foldl_nil]
    by_cases hnil : rules = []
    · subst hnil
      exact ⟨last, rfl, [], [], rfl, List.forall_mem_nil _, List.forall_mem_nil _⟩
    · obtain ⟨rule, hfound, hheads⟩ := ih hnil
      rw [hfound]
      -- The last rule is compared with the best of those in front of it.
      show ∃ winner, (if last.goesBefore rule then some last else some rule) = some winner ∧ _
      by_cases hlast : last.goesBefore rule = true
      · -- What the best rule so far goes before, the last one goes before too.
        refine ⟨last, if_pos hlast, rules, [], rfl, fun other hother => ?_, List.forall_mem_nil _⟩
        exact Rule.goesBefore_trans hlast (hheads.goesBefore hother)
      · obtain ⟨before, after, rfl, hbefore, hafter⟩ := hheads
        refine ⟨rule, if_neg hlast, before, after ++ [last], by simp, hbefore, ?_⟩
        intro other hother
        rcases List.mem_append.mp hother with hmem | hmem
        · exact hafter other hmem
        · rw [List.mem_singleton.mp hmem]
          exact Bool.eq_false_iff.mpr hlast

/-- A rule decides on a record if it holds for it and heads the rules that do: of those before it,
each that holds gives way to it, and of those behind it none that holds goes before it. -/
def Decides (f : Filter) (record : Record) (rule : Rule) : Prop :=
  ∃ before after, f.rules = before ++ rule :: after ∧ rule.holdsFor record = true ∧
    (∀ other ∈ before, other.holdsFor record = true → rule.goesBefore other = true) ∧
    ∀ other ∈ after, other.holdsFor record = true → other.goesBefore rule = false

/-- Deciding is heading the rules that hold: `Decides` speaks of all rules and skips the others, and
`Heads` of the list that is left without them. -/
theorem decides_iff_heads {f : Filter} {record : Record} {rule : Rule} :
    f.Decides record rule ↔ Rule.Heads (f.rules.filter (·.holdsFor record)) rule := by
  constructor
  · rintro ⟨before, after, hrules, hholds, hbefore, hafter⟩
    refine ⟨before.filter (·.holdsFor record), after.filter (·.holdsFor record), ?_, ?_, ?_⟩
    · rw [hrules, List.filter_append, List.filter_cons, if_pos hholds]
    · intro other hother
      obtain ⟨hmem, hother⟩ := List.mem_filter.mp hother
      exact hbefore other hmem hother
    · intro other hother
      obtain ⟨hmem, hother⟩ := List.mem_filter.mp hother
      exact hafter other hmem hother
  · rintro ⟨before, after, hrules, hbefore, hafter⟩
    -- The rules that do not hold are put back between those that do.
    obtain ⟨front, back, hcut, hfront, hback⟩ := List.filter_eq_append_iff.mp hrules
    obtain ⟨idle, rest, rfl, hidle, hholds, hrest⟩ := List.filter_eq_cons_iff.mp hback
    refine ⟨front ++ idle, rest, by rw [hcut, List.append_assoc], hholds, ?_, ?_⟩
    · intro other hother hyes
      rcases List.mem_append.mp hother with hmem | hmem
      · exact hbefore other (hfront ▸ List.mem_filter.mpr ⟨hmem, hyes⟩)
      · exact absurd hyes (hidle other hmem)
    · intro other hother hyes
      exact hafter other (hrest ▸ List.mem_filter.mpr ⟨hother, hyes⟩)

/-- `ruleFor?` finds the rule that decides, and no other rule does (`Rule.Heads.unique`). So which
rule is found does not depend on how the list is walked. -/
theorem ruleFor?_eq_some_iff {f : Filter} {record : Record} {rule : Rule} :
    f.ruleFor? record = some rule ↔ f.Decides record rule := by
  rw [decides_iff_heads]
  show (f.rules.filter (·.holdsFor record)).foldl better none = some rule ↔ _
  generalize f.rules.filter (·.holdsFor record) = rules
  by_cases hnil : rules = []
  · subst hnil
    constructor
    · intro h
      cases h
    · rintro ⟨before, after, hrules, -⟩
      simp at hrules
  · obtain ⟨winner, hfound, hheads⟩ := foldl_better hnil
    rw [hfound, Option.some.injEq]
    constructor
    · rintro rfl
      exact hheads
    · intro h
      exact hheads.unique h

/-- `ruleFor?` finds no rule only where none holds for the record. Then the record is dropped, as no
rule asks for it. -/
theorem ruleFor?_eq_none_iff {f : Filter} {record : Record} :
    f.ruleFor? record = none ↔ ∀ rule ∈ f.rules, rule.holdsFor record = false := by
  constructor
  · intro h
    by_contra hsome
    have hne : f.rules.filter (·.holdsFor record) ≠ [] := by
      intro hnil
      refine hsome fun rule hrule => ?_
      exact Bool.eq_false_iff.mpr (List.filter_eq_nil_iff.mp hnil rule hrule)
    obtain ⟨rule, hfound, -⟩ := foldl_better hne
    have hrule : f.ruleFor? record = some rule := hfound
    rw [h] at hrule
    cases hrule
  · intro h
    have hnil : f.rules.filter (·.holdsFor record) = [] :=
      List.filter_eq_nil_iff.mpr fun rule hrule => by simp [h rule hrule]
    show (f.rules.filter (·.holdsFor record)).foldl better none = none
    rw [hnil]
    rfl

/-- A record is kept exactly if a rule decides on it and its threshold admits the level. A rule that
holds but does not decide has no say, whatever it admits. -/
theorem keeps_iff {f : Filter} {record : Record} :
    f.keeps record = true ↔
      ∃ rule, f.Decides record rule ∧ rule.threshold.admits record.level = true := by
  unfold keeps
  constructor
  · intro h
    split at h
    · cases h
    · next rule hrule => exact ⟨rule, ruleFor?_eq_some_iff.mp hrule, h⟩
  · rintro ⟨rule, hdecides, hadmits⟩
    rw [ruleFor?_eq_some_iff.mpr hdecides]
    exact hadmits

/-- A threshold that admits a level admits every more important one, since `Threshold.admits`
compares the ranks alone. -/
theorem admits_of_rank_le {t : Threshold} {level higher : Level} (h : t.admits level = true)
    (hle : level.rank ≤ higher.rank) : t.admits higher = true := by
  cases t with
  | none => cases h
  | some least =>
    have hleast : least.rank ≤ level.rank := of_decide_eq_true h
    exact decide_eq_true (Nat.le_trans hleast hle)

/-- Where a record is kept, a more important one with the same source and the same fields is kept.
No rule looks at the level to see whether it holds, so the same rule decides on both. -/
theorem keeps_of_rank_le {f : Filter} {record : Record} {level : Level}
    (h : f.keeps record = true) (hle : record.level.rank ≤ level.rank) :
    f.keeps { record with level := level } = true := by
  obtain ⟨rule, hdecides, hadmits⟩ := keeps_iff.mp h
  exact keeps_iff.mpr ⟨rule, hdecides, admits_of_rank_le hadmits hle⟩

end Filter

/-! ### Clauses that ask for a value -/

namespace Clause

/-- `valueOf?` finds what stands behind the equals sign of a field, if there is one sign alone. -/
theorem valueOf?_append {name value : List Char} (hname : '=' ∉ name) (hvalue : '=' ∉ value) :
    valueOf? (name ++ '=' :: value) = some value := by
  have hdrop : (name ++ '=' :: value).dropWhile (· ≠ '=') = '=' :: value := by
    have hall : ∀ c ∈ name, decide (c ≠ '=') = true :=
      fun c hc => decide_eq_true fun heq => hname (heq ▸ hc)
    rw [List.dropWhile_append_of_pos hall]
    rfl
  have htake : value.takeWhile (· ≠ '=') = value :=
    List.takeWhile_eq_self_iff.mpr fun c hc => decide_eq_true fun heq => hvalue (heq ▸ hc)
  unfold valueOf?
  rw [hdrop]
  exact congrArg some htake

/-- A clause that asks a field for a quoted value is read. It is `idle`, because records give the
values of their fields to no filter. -/
theorem ofBracket?_quote {names name value : List Char} {scope : Option (List Char)}
    {threshold : Threshold} (hname : '=' ∉ name) (hvalue : '=' ∉ value) :
    ofBracket? names ⟨scope, some (name ++ '=' :: Pattern.quote value)⟩ threshold = some .idle := by
  have hquote : '=' ∉ Pattern.quote value := Pattern.not_mem_quote hvalue (by decide)
  unfold ofBracket?
  rw [Option.bind_some, valueOf?_append hname hquote]
  show (if (isNumber (Pattern.quote value) || Pattern.isUsable (Pattern.quote value)) = true
    then some Clause.idle else none) = some .idle
  rw [Pattern.isUsable_quote, Bool.or_true]
  rfl

end Clause

end LspSession.Log
