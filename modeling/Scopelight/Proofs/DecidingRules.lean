import Mathlib.Data.List.Induction
import Mathlib.Data.Prod.Lex
import Scopelight.Proofs.ThemeColors

/-!
# Deciding rules

Each attribute of a style is decided by one pair of a depth in the scope stack and a rule
that sets the attribute there.  The search goes from the innermost scope outwards and takes
the most specific rule at the first depth with any; the pair that it finds is the greatest
of all pairs, by the depth first and then by the rule.
-/

namespace Scopelight

namespace ThemeRule

/-- What decides between two rules at one depth: the segments of the target, then the
parents, then the order of declaration. -/
def specificity (rule : ThemeRule) : ℕ ×ₗ ℕ ×ₗ ℕ :=
  toLex (rule.selector.segmentCount, toLex (rule.selector.parents.length, rule.order))

/-- What decides between two rules that set an attribute at some depth each. -/
def rank (depth : Nat) (rule : ThemeRule) : ℕ ×ₗ ℕ ×ₗ ℕ ×ₗ ℕ :=
  toLex (depth, rule.specificity)

theorem outranks_iff {rule other : ThemeRule} :
    rule.outranks other = true ↔ other.specificity ≤ rule.specificity := by
  simp only [outranks, specificity, Bool.or_eq_true, Bool.and_eq_true, decide_eq_true_eq,
    Prod.Lex.toLex_le_toLex]

theorem order_eq_of_specificity_eq {rule other : ThemeRule}
    (same : other.specificity = rule.specificity) : other.order = rule.order := by
  have pairs := congrArg ofLex same
  exact congrArg (fun pair => (ofLex pair.2).2) pairs

/-- The strongest rule is at least as specific as all others. -/
theorem strongest?_eq_some_or (rules : List ThemeRule) :
    (strongest? rules = none ∧ rules = []) ∨
      ∃ rule, strongest? rules = some rule ∧
        ∀ other ∈ rules, other.specificity ≤ rule.specificity := by
  induction rules using List.reverseRecOn with
  | nil => exact .inl ⟨rfl, rfl⟩
  | append_singleton rules last ih =>
      refine .inr ?_
      rcases ih with ⟨-, rfl⟩ | ⟨best, bestEq, greatest⟩
      · exact ⟨last, rfl, by simp⟩
      have turn : strongest? (rules ++ [last]) =
          if last.outranks best then some last else some best := by
        unfold strongest? at bestEq ⊢
        rw [List.foldl_append, bestEq]
        rfl
      rw [turn]
      by_cases stronger : last.outranks best = true
      · refine ⟨last, if_pos stronger, fun other member => ?_⟩
        rcases List.mem_append.mp member with before | same
        · exact (greatest other before).trans (outranks_iff.mp stronger)
        · rw [List.mem_singleton.mp same]
      · refine ⟨best, if_neg stronger, fun other member => ?_⟩
        rcases List.mem_append.mp member with before | same
        · exact greatest other before
        · rw [List.mem_singleton.mp same]
          exact le_of_not_ge (mt outranks_iff.mpr stronger)

end ThemeRule

namespace Theme

variable {Value : Type} {rules : List ThemeRule} {setting : ThemeRule → Option Value}
  {scopes : List Scope} {scope : Scope} {depth : Nat} {rule other : ThemeRule}

/-- A rule sets an attribute at a depth of a scope stack, outermost first: it has a value for
the attribute, and selects the scope at this depth among the scopes before it. -/
structure Sets (rules : List ThemeRule) (setting : ThemeRule → Option Value)
    (scopes : List Scope) (depth : Nat) (rule : ThemeRule) : Prop where
  declared : rule ∈ rules
  hasValue : (setting rule).isSome = true
  selected : ∃ scope, scopes[depth]? = some scope ∧
    rule.selector.selects scope (scopes.take depth).reverse = true

/-- What decides an attribute for a scope stack: the default if no rule sets it at any
depth, or else the pair of a depth and a rule which ranks above all other pairs. -/
inductive Decides (rules : List ThemeRule) (setting : ThemeRule → Option Value)
    (scopes : List Scope) (default : Value) : Value → Prop
  | unset (noneSets : ∀ depth rule, ¬Sets rules setting scopes depth rule) :
      Decides rules setting scopes default default
  | greatest {depth : Nat} {rule : ThemeRule} {value : Value}
      (sets : Sets rules setting scopes depth rule) (valueEq : setting rule = some value)
      (above : ∀ before other, Sets rules setting scopes before other →
        (before, other) ≠ (depth, rule) → other.rank before < rule.rank depth) :
      Decides rules setting scopes default value

/-- Each rule carries its place in the order of declaration. -/
def Numbered (rules : List ThemeRule) : Prop :=
  ∀ (order : Nat) (rule : ThemeRule), rules[order]? = some rule → rule.order = order

theorem Numbered.eq_of_order_eq (numbered : Numbered rules) (ruleMem : rule ∈ rules)
    (otherMem : other ∈ rules) (same : other.order = rule.order) : other = rule := by
  obtain ⟨place, ruleEq⟩ := List.mem_iff_getElem?.mp ruleMem
  obtain ⟨elsewhere, otherEq⟩ := List.mem_iff_getElem?.mp otherMem
  obtain rfl : elsewhere = place := by
    rw [← numbered elsewhere other otherEq, same, numbered place rule ruleEq]
  exact Option.some.inj (otherEq.symm.trans ruleEq)

/-- Where a scope is added inside, rules set an attribute at the depth of this scope, and
further out where they did before. -/
theorem sets_concat : Sets rules setting (scopes ++ [scope]) depth rule ↔
    Sets rules setting scopes depth rule ∨
      depth = scopes.length ∧ rule ∈ rules ∧
        ((setting rule).isSome && rule.selector.selects scope scopes.reverse) = true := by
  rw [Bool.and_eq_true]
  constructor
  · rintro ⟨declared, hasValue, found, foundEq, selects⟩
    rcases Nat.lt_trichotomy depth scopes.length with outer | rfl | beyond
    · rw [List.getElem?_append_left outer] at foundEq
      rw [List.take_append_of_le_length outer.le] at selects
      exact .inl ⟨declared, hasValue, found, foundEq, selects⟩
    · rw [List.getElem?_concat_length] at foundEq
      obtain rfl := Option.some.inj foundEq
      rw [List.take_left] at selects
      exact .inr ⟨rfl, declared, hasValue, selects⟩
    · rw [List.getElem?_eq_none (by simpa using Nat.succ_le_of_lt beyond)] at foundEq
      cases foundEq
  · rintro (⟨declared, hasValue, found, foundEq, selects⟩ | ⟨rfl, declared, hasValue, selects⟩)
    · obtain ⟨outer, -⟩ := List.getElem?_eq_some_iff.mp foundEq
      refine ⟨declared, hasValue, found, ?_, ?_⟩
      · rwa [List.getElem?_append_left outer]
      · rwa [List.take_append_of_le_length outer.le]
    · refine ⟨declared, hasValue, scope, List.getElem?_concat_length, ?_⟩
      rwa [List.take_left]

theorem Sets.depth_lt (sets : Sets rules setting scopes depth rule) : depth < scopes.length := by
  obtain ⟨_, found, -⟩ := sets.selected
  exact (List.getElem?_eq_some_iff.mp found).1

/-- What decides depends only on the pairs that set the attribute. -/
theorem Decides.of_same_pairs {others : List Scope} {default value : Value}
    (decides : Decides rules setting scopes default value)
    (samePairs : ∀ depth rule,
      Sets rules setting others depth rule ↔ Sets rules setting scopes depth rule) :
    Decides rules setting others default value := by
  cases decides with
  | unset noneSets =>
      exact .unset fun depth rule => mt (samePairs depth rule).mp (noneSets depth rule)
  | greatest sets valueEq above =>
      exact .greatest ((samePairs _ _).mpr sets) valueEq fun before other setsToo =>
        above before other ((samePairs before other).mp setsToo)

/-- The most specific of the rules that set an attribute for the innermost scope decides it. -/
theorem decides_innermost (numbered : Numbered rules) {default value : Value}
    (declared : rule ∈ rules)
    (setsHere : ((setting rule).isSome &&
      rule.selector.selects scope scopes.reverse) = true)
    (mostSpecific : ∀ other ∈ rules, ((setting other).isSome &&
      other.selector.selects scope scopes.reverse) = true → other.specificity ≤ rule.specificity)
    (valueEq : setting rule = some value) :
    Decides rules setting (scopes ++ [scope]) default value := by
  refine .greatest (sets_concat.mpr (.inr ⟨rfl, declared, setsHere⟩)) valueEq
    fun before other setsToo apart => ?_
  rw [ThemeRule.rank, ThemeRule.rank, Prod.Lex.toLex_lt_toLex]
  rcases sets_concat.mp setsToo with outer | ⟨rfl, otherDeclared, otherSets⟩
  · exact .inl outer.depth_lt
  · refine .inr ⟨rfl, lt_of_le_of_ne (mostSpecific other otherDeclared otherSets) ?_⟩
    intro same
    have orderEq := ThemeRule.order_eq_of_specificity_eq same
    exact apart (congrArg (Prod.mk _) (numbered.eq_of_order_eq declared otherDeclared orderEq))

/-- The search from the innermost scope outwards finds what decides. -/
theorem decides_decided? (numbered : Numbered rules) (setting : ThemeRule → Option Value)
    (scopes : List Scope) (default : Value) :
    Decides rules setting scopes default
      ((decided? rules setting scopes.reverse).getD default) := by
  induction scopes using List.reverseRecOn with
  | nil =>
      refine .unset fun depth rule sets => ?_
      exact Nat.not_lt_zero depth sets.depth_lt
  | append_singleton scopes scope ih =>
      rw [List.reverse_concat, decided?]
      rcases ThemeRule.strongest?_eq_some_or (rules.filter fun rule =>
        (setting rule).isSome && rule.selector.selects scope scopes.reverse) with
        ⟨noneHere, noSetters⟩ | ⟨rule, strongest, mostSpecific⟩
      · -- Nothing sets the attribute here, so the pairs are those of the outer scopes.
        rw [noneHere]
        refine ih.of_same_pairs fun depth rule => ?_
        rw [sets_concat, or_iff_left]
        rintro ⟨-, declared, setsHere⟩
        exact List.filter_eq_nil_iff.mp noSetters rule declared setsHere
      · rw [strongest]
        obtain ⟨declared, setsHere⟩ :=
          List.mem_filter.mp (ThemeRule.strongest?_mem strongest)
        obtain ⟨value, valueEq⟩ :=
          Option.isSome_iff_exists.mp (Bool.and_eq_true_iff.mp setsHere).1
        change Decides rules setting (scopes ++ [scope]) default ((setting rule).getD default)
        rw [valueEq, Option.getD_some]
        refine decides_innermost numbered declared setsHere ?_ valueEq
        intro other otherDeclared otherSets
        exact mostSpecific other (List.mem_filter.mpr ⟨otherDeclared, otherSets⟩)

theorem numbered_of_load {source : String} {theme : Theme} (loads : load source = .ok theme) :
    Numbered theme.rules := by
  unfold load at loads
  split at loads
  · exact fun order rule found => ((built_of_ofDocument loads).1.stands order rule found).1
  · cases loads

/-- Each attribute of a resolved style is the value of the greatest pair of a depth and a
rule that sets the attribute there, by the depth, the segments of the target, the number of
parents and the order of declaration, or the default if there is no pair. -/
theorem resolve_decides {source : String} {theme : Theme} (loads : load source = .ok theme)
    (scopes : List Scope) :
    Decides theme.rules ThemeRule.foreground scopes theme.defaults.foreground
        (theme.resolve scopes).foreground ∧
      Decides theme.rules ThemeRule.background scopes theme.defaults.background
        (theme.resolve scopes).background ∧
      Decides theme.rules ThemeRule.font scopes theme.defaults.font
        (theme.resolve scopes).font := by
  have numbered := numbered_of_load loads
  refine ⟨?_, ?_, ?_⟩ <;> exact decides_decided? numbered _ scopes _

/-- A theme in which a rule for strings sets the foreground, and rules for lists and for the
strings in them set the background. -/
def outlineSource : String :=
  "\x7b\"settings\":[" ++
    "\x7b\"scope\":\"string\",\"settings\":\x7b\"foreground\":\"#ce9178\"\x7d\x7d," ++
    "\x7b\"scope\":\"list string, list\",\"settings\":\x7b\"background\":\"#252526\"\x7d\x7d" ++
  "]\x7d"

theorem outlineSource_resolve :
    ∃ theme, load outlineSource = .ok theme ∧
      theme.resolve [⟨"list"⟩, ⟨"string"⟩] = ⟨3, 4, .plain⟩ ∧
      Decides theme.rules ThemeRule.foreground [⟨"list"⟩, ⟨"string"⟩]
        theme.defaults.foreground 3 ∧
      Decides theme.rules ThemeRule.background [⟨"list"⟩, ⟨"string"⟩]
        theme.defaults.background 4 := by
  have evaluated : ((load outlineSource).toOption.any fun theme =>
      decide (theme.resolve [⟨"list"⟩, ⟨"string"⟩] = ⟨3, 4, .plain⟩)) = true := by
    decide +kernel
  obtain ⟨theme, loaded, checked⟩ := Grammar.exists_ok_of_any evaluated
  have styleEq := of_decide_eq_true checked
  obtain ⟨foreground, background, -⟩ := resolve_decides loaded [⟨"list"⟩, ⟨"string"⟩]
  rw [styleEq] at foreground background
  exact ⟨theme, loaded, styleEq, foreground, background⟩

end Theme

end Scopelight
