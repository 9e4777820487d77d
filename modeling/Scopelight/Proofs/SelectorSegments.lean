import Scopelight.Config
import Scopelight.Proofs.SelectedAncestors
import Scopelight.Proofs.TextBytes

/-!
# Selectors as segments

A selector selects a scope if the scope has the same name or goes on after it with a dot.  As
lists of the segments between dots, the one of the selector is then a prefix of the one of the
scope, whatever empty segments there are in either.  So selectors are ordered as prefixes are,
and the same test on the bytes of both names, as settings make it for matched brackets,
finds the same.
-/

namespace Scopelight

/-- The segments of a name are the texts between its dots. -/
theorem dottedSegments_eq_splitOn (name : List Char) :
    dottedSegments name = name.splitOn '.' := by
  induction name with
  | nil => rfl
  | cons c rest ih =>
      rw [dottedSegments, List.splitOn_cons_eq_if_modifyHead, ih]
      by_cases dot : c = '.'
      · simp [dot]
      · have more := List.splitOn_ne_nil '.' rest
        cases segments : rest.splitOn '.' with
        | nil => exact absurd segments more
        | cons first others => simp [dot]

/-- A name can be put together from its segments. -/
theorem dottedSegments_inj {first second : List Char} :
    dottedSegments first = dottedSegments second ↔ first = second := by
  constructor
  · intro same
    rw [dottedSegments_eq_splitOn, dottedSegments_eq_splitOn] at same
    have joined := congrArg (List.intercalate ['.']) same
    rwa [List.intercalate_splitOn, List.intercalate_splitOn] at joined
  · exact congrArg dottedSegments

theorem exists_dottedSegments (name : List Char) :
    ∃ first others, dottedSegments name = first :: others := by
  rw [dottedSegments_eq_splitOn]
  exact List.exists_cons_of_ne_nil (List.splitOn_ne_nil '.' name)

theorem dottedSegments_nil : dottedSegments [] = [[]] :=
  rfl

theorem dottedSegments_dot (rest : List Char) :
    dottedSegments ('.' :: rest) = [] :: dottedSegments rest := by
  rw [dottedSegments, if_pos rfl]

theorem dottedSegments_cons {c : Char} {rest first : List Char} {others : List (List Char)}
    (noDot : c ≠ '.') (restEq : dottedSegments rest = first :: others) :
    dottedSegments (c :: rest) = (c :: first) :: others := by
  rw [dottedSegments, if_neg noDot, restEq]

namespace Scope

/-- Character by character, a name goes on after a selector exactly if its segments go on
after those of the selector. -/
theorem continues_iff_segments {selector name : List Char} :
    continues selector name = true ↔ dottedSegments selector <+: dottedSegments name := by
  induction selector generalizing name with
  | nil =>
      rw [dottedSegments_nil]
      cases name with
      | nil => simp [continues, dottedSegments_nil]
      | cons c name =>
          obtain ⟨first, others, nameEq⟩ := exists_dottedSegments name
          by_cases dot : c = '.'
          · rw [dot, dottedSegments_dot]
            simp [continues]
          · rw [dottedSegments_cons dot nameEq]
            simp [continues, dot]
  | cons s selector ih =>
      obtain ⟨wanted, outer, selectorEq⟩ := exists_dottedSegments selector
      cases name with
      | nil =>
          rw [dottedSegments_nil]
          by_cases dot : s = '.'
          · rw [dot, dottedSegments_dot, selectorEq]
            simp [continues]
          · rw [dottedSegments_cons dot selectorEq]
            simp [continues]
      | cons c name =>
          obtain ⟨first, others, nameEq⟩ := exists_dottedSegments name
          rw [continues, Bool.and_eq_true, beq_iff_eq, ih]
          -- A dot ends a segment on both sides or on one only, which tells the names apart.
          by_cases selectorDot : s = '.' <;> by_cases nameDot : c = '.'
          · rw [selectorDot, nameDot, dottedSegments_dot, dottedSegments_dot]
            simp
          · rw [selectorDot, dottedSegments_dot, dottedSegments_cons nameDot nameEq]
            simp [Ne.symm nameDot]
          · rw [nameDot, dottedSegments_dot, dottedSegments_cons selectorDot selectorEq]
            simp [selectorDot]
          · rw [dottedSegments_cons selectorDot selectorEq, dottedSegments_cons nameDot nameEq,
              selectorEq, nameEq, List.cons_prefix_cons, List.cons_prefix_cons, List.cons.injEq,
              and_assoc]

/-- The segments of a selector are the first ones of a scope. -/
def HasFirst (scope : Scope) (selector : String) : Prop :=
  dottedSegments selector.toList <+: dottedSegments scope.name.toList

theorem selectedBy_iff_hasFirst {scope : Scope} {selector : String} :
    scope.selectedBy selector = true ↔ scope.HasFirst selector :=
  continues_iff_segments

/-- The test on bytes: a name is the selector, or begins with it and has a dot at the place
behind it. -/
def continuesInBytes (selector name : List UInt8) : Bool :=
  name == selector || (selector.isPrefixOf name && name[selector.length]? == some 0x2E)

/-- The byte behind the selector is a dot exactly if the character there is one. -/
theorem continuesInBytes_bytes (selector name : List Char) :
    continuesInBytes (Text.bytes selector) (Text.bytes name) = continues selector name := by
  rw [Bool.eq_iff_iff, continues_iff, continuesInBytes, Bool.or_eq_true, beq_iff_eq,
    Text.bytes_inj, Bool.and_eq_true, List.isPrefixOf_iff_prefix, Text.bytes_prefix_iff,
    beq_iff_eq]
  refine or_congr_right ⟨?_, ?_⟩
  · rintro ⟨⟨rest, rfl⟩, behind⟩
    rw [Text.bytes_append, List.getElem?_append_right (Nat.le_refl _), Nat.sub_self,
      ← List.head?_eq_getElem?] at behind
    obtain ⟨more, rfl⟩ := List.head?_eq_some_iff.mp
      ((Text.head?_bytes_iff (c := '.') (by decide) rest).mp behind)
    exact ⟨more, rfl⟩
  · rintro ⟨rest, rfl⟩
    refine ⟨List.prefix_append _ _, ?_⟩
    rw [Text.bytes_append, List.getElem?_append_right (Nat.le_refl _), Nat.sub_self,
      ← List.head?_eq_getElem?]
    exact (Text.head?_bytes_iff (c := '.') (by decide) ('.' :: rest)).mpr rfl

end Scope

namespace Config

open Scope

/-- The test that settings make for matched brackets, on bytes. -/
def isBalancedInBytes (config : Config) (scopes : List Scope) : Bool :=
  config.balancedSelectors.any fun selector =>
    selector == "*" || scopes.any fun scope =>
      continuesInBytes (Text.bytes selector.toList) (Text.bytes scope.name.toList)

theorem isBalancedInBytes_eq (config : Config) (scopes : List Scope) :
    config.isBalancedInBytes scopes = config.isBalanced scopes := by
  simp only [isBalancedInBytes, isBalanced, continuesInBytes_bytes, selectedBy]

theorem isBalanced_iff {config : Config} {scopes : List Scope} :
    config.isBalanced scopes = true ↔
      ∃ selector ∈ config.balancedSelectors,
        selector = "*" ∨ ∃ scope ∈ scopes, scope.HasFirst selector := by
  simp only [isBalanced, List.any_eq_true, Bool.or_eq_true, beq_iff_eq, selectedBy_iff_hasFirst]

end Config

namespace Scope

/-- A selector selects a scope exactly if its segments are the first ones of the scope.  This
is a partial order on names.  The test on bytes agrees with it, also the one that settings
make for matched brackets: these are matched exactly if some selector is `*` or selects one of
the scopes in this sense. -/
theorem selectedBy_iff_segments :
    (∀ (scope : Scope) (selector : String),
      (scope.selectedBy selector = true ↔
        dottedSegments selector.toList <+: dottedSegments scope.name.toList) ∧
      scope.selectedBy selector =
        continuesInBytes (Text.bytes selector.toList) (Text.bytes scope.name.toList)) ∧
    (∀ first second : String,
      (Scope.mk second).selectedBy first = true ∧ (Scope.mk first).selectedBy second = true ↔
        first = second) ∧
    (∀ outer middle inner : String, (Scope.mk middle).selectedBy outer = true →
      (Scope.mk inner).selectedBy middle = true → (Scope.mk inner).selectedBy outer = true) ∧
    ∀ (config : Config) (scopes : List Scope),
      config.isBalancedInBytes scopes = config.isBalanced scopes ∧
      (config.isBalanced scopes = true ↔
        ∃ selector ∈ config.balancedSelectors, selector = "*" ∨
          ∃ scope ∈ scopes,
            dottedSegments selector.toList <+: dottedSegments scope.name.toList) := by
  refine ⟨fun scope selector => ⟨continues_iff_segments, ?bytes⟩, fun first second => ?order,
    fun outer middle inner first second => ?transitive,
    fun config scopes => ⟨config.isBalancedInBytes_eq scopes, Config.isBalanced_iff⟩⟩
  case bytes => exact (continuesInBytes_bytes _ _).symm
  case order =>
    rw [selectedBy_iff_hasFirst, selectedBy_iff_hasFirst]
    constructor
    · rintro ⟨forth, back⟩
      have same : dottedSegments first.toList = dottedSegments second.toList :=
        List.IsPrefix.eq_of_length_le forth (List.IsPrefix.length_le back)
      exact String.toList_inj.mp (dottedSegments_inj.mp same)
    · rintro rfl
      exact ⟨List.prefix_refl _, List.prefix_refl _⟩
  case transitive =>
    rw [selectedBy_iff_hasFirst] at first second ⊢
    exact List.IsPrefix.trans first second

/-- Three names of which each selects the next, with an empty segment in two of them. -/
theorem selectedBy_segments_empty :
    (Scope.mk "string.").selectedBy "string" = true ∧
      (Scope.mk "string..quoted").selectedBy "string." = true ∧
      (Scope.mk "string..quoted").selectedBy "string" = true := by
  have steps : (Scope.mk "string.").selectedBy "string" = true ∧
      (Scope.mk "string..quoted").selectedBy "string." = true := by decide +kernel
  exact ⟨steps.1, steps.2, selectedBy_iff_segments.2.2.1 _ _ _ steps.1 steps.2⟩

end Scope

end Scopelight
