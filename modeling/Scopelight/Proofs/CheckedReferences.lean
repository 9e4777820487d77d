import Mathlib.Data.List.Basic
import Scopelight.Grammar.Load

/-!
# The check of references

References are checked when a grammar is loaded, and resolved when it is used.  The check
knows a reference exactly if it resolves.  A strict check fails at the first reference that
it does not know; a lenient check never fails, and notes the unknown references as they are
written, each once and in the order in which they were met.
-/

namespace Scopelight

namespace ReferenceTarget

/-- A reference is written as it was read. -/
@[simp]
theorem text_ofText (text : String) : (ofText text).text = text := by
  unfold ofText
  split
  · next itself => exact itself.symm
  split
  · next base => exact base.symm
  split
  · next name chars =>
      rw [ReferenceTarget.text, String.toList_ofList, ← chars, String.ofList_toList]
  · rfl

end ReferenceTarget

namespace Grammar

/-- A reference is known exactly if it resolves to a rule. -/
theorem isKnown_eq (book : Rulebook) (target : ReferenceTarget) :
    isKnown book.repository target = (book.resolve? target).isSome := by
  cases target with
  | named name =>
      rw [isKnown, Rulebook.resolve?, Rulebook.named?, Option.isSome_map, Bool.eq_iff_iff,
        List.any_eq_true, List.find?_isSome]
  | self | base | foreign => rfl

/-- The references that are not known, as they are written. -/
def dangling (repository : List (String × RuleId)) (references : List ReferenceTarget) :
    List String :=
  (references.filter fun target => !isKnown repository target).map ReferenceTarget.text

variable {repository : List (String × RuleId)} {references : List ReferenceTarget}

theorem dangling_eq_nil :
    dangling repository references = [] ↔
      ∀ target ∈ references, isKnown repository target = true := by
  simp [dangling]

/-- A strict check fails at the first reference that is not known. -/
theorem checkReferences_strict (repository : List (String × RuleId))
    (references : List ReferenceTarget) (noted : List Diagnostic) :
    checkReferences true repository references noted =
      match dangling repository references with
      | name :: _ => .error (.unresolvedReference name)
      | [] => .ok noted := by
  induction references with
  | nil => rfl
  | cons target rest ih =>
      rw [checkReferences, dangling, List.filter_cons]
      cases isKnown repository target with
      | true => exact ih
      | false => rfl

/-- Of some names, those that are not noted once one more name is. -/
private theorem filter_not_noted (noted : List Diagnostic) (name : String)
    (names : List String) :
    (names.filter fun other =>
        !(noted ++ [Diagnostic.unresolvedReference name]).contains (.unresolvedReference other)) =
      (names.filter fun other => !noted.contains (.unresolvedReference other)).filter
        fun other => !other == name := by
  rw [List.filter_filter]
  refine List.filter_congr fun other _ => ?_
  have sameName : (Diagnostic.unresolvedReference other == .unresolvedReference name) =
      (other == name) := by
    rw [Bool.eq_iff_iff, beq_iff_eq, beq_iff_eq, Diagnostic.unresolvedReference.injEq]
  rw [List.contains_append, List.contains_cons, List.contains_nil, Bool.or_false, Bool.not_or,
    sameName, Bool.and_comm]

/-- A lenient check notes the references that are not known, each once and as it is written,
in the order in which they come first. -/
theorem checkReferences_lenient (repository : List (String × RuleId))
    (references : List ReferenceTarget) (noted : List Diagnostic) :
    checkReferences false repository references noted =
      .ok (noted ++ ((dangling repository references).filter fun name =>
        !noted.contains (.unresolvedReference name)).eraseDups.map .unresolvedReference) := by
  induction references generalizing noted with
  | nil => simp [checkReferences, dangling]
  | cons target rest ih =>
      rw [checkReferences, dangling, List.filter_cons]
      cases isKnown repository target with
      | true => exact ih noted
      | false =>
          rw [if_neg Bool.false_ne_true, if_neg Bool.false_ne_true, Bool.not_false, if_pos rfl,
            List.map_cons, List.filter_cons]
          cases again : noted.contains (.unresolvedReference target.text) with
          | true =>
              rw [if_pos rfl, Bool.not_true, if_neg Bool.false_ne_true]
              exact ih noted
          | false =>
              rw [if_neg Bool.false_ne_true, Bool.not_false, if_pos rfl, ih, List.eraseDups_cons,
                filter_not_noted, List.map_cons, List.append_assoc, List.singleton_append,
                dangling]

end Grammar

end Scopelight
