import Mathlib.Data.List.NodupEquivFin
import Scopelight.Theme.Selector

/-!
# Selected ancestors

A selector asks for an ancestor of a scope for each of its parents, in their order.  Each
parent takes the innermost ancestor that it selects, and what was taken is never given back.
No choice of ancestors is missed by this: where one exists, a parent can as well take the
innermost ancestor instead of its own, which leaves more ancestors to the parents further
out.
-/

namespace Scopelight

namespace Scope

/-- A scope has the name that a selector says, or goes on after it with a dot. -/
def Under (scope : Scope) (selector : String) : Prop :=
  scope.name = selector ∨ ∃ rest, scope.name = selector ++ "." ++ rest

theorem continues_iff {selector name : List Char} :
    continues selector name = true ↔
      name = selector ∨ ∃ rest, name = selector ++ '.' :: rest := by
  induction selector generalizing name with
  | nil => cases name <;> simp [continues]
  | cons s selector ih =>
      cases name with
      | nil => simp [continues]
      | cons c name =>
          simp only [continues, Bool.and_eq_true, beq_iff_eq, ih, List.cons_append,
            List.cons.injEq, exists_and_left, ← and_or_left, eq_comm (a := s)]

theorem selectedBy_iff {scope : Scope} {selector : String} :
    scope.selectedBy selector = true ↔ scope.Under selector := by
  have dotted (rest : String) : (selector ++ "." ++ rest).toList =
      selector.toList ++ '.' :: rest.toList := by
    simp
  rw [selectedBy, continues_iff, Under]
  constructor
  · rintro (same | ⟨rest, goesOn⟩)
    · exact .inl (String.toList_inj.mp same)
    · refine .inr ⟨String.ofList rest, String.toList_inj.mp ?_⟩
      rw [dotted, String.toList_ofList, goesOn]
  · rintro (same | ⟨rest, goesOn⟩)
    · exact .inl (congrArg String.toList same)
    · exact .inr ⟨rest.toList, by rw [goesOn, dotted]⟩

end Scope

section Lists

variable {Key Item : Type} {fits : Key → Item → Prop} {keys : List Key} {items : List Item}

/-- Places for all keys are places for all but the first one. -/
theorem sublistForall₂_of_cons {key : Key}
    (within : List.SublistForall₂ fits (key :: keys) items) :
    List.SublistForall₂ fits keys items := by
  induction items with
  | nil => cases within
  | cons item items ih =>
      cases within with
      | cons _ rest => exact rest.cons_right
      | cons_right later => exact (ih later).cons_right

theorem sublistForall₂_reverse :
    List.SublistForall₂ fits keys.reverse items.reverse ↔
      List.SublistForall₂ fits keys items := by
  have turn {keys : List Key} {items : List Item}
      (within : List.SublistForall₂ fits keys items) :
      List.SublistForall₂ fits keys.reverse items.reverse := by
    obtain ⟨chosen, fit, sublist⟩ := List.sublistForall₂_iff.mp within
    exact List.sublistForall₂_iff.mpr
      ⟨chosen.reverse, List.forall₂_reverse_iff.mpr fit, sublist.reverse⟩
  refine ⟨fun within => ?_, turn⟩
  have back := turn within
  rwa [List.reverse_reverse, List.reverse_reverse] at back

/-- Items that fit some keys stand among others in the same order exactly if the keys have
increasing places. -/
theorem sublistForall₂_iff_places :
    List.SublistForall₂ fits keys items ↔
      ∃ place : Fin keys.length → Fin items.length, StrictMono place ∧
        ∀ key, fits (keys.get key) (items.get (place key)) := by
  rw [List.sublistForall₂_iff]
  constructor
  · rintro ⟨chosen, fit, sublist⟩
    obtain ⟨lengthEq, fit⟩ := List.forall₂_iff_get.mp fit
    obtain ⟨place, chosenEq⟩ := List.sublist_iff_exists_fin_orderEmbedding_get_eq.mp sublist
    refine ⟨fun key => place (key.cast lengthEq), fun key next before => ?_, fun key => ?_⟩
    · exact place.strictMono before
    · rw [← chosenEq]
      exact fit key key.isLt (lengthEq ▸ key.isLt)
  · rintro ⟨place, increasing, fit⟩
    have lengthEq : (List.ofFn fun key => items.get (place key)).length = keys.length :=
      List.length_ofFn
    refine ⟨List.ofFn fun key => items.get (place key), ?_, ?_⟩
    · refine List.forall₂_iff_get.mpr ⟨lengthEq.symm, fun index inside _ => ?_⟩
      rw [List.get_ofFn]
      exact fit ⟨index, inside⟩
    · refine List.sublist_iff_exists_fin_orderEmbedding_get_eq.mpr
        ⟨.ofStrictMono (fun key => place (key.cast lengthEq)) fun key next before => ?_, ?_⟩
      · exact increasing before
      · intro key
        rw [List.get_ofFn]
        rfl

end Lists

namespace Selector

/-- If there are ancestors for some parents, then these are among those that are taken. -/
theorem ancestorsSelected_iff {parents : List String} {ancestors : List Scope} :
    ancestorsSelected parents ancestors = true ↔
      List.SublistForall₂ (fun parent scope => scope.Under parent) parents ancestors := by
  induction ancestors generalizing parents with
  | nil =>
      cases parents with
      | nil => exact iff_of_true rfl .nil
      | cons parent outer => exact iff_of_false nofun nofun
  | cons scope ancestors ih =>
      cases parents with
      | nil => exact iff_of_true rfl .nil
      | cons parent outer =>
          unfold ancestorsSelected
          split
          · next taken =>
              rw [ih]
              refine ⟨.cons (Scope.selectedBy_iff.mp taken), fun within => ?_⟩
              -- Whichever ancestor the parent has, those of the others stand further out.
              cases within with
              | cons _ rest => exact rest
              | cons_right later => exact sublistForall₂_of_cons later
          · next passed =>
              rw [ih]
              refine ⟨.cons_right, fun within => ?_⟩
              cases within with
              | cons selected _ => exact absurd (Scope.selectedBy_iff.mpr selected) passed
              | cons_right within => exact within

/-- A selector selects a scope among its ancestors, outermost first, exactly if the target
selects the scope and the parents, outermost first, can be given increasing places among the
ancestors such that each of them selects the ancestor at its place. -/
theorem selects_iff_places (selector : Selector) (scope : Scope) (ancestors : List Scope) :
    selector.selects scope ancestors.reverse = true ↔
      scope.Under selector.target ∧
        ∃ place : Fin selector.parents.reverse.length → Fin ancestors.length,
          StrictMono place ∧
            ∀ parent, (ancestors.get (place parent)).Under
              (selector.parents.reverse.get parent) := by
  rw [selects, Bool.and_eq_true, Scope.selectedBy_iff, ancestorsSelected_iff,
    ← sublistForall₂_reverse, List.reverse_reverse, sublistForall₂_iff_places]

-- The innermost `list` goes to the inner parent, and the outer one is left for the other.
example : Selector.selects ⟨"number", ["list", "list"]⟩ ⟨"number.real"⟩
      [⟨"list"⟩, ⟨"text"⟩, ⟨"list.outer"⟩] = true ∧
    Selector.selects ⟨"number", ["list", "list"]⟩ ⟨"number.real"⟩
      [⟨"list"⟩, ⟨"listing"⟩] = false := by
  decide

end Selector

end Scopelight
