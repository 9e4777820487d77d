import Mathlib.Data.Finset.Card
import Mathlib.Data.Finset.Range
import Scopelight.Grammar.Rulebook

/-!
# The fuel of a collection

The walk that collects the candidates of a rule goes on from a rule only if it has not met
the rule before.  So it never goes deeper than there are rules that it has not met, and all
fuel that covers these gives the same result.
-/

namespace Scopelight

namespace Rulebook

variable {book : Rulebook}

/-- The number of rules that a walk has not met. -/
def unvisited (book : Rulebook) (collected : Collected) : Nat :=
  (Finset.range book.rules.size \ collected.visited.toFinset).card

theorem unvisited_le {before after : Collected} (grows : before.visited ⊆ after.visited) :
    book.unvisited after ≤ book.unvisited before := by
  refine Finset.card_le_card (Finset.sdiff_subset_sdiff (Finset.Subset.refl _) ?_)
  intro id member
  exact List.mem_toFinset.mpr (grows (List.mem_toFinset.mp member))

theorem unvisited_visit {collected : Collected} {id : RuleId} {rule : Rule}
    (ruleEq : book.rule? id = some rule) (fresh : id ∉ collected.visited) :
    book.unvisited { collected with visited := id :: collected.visited } <
      book.unvisited collected := by
  have inside : id < book.rules.size := (Array.getElem?_eq_some_iff.mp ruleEq).1
  have smaller : Finset.range book.rules.size \ (id :: collected.visited).toFinset ⊆
      Finset.range book.rules.size \ collected.visited.toFinset := by
    refine Finset.sdiff_subset_sdiff (Finset.Subset.refl _) ?_
    rw [List.toFinset_cons]
    exact Finset.subset_insert id _
  refine Finset.card_lt_card ((Finset.ssubset_iff_of_subset smaller).mpr ⟨id, ?_, ?_⟩)
  · simp [inside, fresh]
  · simp

theorem foldl_visited {visit : Collected → RuleId → Collected}
    (grows : ∀ collected id, collected.visited ⊆ (visit collected id).visited)
    (members : List RuleId) (collected : Collected) :
    collected.visited ⊆ (members.foldl visit collected).visited := by
  induction members generalizing collected with
  | nil => exact List.Subset.refl _
  | cons member members ih => exact List.Subset.trans (grows collected member) (ih _)

/-- A walk never forgets a rule. -/
theorem collect_visited (fuel : Nat) (collected : Collected) (id : RuleId) :
    collected.visited ⊆ (book.collect fuel collected id).visited := by
  induction fuel generalizing collected id with
  | zero => exact List.Subset.refl _
  | succ fuel ih =>
      have met := List.subset_cons_self id collected.visited
      unfold collect
      split
      case isTrue => exact List.Subset.refl _
      case isFalse =>
        simp only
        split
        case h_1 => exact met
        case h_2 =>
          split
          case h_1 => exact met
          case h_2 resolved _ =>
            exact List.Subset.trans met
              (ih ⟨id :: collected.visited, collected.found⟩ resolved)
        case h_3 members _ =>
          exact List.Subset.trans met
            (foldl_visited ih members ⟨id :: collected.visited, collected.found⟩)
        case h_4 =>
          split
          case isTrue => exact met
          case isFalse => exact met

/-- What holds of the fuel of one walk holds of several in a row. -/
theorem foldl_collect_fuel {fuel more : Nat}
    (same : ∀ {collected : Collected} (id : RuleId), book.unvisited collected < fuel →
      book.collect more collected id = book.collect fuel collected id)
    (members : List RuleId) {collected : Collected}
    (enough : book.unvisited collected < fuel) :
    members.foldl (book.collect more) collected =
      members.foldl (book.collect fuel) collected := by
  induction members generalizing collected with
  | nil => rfl
  | cons member members ih =>
      have fewer : book.unvisited (book.collect fuel collected member) ≤
          book.unvisited collected :=
        unvisited_le (collect_visited fuel collected member)
      rw [List.foldl_cons, List.foldl_cons, same member enough, ih (by omega)]

/-- More fuel than there are rules left to meet changes nothing. -/
theorem collect_fuel {fuel more : Nat} (leMore : fuel ≤ more) {collected : Collected}
    (id : RuleId) (enough : book.unvisited collected < fuel) :
    book.collect more collected id = book.collect fuel collected id := by
  induction fuel generalizing more collected id with
  | zero => exact absurd enough (Nat.not_lt_zero _)
  | succ fuel ih =>
      obtain ⟨more, rfl⟩ : ∃ less, more = less + 1 := ⟨more - 1, by omega⟩
      have leLess : fuel ≤ more := Nat.le_of_succ_le_succ leMore
      unfold collect
      split
      case isTrue => rfl
      case isFalse known =>
        have fresh : id ∉ collected.visited := by simpa using known
        simp only
        split
        case h_1 => rfl
        case h_2 target ruleEq =>
          have fewer := unvisited_visit ruleEq fresh
          split
          case h_1 => rfl
          case h_2 resolved _ => exact ih leLess resolved (by omega)
        case h_3 members ruleEq =>
          have fewer := unvisited_visit ruleEq fresh
          exact foldl_collect_fuel (ih leLess) members (by omega)
        case h_4 => rfl

/-- The candidates of a rule can be collected with any fuel that exceeds the number of
rules. -/
theorem candidates_eq {id : RuleId} {rule : Rule} {fuel : Nat}
    (ruleEq : book.rule? id = some rule) (enough : book.rules.size < fuel) :
    book.candidates id = (rule.members.foldl (book.collect fuel) ⟨[], []⟩).found := by
  have atMost : book.unvisited ⟨[], []⟩ ≤ book.rules.size := by
    simp [unvisited]
  unfold candidates
  rw [ruleEq]
  simp only
  rw [foldl_collect_fuel (collect_fuel enough) rule.members (by omega)]

end Rulebook

end Scopelight
