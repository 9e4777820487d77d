import Scopelight.Grammar.Rulebook

/-!
# Candidate rules

The walk that collects the rules that may start inside a rule stops only at rules that can
start.  So every candidate has a pattern, and the patterns of the candidates stand in the
order of the candidates.
-/

namespace Scopelight

namespace Rulebook

variable {book : Rulebook}

/-- A rule that can start. -/
def CanStart (book : Rulebook) (id : RuleId) : Prop :=
  ∃ rule text, book.rule? id = some rule ∧ rule.startPattern? = some text

/-- All rules found so far can start. -/
def Collected.AllStart (book : Rulebook) (collected : Collected) : Prop :=
  ∀ id ∈ collected.found, book.CanStart id

theorem Collected.AllStart.foldl {visit : Collected → RuleId → Collected}
    (keeps : ∀ {collected} id, AllStart book collected → AllStart book (visit collected id))
    (members : List RuleId) {collected : Collected} (allStart : collected.AllStart book) :
    (members.foldl visit collected).AllStart book := by
  induction members generalizing collected with
  | nil => exact allStart
  | cons member members ih => exact ih (keeps member allStart)

theorem collect_allStart (fuel : Nat) {collected : Collected} (id : RuleId)
    (allStart : collected.AllStart book) : (book.collect fuel collected id).AllStart book := by
  induction fuel generalizing collected id with
  | zero => exact allStart
  | succ fuel ih =>
      unfold collect
      split
      case isTrue => exact allStart
      case isFalse =>
        simp only
        split
        case h_1 => exact allStart
        case h_2 =>
          split
          case h_1 => exact allStart
          case h_2 resolved _ => exact ih resolved allStart
        case h_3 members _ =>
          exact Collected.AllStart.foldl (fun member => ih member) members allStart
        case h_4 rule _ _ ruleEq =>
          split
          case isFalse => exact allStart
          case isTrue starts =>
            obtain ⟨text, textEq⟩ := Option.isSome_iff_exists.mp starts
            intro found member
            rcases List.mem_append.mp member with old | new
            · exact allStart found old
            · rw [List.mem_singleton.mp new]
              exact ⟨rule, text, ruleEq, textEq⟩

theorem canStart_of_mem_candidates {context id : RuleId}
    (member : id ∈ book.candidates context) : book.CanStart id := by
  unfold candidates at member
  split at member
  · exact absurd member List.not_mem_nil
  · next rule _ =>
      have noneFound : (⟨[], []⟩ : Collected).AllStart book := by simp [Collected.AllStart]
      exact noneFound.foldl (fun id => collect_allStart _ id) rule.members id member

/-- Of rules that can start each has one pattern. -/
theorem map_some_startPatterns {ids : List RuleId} (allStart : ∀ id ∈ ids, book.CanStart id) :
    (book.startPatterns ids).map some =
      ids.map fun id => (book.rule? id).bind Rule.startPattern? := by
  induction ids with
  | nil => rfl
  | cons id ids ih =>
      obtain ⟨rule, text, ruleEq, textEq⟩ := allStart id List.mem_cons_self
      have later := ih fun other member => allStart other (List.mem_cons_of_mem _ member)
      have here : (book.rule? id).bind Rule.startPattern? = some text := by
        rw [ruleEq, Option.bind_some, textEq]
      have patternsEq : book.startPatterns (id :: ids) = text :: book.startPatterns ids := by
        simp [startPatterns, here]
      rw [patternsEq, List.map_cons, List.map_cons, later, here]

/-- The patterns of rules that can start stand in the order of the rules. -/
theorem startPatterns_getElem? {ids : List RuleId} (allStart : ∀ id ∈ ids, book.CanStart id)
    (index : Nat) :
    (book.startPatterns ids)[index]? =
      ids[index]?.bind fun id => (book.rule? id).bind Rule.startPattern? := by
  have same := congrArg (·[index]?) (map_some_startPatterns allStart)
  simp only [List.getElem?_map] at same
  cases idsAt : ids[index]? <;> cases textsAt : (book.startPatterns ids)[index]? <;>
    simp_all

end Rulebook

end Scopelight
