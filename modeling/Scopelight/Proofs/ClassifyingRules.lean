import Scopelight.Proofs.MatchPriority
import Scopelight.Proofs.SpacedGroups

/-!
# Rules that classify their text

A table of rules classifies the text of a grammar if every match takes something and has
scopes that say what it is, and if inside scopes that only say where a text stands some rule
matches every character but white space.  This is a matter of the plans of the patterns, so
it can be checked rule by rule.
-/

namespace Scopelight

open Pattern

namespace Pattern

/-- The code points that are not white space. -/
def CharSet.notSpaces : CharSet :=
  CharSet.unicodeSpaces.complement 0x10FFFF

theorem inRanges_nil (code : Nat) : Unicode.inRanges code [] = false :=
  rfl

theorem inRanges_cons (code first last : Nat) (rest : List (Nat × Nat)) :
    Unicode.inRanges code ((first, last) :: rest) = true ↔
      first ≤ code ∧ (code ≤ last ∨ Unicode.inRanges code rest = true) := by
  simp only [Unicode.inRanges]
  grind

theorem CharSet.contains_notSpaces {c : Char} (notWhite : Unicode.isWhite c = false) :
    CharSet.notSpaces.contains c.toNat = true := by
  have codeLe : c.toNat ≤ 0x10FFFF := by
    rcases c.valid with small | ⟨-, le⟩
    · exact (Nat.lt_trans small (by decide)).le
    · exact Nat.le_of_lt_succ le
  have setEq : CharSet.notSpaces =
      ⟨[(0x00, 0x08), (0x0E, 0x1F), (0x21, 0x84), (0x86, 0x9F), (0xA1, 0x167F),
        (0x1681, 0x1FFF), (0x200B, 0x2027), (0x202A, 0x202E), (0x2030, 0x205E),
        (0x2060, 0x2FFF), (0x3001, 0x10FFFF)]⟩ := by decide
  have notWhite : ¬ Unicode.inRanges c.toNat Unicode.whiteRanges = true :=
    Bool.eq_false_iff.mp notWhite
  rw [setEq, CharSet.contains]
  simp only [Unicode.whiteRanges, inRanges_cons, inRanges_nil, Bool.false_eq_true,
    or_false] at notWhite ⊢
  omega

/-- A match of a plan that starts at or behind an offset of a line. -/
def Plan.Finds (plan : Plan) (line : List Char) (position : Nat) (found : Match) : Prop :=
  ∃ origin ∈ positions line, position ≤ origin.offset ∧
    ∃ spot, plan.Takes ⟨origin, []⟩ spot ∧ found.start = origin.offset ∧
      found.stop = spot.cursor.offset ∧
      found.captures = Acceptance.captures ⟨origin.offset, spot.cursor.offset, spot.saves⟩
        plan.captureCount

theorem Compiled.Admits.finds {plan : Plan} {anchored : Bool} {line : List Char} {start : Nat}
    {anchor : Option Nat} {accepted : Acceptance}
    (admits : (ofPlan plan anchored).Admits line start anchor accepted) (index : Nat) :
    plan.Finds line start ((ofPlan plan anchored).report index accepted) := by
  obtain ⟨origin, member, reached, spot, takes, rfl⟩ := admits.takes
  exact ⟨origin, member, reached, spot, takes, rfl, rfl, rfl⟩

namespace Plan

/-- Whether every match takes something and tells what it is: by the names that it is given,
by its group zero or by groups with only white space between them. -/
def classifies (structural : Scope → Bool) (names : List Scope) (captures : Captures)
    (plan : Plan) : Bool :=
  plan.consumes &&
    if captures.isEmpty then decide (¬ Vague structural names)
    else
      match captures.get? 0 with
      | some own => decide (¬ Vague structural own) && decide (plan.captureCount = 0)
      | none =>
          plan.spaced (fun group => (captures.get? group).any (¬ Vague structural ·)) 1

variable {structural : Scope → Bool} {names : List Scope} {captures : Captures} {plan : Plan}
  {line : List Char} {position : Nat} {found : Match}

theorem Finds.start_ge (finds : plan.Finds line position found) : position ≤ found.start := by
  obtain ⟨origin, -, reached, spot, -, startEq, -, -⟩ := finds
  exact startEq ▸ reached

theorem Finds.boundary (finds : plan.Finds line position found) :
    Boundary line found.stop := by
  obtain ⟨origin, member, -, spot, takes, -, stopEq, -⟩ := finds
  obtain ⟨text, passes⟩ := takes.passes
  exact stopEq ▸ (passes.stays (in_of_mem_positions member)).boundary

theorem Finds.proper (finds : plan.Finds line position found) (consumes : plan.consumes = true) :
    found.start < found.stop := by
  obtain ⟨origin, -, -, spot, takes, startEq, stopEq, -⟩ := finds
  rw [startEq, stopEq]
  exact takes.advances consumes

theorem Finds.lays (finds : plan.Finds line position found)
    (classifies : plan.classifies structural names captures = true) (around : List Scope) :
    Pieces.Lays structural line (around ++ names) captures found := by
  obtain ⟨consumes, checked⟩ := (Bool.and_eq_true _ _).mp classifies
  have proper := finds.proper consumes
  obtain ⟨origin, member, -, spot, takes, startEq, stopEq, capturesEq⟩ := finds
  have wholeEq : found.captures.head? = some (some (found.start, found.stop)) := by
    rw [capturesEq, startEq, stopEq]
    rfl
  split at checked
  · next noCaptures =>
      exact .whole noCaptures (not_vague_append (of_decide_eq_true checked) around)
  · next someCaptures =>
      refine .row (Bool.eq_false_iff.mpr someCaptures) wholeEq ?_
      split at checked
      · next own named =>
          obtain ⟨telling, noGroups⟩ := (Bool.and_eq_true _ _).mp checked
          have groupsEq : found.captures = [some (found.start, found.stop)] := by
            rw [capturesEq, startEq, stopEq, of_decide_eq_true noGroups]
            rfl
          rw [groupsEq]
          exact .cons named (of_decide_eq_true telling) (Nat.le_refl _) proper
            (.of_le (Nat.le_refl _)) (.nil _ _)
      · next unnamed =>
          obtain ⟨count, countEq, row⟩ := spaced_row checked
            (fun group wanted => by simpa [Option.any_eq_true] using wanted)
            takes (in_of_mem_positions member)
          have groupsEq : found.captures = some (found.start, found.stop) ::
              (List.range' 1 count).map spot.saves.group? := by
            obtain rfl : count = plan.captureCount := by omega
            rw [capturesEq, startEq, stopEq, Acceptance.captures,
              List.range'_eq_map_range, List.map_map]
            simp [Function.comp_def, Nat.add_comm]
          rw [groupsEq, startEq, stopEq]
          exact .skip _ unnamed
            (row spot.saves _ (fun _ _ => rfl) (Nat.le_refl _) (.of_le (Nat.le_refl _)))

end Plan

/-- The plans of some patterns. -/
abbrev PlanTable := List (String × Plan)

namespace PlanTable

def plan? (table : PlanTable) (text : String) : Option Plan :=
  (table.find? fun entry => entry.1 = text).map Prod.snd

/-- Every pattern of the table compiles to the program of its plan. -/
def Right (table : PlanTable) : Prop :=
  ∀ entry ∈ table, compile? entry.1 = some (.ofPlan entry.2 false)

theorem Right.compile? {table : PlanTable} (right : table.Right) {text : String} {plan : Plan}
    (planEq : table.plan? text = some plan) :
    Pattern.compile? text = some (.ofPlan plan false) := by
  obtain ⟨entry, found, rfl⟩ := Option.map_eq_some_iff.mp planEq
  have textEq := List.find?_some found
  rw [← of_decide_eq_true textEq]
  exact right entry (List.mem_of_find?_eq_some found)

end PlanTable

end Pattern

/-- Whether the matches of a pattern classify their text when they are given some names and
captures. -/
def classifiesBy (structural : Scope → Bool) (table : PlanTable) (names : List Scope)
    (captures : Captures) (text : String) : Bool :=
  (table.plan? text).any (Plan.classifies structural names captures)

namespace Rule

/-- Whether the matches of a rule classify their text. -/
def classifies (structural : Scope → Bool) (table : PlanTable) : Rule → Bool
  | .single rule => classifiesBy structural table rule.name rule.captures rule.pattern
  | .span rule =>
      !rule.hasReferences &&
        classifiesBy structural table rule.name rule.openingCaptures rule.opening &&
        classifiesBy structural table rule.name rule.closingCaptures rule.closing
  | .reference _ => true
  | .group _ => true

/-- Whether text inside a rule that nothing matches has scopes that say nothing of it. -/
def leavesVague (structural : Scope → Bool) : Rule → Bool
  | .span rule => decide (Vague structural (rule.name ++ rule.contentName))
  | _ => false

end Rule

namespace Rulebook

/-- Whether some rule that may start in a context matches every character but white
space. -/
def catchesAll (book : Rulebook) (table : PlanTable) (context : RuleId) : Bool :=
  (book.candidates context).any fun id =>
    decide (((book.rule? id).bind Rule.startPattern?).bind table.plan? =
      some (.chars .notSpaces))

/-- Whether the text of a table of rules is classified, as far as its plans say. -/
def classifies (structural : Scope → Bool) (table : PlanTable) (book : Rulebook) : Bool :=
  book.rules.toList.all (Rule.classifies structural table) &&
    book.catchesAll table book.root &&
    (List.range book.rules.size).all fun id =>
      !(book.rule? id).any (Rule.leavesVague structural) || book.catchesAll table id

/-- What the plans of some rules have to say for the text to be classified. -/
structure Classifies (structural : Scope → Bool) (book : Rulebook) : Prop where
  single : ∀ {id rule}, book.rule? id = some (.single rule) →
    ∃ plan, compile? rule.pattern = some (.ofPlan plan false) ∧
      plan.classifies structural rule.name rule.captures = true
  span : ∀ {id rule}, book.rule? id = some (.span rule) →
    rule.hasReferences = false ∧
    (∃ plan, compile? rule.opening = some (.ofPlan plan false) ∧
      plan.classifies structural rule.name rule.openingCaptures = true) ∧
    ∃ plan, compile? rule.closing = some (.ofPlan plan false) ∧
      plan.classifies structural rule.name rule.closingCaptures = true
  catches : ∀ {context}, (context = book.root ∨
      ∃ rule, book.rule? context = some rule ∧ rule.leavesVague structural = true) →
    ∃ id ∈ book.candidates context, ((book.rule? id).bind Rule.startPattern?).bind compile? =
      some (.ofPlan (.chars .notSpaces) false)

variable {structural : Scope → Bool} {table : PlanTable} {book : Rulebook}

theorem exists_plan_of_classifiesBy (right : table.Right) {names : List Scope}
    {captures : Captures} {text : String}
    (checked : classifiesBy structural table names captures text = true) :
    ∃ plan, compile? text = some (.ofPlan plan false) ∧
      plan.classifies structural names captures = true := by
  obtain ⟨plan, planEq, classifies⟩ := (Option.any_eq_true _ _).mp checked
  exact ⟨plan, right.compile? planEq, classifies⟩

theorem exists_candidate_of_catchesAll (right : table.Right) {context : RuleId}
    (checked : book.catchesAll table context = true) :
    ∃ id ∈ book.candidates context, ((book.rule? id).bind Rule.startPattern?).bind compile? =
      some (.ofPlan (.chars .notSpaces) false) := by
  obtain ⟨id, member, found⟩ := List.any_eq_true.mp checked
  obtain ⟨text, textEq, planEq⟩ := Option.bind_eq_some_iff.mp (of_decide_eq_true found)
  exact ⟨id, member, by rw [textEq, Option.bind_some, right.compile? planEq]⟩

/-- The check of the rules is right if the plans are. -/
theorem classifies_sound (right : table.Right)
    (checked : book.classifies structural table = true) : book.Classifies structural := by
  simp only [classifies, Bool.and_eq_true] at checked
  obtain ⟨⟨allClassify, rootCatches⟩, vagueCatch⟩ := checked
  have ofRule : ∀ {id rule}, book.rule? id = some rule →
      rule.classifies structural table = true := fun ruleEq =>
    List.all_eq_true.mp allClassify _ (Array.mem_toList_iff.mpr (Array.mem_of_getElem? ruleEq))
  refine ⟨fun ruleEq => exists_plan_of_classifiesBy right (ofRule ruleEq), ?_, ?_⟩
  · intro id rule ruleEq
    have classifies := ofRule ruleEq
    simp only [Rule.classifies, Bool.and_eq_true, Bool.not_eq_true'] at classifies
    exact ⟨classifies.1.1, exists_plan_of_classifiesBy right classifies.1.2,
      exists_plan_of_classifiesBy right classifies.2⟩
  · rintro context (rfl | ⟨rule, ruleEq, vague⟩)
    · exact exists_candidate_of_catchesAll right rootCatches
    · have inside : context < book.rules.size := (Array.getElem?_eq_some_iff.mp ruleEq).1
      have caught := List.all_eq_true.mp vagueCatch context (List.mem_range.mpr inside)
      rw [ruleEq, Option.any_some, vague] at caught
      exact exists_candidate_of_catchesAll right caught

end Rulebook

end Scopelight
