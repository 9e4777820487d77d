import Scopelight.Proofs.CollectFuel

/-!
# Gaps in the numbering of rules

Two rulebooks may differ by an element of the document that one of them was built without.
The rules of the element are then a gap in the numbers of the other, and the rule of the
element itself, the last one in the gap, is a member of one more rule there.  If this rule
can never start, it adds nothing to any collection: the candidates of each context are the
same rules in the same order, under their other numbers, and so are all scanners.
-/

namespace Scopelight

namespace Rule

/-- Whether a rule has a pattern that failed to compile. -/
def inert : Rule → Bool
  | .single rule => rule.inert
  | .span rule => rule.inert
  | .reference _ => false
  | .group _ => false

end Rule

/-- A gap in the numbers of rules: those of an element and of the rules inside it, which
stand before it. -/
structure Gap where
  /-- The number of rules before the gap. -/
  first : Nat
  /-- The number of rules inside the element. -/
  width : Nat

namespace Gap

variable (gap : Gap)

/-- The rule of the element. -/
def idle : Nat :=
  gap.first + gap.width

/-- The number that a rule has if those in the gap are counted. -/
def skip (id : Nat) : Nat :=
  if id < gap.first then id else id + gap.width + 1

/-- Members of a rule, with and without the rule of the element. -/
def TrimsMembers (fuller leaner : List RuleId) : Prop :=
  (fuller.filter fun id => id ≠ gap.idle) = leaner.map gap.skip

/-- A rule, as it is numbered in both rulebooks, is the same but for its members. -/
inductive TrimsRule : Option Rule → Option Rule → Prop
  | absent : TrimsRule none none
  | single (rule : SingleRule) : TrimsRule (some (.single rule)) (some (.single rule))
  | span (rule : SpanRule) {members : List RuleId}
      (trims : gap.TrimsMembers members rule.members) :
      TrimsRule (some (.span { rule with members })) (some (.span rule))
  | reference (target : ReferenceTarget) :
      TrimsRule (some (.reference target)) (some (.reference target))
  | group {members others : List RuleId} (trims : gap.TrimsMembers members others) :
      TrimsRule (some (.group members)) (some (.group others))

/-- A rulebook has the rules of another and those of a gap, of which the last is inert. -/
structure TrimsBook (fuller leaner : Rulebook) : Prop where
  engineEq : fuller.engine = leaner.engine
  rootEq : fuller.root = gap.skip leaner.root
  repositoryEq : fuller.repository =
    leaner.repository.map fun entry => (entry.1, gap.skip entry.2)
  rules : ∀ id, gap.TrimsRule (fuller.rule? (gap.skip id)) (leaner.rule? id)
  idleInert : ∃ rule, fuller.rule? gap.idle = some rule ∧ rule.inert = true

/-- The same rules have been met and found, but for those in the gap. -/
structure TrimsCollected (fuller leaner : Rulebook.Collected) : Prop where
  visited : ∀ id, gap.skip id ∈ fuller.visited ↔ id ∈ leaner.visited
  found : fuller.found = leaner.found.map gap.skip

variable {gap} {fuller leaner : Rulebook}

theorem skip_of_lt {id : Nat} (before : id < gap.first) : gap.skip id = id :=
  if_pos before

theorem skip_of_le {id : Nat} (behind : gap.first ≤ id) :
    gap.skip id = id + gap.width + 1 :=
  if_neg (Nat.not_lt.mpr behind)

theorem skip_inj {id other : Nat} : gap.skip id = gap.skip other ↔ id = other := by
  unfold skip
  constructor
  · intro same
    split at same <;> split at same <;> omega
  · intro same
    rw [same]

theorem skip_ne_idle (id : Nat) : gap.skip id ≠ gap.idle := by
  unfold skip idle
  split <;> omega

namespace TrimsMembers

variable {members others : List RuleId}

theorem map_skip (gap : Gap) (ids : List RuleId) : gap.TrimsMembers (ids.map gap.skip) ids := by
  refine List.filter_eq_self.mpr fun id member => ?_
  obtain ⟨other, -, rfl⟩ := List.mem_map.mp member
  simpa using skip_ne_idle other

theorem idle_cons (trims : gap.TrimsMembers members others) :
    gap.TrimsMembers (gap.idle :: members) others := by
  simpa [TrimsMembers] using trims

theorem skip_cons (id : RuleId) (trims : gap.TrimsMembers members others) :
    gap.TrimsMembers (gap.skip id :: members) (id :: others) := by
  rw [TrimsMembers, List.filter_cons_of_pos (by simpa using skip_ne_idle id), List.map_cons]
  exact congrArg _ trims

/-- Rules before the gap keep their numbers. -/
theorem of_lt {ids : List RuleId} (before : ∀ id ∈ ids, id < gap.first) :
    gap.TrimsMembers ids ids := by
  have kept : ids.map gap.skip = ids :=
    (List.map_congr_left fun id member => skip_of_lt (before id member)).trans (List.map_id ids)
  have trims := map_skip gap ids
  rwa [kept] at trims

/-- The first member is the rule of the element, or it is a member in both rulebooks. -/
theorem cons_cases {first : RuleId} (trims : gap.TrimsMembers (first :: members) others) :
    (first = gap.idle ∧ gap.TrimsMembers members others) ∨
      ∃ id rest, first = gap.skip id ∧ others = id :: rest ∧ gap.TrimsMembers members rest := by
  by_cases isIdle : first = gap.idle
  · refine .inl ⟨isIdle, ?_⟩
    rwa [TrimsMembers, List.filter_cons_of_neg (by simpa using isIdle)] at trims
  · rw [TrimsMembers, List.filter_cons_of_pos (by simpa using isIdle)] at trims
    cases others with
    | nil => cases trims
    | cons id rest =>
        obtain ⟨firstEq, restEq⟩ := List.cons.inj trims
        exact .inr ⟨id, rest, firstEq, rfl, restEq⟩

/-- The walks through the members of a rule, step by step. -/
theorem foldl {visit visit' : Rulebook.Collected → RuleId → Rulebook.Collected}
    (onIdle : ∀ {full lean}, gap.TrimsCollected full lean →
      gap.TrimsCollected (visit full gap.idle) lean)
    (onSkip : ∀ {full lean} id, gap.TrimsCollected full lean →
      gap.TrimsCollected (visit full (gap.skip id)) (visit' lean id))
    (trims : gap.TrimsMembers members others)
    {full lean : Rulebook.Collected} (collected : gap.TrimsCollected full lean) :
    gap.TrimsCollected (members.foldl visit full) (others.foldl visit' lean) := by
  induction members generalizing others full lean with
  | nil =>
      obtain rfl : others = [] := List.map_eq_nil_iff.mp trims.symm
      exact collected
  | cons first members ih =>
      rcases trims.cons_cases with ⟨rfl, restTrims⟩ | ⟨id, rest, rfl, rfl, restTrims⟩
      · exact ih restTrims (onIdle collected)
      · exact ih restTrims (onSkip id collected)

end TrimsMembers

namespace TrimsRule

variable {rule? other? : Option Rule}

theorem isSome_eq (trims : gap.TrimsRule rule? other?) : rule?.isSome = other?.isSome := by
  cases trims <;> rfl

theorem exists_rule {other : Rule} (trims : gap.TrimsRule rule? (some other)) :
    ∃ rule, rule? = some rule ∧ gap.TrimsMembers rule.members other.members := by
  cases trims with
  | single rule => exact ⟨_, rfl, rfl⟩
  | span rule trims => exact ⟨_, rfl, trims⟩
  | reference target => exact ⟨_, rfl, rfl⟩
  | group trims => exact ⟨_, rfl, trims⟩

theorem startPattern_eq (trims : gap.TrimsRule rule? other?) :
    rule?.bind Rule.startPattern? = other?.bind Rule.startPattern? := by
  cases trims <;> rfl

/-- A rule whose members all stand before the gap. -/
theorem of_members_lt {rule : Rule} (before : ∀ id ∈ rule.members, id < gap.first) :
    gap.TrimsRule (some rule) (some rule) := by
  cases rule with
  | single rule => exact .single rule
  | span rule => exact .span rule (.of_lt before)
  | reference target => exact .reference target
  | group members => exact .group (.of_lt before)

end TrimsRule

/-- A rule that can start is found in both walks or in neither. -/
theorem TrimsCollected.find {full lean : Rulebook.Collected}
    (collected : gap.TrimsCollected full lean) (id : RuleId) (starts : Bool) :
    gap.TrimsCollected
      (if starts then { full with found := full.found ++ [gap.skip id] } else full)
      (if starts then { lean with found := lean.found ++ [id] } else lean) := by
  cases starts with
  | false => exact collected
  | true => exact ⟨collected.visited, by simp [collected.found]⟩

namespace TrimsBook

variable (trims : gap.TrimsBook fuller leaner)
include trims

theorem named_eq (name : String) :
    fuller.named? name = (leaner.named? name).map gap.skip := by
  unfold Rulebook.named?
  rw [trims.repositoryEq, List.find?_map, Option.map_map, Option.map_map]
  rfl

theorem resolve_eq (target : ReferenceTarget) :
    fuller.resolve? target = (leaner.resolve? target).map gap.skip := by
  cases target with
  | named name => exact trims.named_eq name
  | self => exact congrArg some trims.rootEq
  | base => exact congrArg some trims.rootEq
  | foreign scope => rfl

theorem collect_idle (fuel : Nat) {full lean : Rulebook.Collected}
    (collected : gap.TrimsCollected full lean) :
    gap.TrimsCollected (fuller.collect fuel full gap.idle) lean := by
  obtain ⟨rule, ruleEq, inert⟩ := trims.idleInert
  have visits : gap.TrimsCollected { full with visited := gap.idle :: full.visited } lean := by
    refine ⟨fun id => ?_, collected.found⟩
    rw [List.mem_cons, collected.visited]
    exact ⟨fun met => met.resolve_left (skip_ne_idle id), .inr⟩
  cases fuel with
  | zero => exact collected
  | succ fuel =>
      unfold Rulebook.collect
      split
      case isTrue => exact collected
      case isFalse =>
        simp only [ruleEq]
        cases rule with
        | single rule =>
            have inert : rule.inert = true := inert
            simpa [Rule.startPattern?, inert] using visits
        | span rule =>
            have inert : rule.inert = true := inert
            simpa [Rule.startPattern?, inert] using visits
        | reference target => cases inert
        | group members => cases inert

theorem collect (fuel : Nat) {full lean : Rulebook.Collected} (id : RuleId)
    (collected : gap.TrimsCollected full lean) :
    gap.TrimsCollected (fuller.collect fuel full (gap.skip id))
      (leaner.collect fuel lean id) := by
  induction fuel generalizing full lean id with
  | zero => exact collected
  | succ fuel ih =>
      have visits : gap.TrimsCollected { full with visited := gap.skip id :: full.visited }
          { lean with visited := id :: lean.visited } := by
        refine ⟨fun other => ?_, collected.found⟩
        rw [List.mem_cons, List.mem_cons, collected.visited, skip_inj]
      have metIff : full.visited.contains (gap.skip id) = lean.visited.contains id := by
        rw [Bool.eq_iff_iff, List.contains_iff_mem, List.contains_iff_mem, collected.visited]
      unfold Rulebook.collect
      rw [metIff]
      split
      case isTrue => exact collected
      case isFalse =>
        have ruleTrims := trims.rules id
        generalize fuller.rule? (gap.skip id) = rule? at ruleTrims
        generalize leaner.rule? id = other? at ruleTrims
        cases ruleTrims with
        | absent => exact visits
        | single rule => exact visits.find id (Rule.single rule).startPattern?.isSome
        | span rule => exact visits.find id (Rule.span rule).startPattern?.isSome
        | reference target =>
            simp only [trims.resolve_eq target]
            cases leaner.resolve? target with
            | none => exact visits
            | some resolved => exact ih resolved visits
        | group membersTrim =>
            exact membersTrim.foldl (trims.collect_idle fuel) ih visits

/-- The candidates of a context are the same rules in the same order. -/
theorem candidates_eq (id : RuleId) :
    fuller.candidates (gap.skip id) = (leaner.candidates id).map gap.skip := by
  have ruleTrims := trims.rules id
  cases otherEq : leaner.rule? id with
  | none =>
      rw [otherEq] at ruleTrims
      cases ruleEq : fuller.rule? (gap.skip id) with
      | none => simp [Rulebook.candidates, ruleEq, otherEq]
      | some rule =>
          rw [ruleEq] at ruleTrims
          cases ruleTrims
  | some other =>
      rw [otherEq] at ruleTrims
      obtain ⟨rule, ruleEq, membersTrim⟩ := ruleTrims.exists_rule
      -- One amount of fuel covers both walks.
      let fuel := fuller.rules.size + leaner.rules.size + 1
      have noneMet : gap.TrimsCollected ⟨[], []⟩ ⟨[], []⟩ := ⟨by simp, rfl⟩
      rw [Rulebook.candidates_eq ruleEq (show _ < fuel by omega),
        Rulebook.candidates_eq otherEq (show _ < fuel by omega)]
      exact (membersTrim.foldl (trims.collect_idle fuel) (trims.collect fuel) noneMet).found

theorem startPatterns_eq (ids : List RuleId) :
    fuller.startPatterns (ids.map gap.skip) = leaner.startPatterns ids := by
  unfold Rulebook.startPatterns
  rw [List.filterMap_map]
  exact congrArg (ids.filterMap ·) (funext fun id => (trims.rules id).startPattern_eq)

theorem candidateScanner_eq (id : RuleId) :
    fuller.candidateScanner? (gap.skip id) = leaner.candidateScanner? id := by
  unfold Rulebook.candidateScanner?
  rw [trims.candidates_eq, trims.startPatterns_eq, trims.engineEq]

theorem closingScanner_eq (id : RuleId) :
    fuller.closingScanner? (gap.skip id) = leaner.closingScanner? id := by
  have ruleTrims := trims.rules id
  unfold Rulebook.closingScanner?
  rw [trims.engineEq]
  generalize fuller.rule? (gap.skip id) = rule? at ruleTrims
  generalize leaner.rule? id = other? at ruleTrims
  cases ruleTrims <;> rfl

/-- A context has the same scanners and, under their other numbers, the same candidates. -/
theorem context_eq (id : RuleId) :
    fuller.context (gap.skip id) =
      { leaner.context id with candidates := (leaner.context id).candidates.map gap.skip } := by
  simp only [Rulebook.context, trims.candidates_eq, trims.candidateScanner_eq,
    trims.closingScanner_eq]

theorem inside_iff (id : RuleId) :
    gap.skip id < fuller.rules.size ↔ id < leaner.rules.size := by
  have same := Bool.eq_iff_iff.mp (trims.rules id).isSome_eq
  simpa only [Rulebook.rule?, isSome_getElem?] using same

end TrimsBook

end Gap

end Scopelight
