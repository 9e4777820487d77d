import Mathlib.Data.List.Nodup
import Scopelight.Proofs.StrictLoading

/-!
# The forest of rules

The walk over a document numbers the rules inside a rule before the rule itself, and hands
each number on once: to the rule around it, to the root or to the repository.  So the rules
of a loaded grammar form a forest, in which the number of a rule is greater than those of
its members, and whose trees are the root and the named rules.
-/

namespace Scopelight

namespace Grammar

variable {engine : Engine}

/-! ### Drafts -/

namespace FollowsWalk

variable {holds : Builder → List RuleId → Builder → Prop} (follows : FollowsWalk engine holds)

include follows

/-- The numbers that a whole document hands on are those of its root and its named rules. -/
theorem draft {document : GrammarDocument} {draft : Draft}
    (drafts : Grammar.draft engine document = .ok draft) :
    holds .empty (draft.book.root :: draft.book.repository.map Prod.snd) draft.builder ∧
      draft.book.rules = draft.builder.rules := by
  unfold Grammar.draft at drafts
  obtain ⟨scopeName, -, drafts⟩ := bind_eq_ok drafts
  split at drafts
  · cases drafts
  next patterns _ =>
    obtain ⟨⟨members, builder⟩, membersBuilt, drafts⟩ := bind_eq_ok drafts
    obtain ⟨⟨repository, last⟩, repositoryBuilt, drafts⟩ := bind_eq_ok drafts
    cases drafts
    -- The root is numbered like a rule that has nothing but members.
    have grouped : RuleDocument.shape engine {} =
        .ok (none, fun members _ => Rule.group members) := rfl
    have rootHolds := follows.around grouped (follows.buildRule.2 _ _ _ _ membersBuilt)
    exact ⟨follows.trans rootHolds (follows.buildRepository repositoryBuilt), rfl⟩

end FollowsWalk

/-- A grammar that loads is the draft of its document, with the problems that the walk has
noted before those of the check of its references. -/
theorem exists_draft {strict : Bool} {document : GrammarDocument} {grammar : Grammar}
    (loaded : ofDocument engine strict document = .ok grammar) :
    ∃ draft, ∃ names : List String, Grammar.draft engine document = .ok draft ∧
      grammar = draft.finish document (draft.builder.diagnostics ++
        names.map .unresolvedReference) := by
  cases drafts : Grammar.draft engine document with
  | error error =>
      rw [ofDocument_eq_draft, drafts] at loaded
      cases loaded
  | ok draft =>
      cases strict with
      | false =>
          rw [ofDocument_lenient drafts] at loaded
          exact ⟨draft, _, rfl, (Except.ok.inj loaded).symm⟩
      | true =>
          rw [ofDocument_strict drafts] at loaded
          split at loaded
          · cases loaded
          · refine ⟨draft, [], rfl, ?_⟩
            rw [List.map_nil, List.append_nil]
            exact (Except.ok.inj loaded).symm

/-! ### Members -/

/-- The members of all rules, in the order of the rules. -/
def membersOf (rules : Array Rule) : List RuleId :=
  rules.toList.flatMap Rule.members

/-- The members of each rule have smaller numbers than the rule. -/
def Descends (rules : Array Rule) : Prop :=
  ∀ (id : Nat) (rule : Rule), rules[id]? = some rule → ∀ member ∈ rule.members, member < id

theorem membersOf_push (rules : Array Rule) (rule : Rule) :
    membersOf (rules.push rule) = membersOf rules ++ rule.members := by
  simp [membersOf]

theorem Descends.push {rules : Array Rule} (descends : Descends rules) {rule : Rule}
    (membersLt : ∀ member ∈ rule.members, member < rules.size) :
    Descends (rules.push rule) := by
  intro id other otherEq member inside
  rw [Array.getElem?_push] at otherEq
  split at otherEq
  · next last =>
      obtain rfl := Option.some.inj otherEq
      exact last ▸ membersLt member inside
  · exact descends id other otherEq member inside

/-- Rules are added to those that there are.  Each of their numbers is a member of one of
the new rules, or is handed on, and is so once only. -/
structure Plants (before : Builder) (roots : List RuleId) (after : Builder) : Prop where
  sizeLe : before.rules.size ≤ after.rules.size
  descends : Descends before.rules → Descends after.rules
  planted : ∃ inside, membersOf after.rules = membersOf before.rules ++ inside ∧
    (inside ++ roots).Nodup ∧
    ∀ id ∈ inside ++ roots, before.rules.size ≤ id ∧ id < after.rules.size

namespace Plants

variable {before middle after : Builder} {ids later : List RuleId}

theorem refl (builder : Builder) : Plants builder [] builder :=
  ⟨Nat.le_refl _, id, [], by simp, by simp, by simp⟩

theorem trans (first : Plants before ids middle) (second : Plants middle later after) :
    Plants before (ids ++ later) after where
  sizeLe := Nat.le_trans first.sizeLe second.sizeLe
  descends := second.descends ∘ first.descends
  planted := by
    obtain ⟨inside, insideEq, nodup, bounds⟩ := first.planted
    obtain ⟨more, moreEq, moreNodup, moreBounds⟩ := second.planted
    have regrouped : (inside ++ more ++ (ids ++ later)).Perm
        ((inside ++ ids) ++ (more ++ later)) := by
      simp only [List.append_assoc]
      exact (List.perm_append_comm_assoc more ids later).append_left inside
    -- The second part numbers its rules where the first one has stopped.
    have disjoint : List.Disjoint (inside ++ ids) (more ++ later) := by
      intro id here there
      exact Nat.not_lt.mpr (moreBounds id there).1 (bounds id here).2
    refine ⟨inside ++ more, by rw [moreEq, insideEq, List.append_assoc], ?_, ?_⟩
    · exact regrouped.nodup_iff.mpr (nodup.append moreNodup disjoint)
    · intro id member
      rcases List.mem_append.mp (regrouped.mem_iff.mp member) with here | there
      · exact ⟨(bounds id here).1, Nat.lt_of_lt_of_le (bounds id here).2 second.sizeLe⟩
      · exact ⟨Nat.le_trans first.sizeLe (moreBounds id there).1, (moreBounds id there).2⟩

/-- A rule that takes up some of the numbers that were handed on, in their order. -/
theorem push (plants : Plants before ids middle) {rule : Rule}
    (taken : rule.members.Sublist ids) (rulesEq : after.rules = middle.rules.push rule) :
    Plants before [middle.rules.size] after := by
  have sizeLt : middle.rules.size < after.rules.size := by
    rw [rulesEq, Array.size_push]
    exact Nat.lt_succ_self _
  obtain ⟨inside, insideEq, nodup, bounds⟩ := plants.planted
  have kept : (inside ++ rule.members).Sublist (inside ++ ids) :=
    (List.Sublist.refl inside).append taken
  have membersLt : ∀ member ∈ rule.members, member < middle.rules.size := by
    intro member held
    exact (bounds member (kept.subset (List.mem_append_right _ held))).2
  refine ⟨Nat.le_trans plants.sizeLe (Nat.le_of_lt sizeLt), fun descends => ?_,
    inside ++ rule.members, ?_, ?_, ?_⟩
  · rw [rulesEq]
    exact (plants.descends descends).push membersLt
  · rw [rulesEq, membersOf_push, insideEq, List.append_assoc]
  · refine (kept.nodup nodup).append (List.nodup_singleton _) ?_
    rw [List.disjoint_singleton]
    exact fun again => Nat.lt_irrefl _ (bounds _ (kept.subset again)).2
  · rw [List.forall_mem_append]
    constructor
    · intro id member
      have inner := bounds id (kept.subset member)
      exact ⟨inner.1, Nat.lt_trans inner.2 sizeLt⟩
    · intro id member
      rw [List.mem_singleton.mp member]
      exact ⟨plants.sizeLe, sizeLt⟩

end Plants

/-- The members of a rule in the shape of a document are the numbers that it is given, or
there are none. -/
theorem members_of_shape {document : RuleDocument} {error? : Option CompileError}
    {make : List RuleId → Bool → Rule} (shaped : document.shape engine = .ok (error?, make))
    (ids : List RuleId) (inert : Bool) : (make ids inert).members.Sublist ids := by
  rcases RuleDocument.shape_cases shaped with ⟨rule, rfl⟩ | ⟨rule, rfl⟩ | ⟨-, rfl⟩
  · exact List.nil_sublist ids
  · exact List.Sublist.refl ids
  · exact List.Sublist.refl ids

theorem followsWalk_plants (engine : Engine) : FollowsWalk engine Plants where
  refl := .refl
  trans := .trans
  reference builder target := by
    have taken : (Rule.reference target).members.Sublist [] := List.nil_sublist []
    exact (Plants.refl builder).push taken rfl
  around := by
    intro document error? make shaped before inner ids plants
    obtain ⟨diagnostics, pushedEq⟩ := inner.pushChecked_eq error? (make ids)
    refine plants.push (members_of_shape shaped ids error?.isSome) ?_
    rw [pushedEq]

/-- The rules of a grammar form a forest.  Its trees are the root and the named rules, and
the numbers grow from the members of a rule to the rule. -/
structure IsForest (grammar : Grammar) : Prop where
  rootLt : grammar.root < grammar.rules.size
  namedLt : ∀ entry ∈ grammar.repository, entry.2 < grammar.rules.size
  memberLt : ∀ id rule, grammar.rule? id = some rule → ∀ member ∈ rule.members, member < id
  membersNodup : ∀ id rule, grammar.rule? id = some rule → rule.members.Nodup
  parentUnique : ∀ id rule other otherRule, grammar.rule? id = some rule →
    grammar.rule? other = some otherRule → ∀ member ∈ rule.members,
      member ∈ otherRule.members → id = other
  rootFree : ∀ tree ∈ grammar.root :: grammar.repository.map Prod.snd, ∀ id rule,
    grammar.rule? id = some rule → tree ∉ rule.members

/-- Rules of which no two have a member in common. -/
theorem eq_of_shared_member {rules : Array Rule} (nodup : (membersOf rules).Nodup) {id other : Nat}
    {rule otherRule : Rule} (ruleEq : rules[id]? = some rule)
    (otherEq : rules[other]? = some otherRule) {member : RuleId} (held : member ∈ rule.members)
    (shared : member ∈ otherRule.members) : id = other := by
  obtain ⟨idLt, rfl⟩ := Array.getElem?_eq_some_iff.mp ruleEq
  obtain ⟨otherLt, rfl⟩ := Array.getElem?_eq_some_iff.mp otherEq
  have apart := List.pairwise_iff_getElem.mp (List.nodup_flatMap.mp nodup).2
  rcases Nat.lt_trichotomy id other with lt | same | gt
  · exact absurd shared (apart id other idLt otherLt lt held)
  · exact same
  · exact absurd held (apart other id otherLt idLt gt shared)

theorem isForest_of_ofDocument {strict : Bool} {document : GrammarDocument} {grammar : Grammar}
    (loaded : ofDocument engine strict document = .ok grammar) : grammar.IsForest := by
  obtain ⟨draft, names, drafts, rfl⟩ := exists_draft loaded
  obtain ⟨plants, rulesEq⟩ := (followsWalk_plants engine).draft drafts
  obtain ⟨inside, insideEq, nodup, bounds⟩ := plants.planted
  have emptyDescends : Descends Builder.empty.rules := by
    intro id rule absent
    cases absent
  have descends := plants.descends emptyDescends
  have membersEq : membersOf draft.book.rules = inside := by
    rw [rulesEq, insideEq]
    rfl
  have treeLt : ∀ tree ∈ draft.book.root :: draft.book.repository.map Prod.snd,
      tree < draft.book.rules.size := by
    intro tree member
    rw [rulesEq]
    exact (bounds tree (List.mem_append_right _ member)).2
  obtain ⟨insideNodup, -, apart⟩ := List.nodup_append.mp nodup
  rw [← membersEq] at insideNodup apart
  have heldIn : ∀ id rule, draft.book.rule? id = some rule → ∀ member ∈ rule.members,
      member ∈ membersOf draft.book.rules := by
    intro id rule ruleEq member held
    exact List.mem_flatMap.mpr ⟨rule, (Array.mem_of_getElem? ruleEq).val, held⟩
  refine ⟨treeLt _ List.mem_cons_self, fun entry member => ?_, fun id rule ruleEq => ?_,
    fun id rule ruleEq => ?_, fun id rule other otherRule ruleEq otherEq member => ?_, ?_⟩
  · exact treeLt _ (List.mem_cons_of_mem _ (List.mem_map_of_mem member))
  · exact descends id rule (rulesEq ▸ ruleEq)
  · exact (List.nodup_flatMap.mp insideNodup).1 rule (Array.mem_of_getElem? ruleEq).val
  · exact eq_of_shared_member insideNodup ruleEq otherEq
  · intro tree member id rule ruleEq held
    exact apart tree (heldIn id rule ruleEq tree held) tree member rfl

end Grammar

end Scopelight
