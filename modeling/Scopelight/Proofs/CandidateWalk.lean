import Mathlib.Logic.Relation
import Scopelight.Proofs.CollectFuel
import Scopelight.Proofs.MatchPriority

/-!
# The walk that collects candidates

The walk from the members of a rule goes through groups and references and leaves out what
it has met before.  It is told here without fuel, as a relation, and comes to an end in
every rulebook.  Whatever cycles there are, it finds the rules that can start and that
groups and references lead to, each once.  Where nothing leads back to itself, groups and
references can be written out in full, and the walk finds the rules in the order of their
first occurrences in this text.
-/

namespace Scopelight

namespace Rulebook

open Relation (ReflTransGen TransGen)

/-- The rules that a walk goes on to: the members of a group, and what a reference resolves
to.  A rule with a pattern is not walked through. -/
def onward (book : Rulebook) (id : RuleId) : List RuleId :=
  match book.rule? id with
  | some (.group members) => members
  | some (.reference target) => (book.resolve? target).toList
  | _ => []

/-- A group leads to its members and a reference to what it resolves to. -/
def Leads (book : Rulebook) (id next : RuleId) : Prop :=
  next ∈ book.onward id

/-- The walk through some rules one after another, as it runs without fuel. -/
inductive Walks (book : Rulebook) : Collected → List RuleId → Collected → Prop
  | nil (collected : Collected) : Walks book collected [] collected
  | met {before after : Collected} {id : RuleId} {rest : List RuleId}
      (known : id ∈ before.visited) (later : Walks book before rest after) :
      Walks book before (id :: rest) after
  | start {before after : Collected} {id : RuleId} {rest : List RuleId}
      (fresh : id ∉ before.visited) (starts : book.CanStart id)
      (later : Walks book ⟨id :: before.visited, before.found ++ [id]⟩ rest after) :
      Walks book before (id :: rest) after
  | through {before between after : Collected} {id : RuleId} {rest : List RuleId}
      (fresh : id ∉ before.visited) (noStart : ¬book.CanStart id)
      (inside : Walks book ⟨id :: before.visited, before.found⟩ (book.onward id) between)
      (later : Walks book between rest after) :
      Walks book before (id :: rest) after

/-- Rules with groups and references written out in full: the rules that can start, as
often as they occur. -/
inductive Expands (book : Rulebook) : List RuleId → List RuleId → Prop
  | nil : Expands book [] []
  | start {id : RuleId} {rest ids : List RuleId} (starts : book.CanStart id)
      (later : Expands book rest ids) : Expands book (id :: rest) (id :: ids)
  | through {id : RuleId} {rest inner ids : List RuleId} (noStart : ¬book.CanStart id)
      (inside : Expands book (book.onward id) inner) (later : Expands book rest ids) :
      Expands book (id :: rest) (inner ++ ids)

/-- No rule that can be reached from some rules leads back to itself. -/
def Acyclic (book : Rulebook) (ids : List RuleId) : Prop :=
  ∀ first ∈ ids, ∀ id, ReflTransGen book.Leads first id → ¬TransGen book.Leads id id

variable {book : Rulebook} {before between after : Collected} {id : RuleId}
  {ids rest : List RuleId}

/-- The rules that can start are the single patterns and spans that are not inert. -/
theorem canStart_iff :
    book.CanStart id ↔
      (∃ rule, book.rule? id = some (.single rule) ∧ rule.inert = false) ∨
        ∃ rule, book.rule? id = some (.span rule) ∧ rule.inert = false := by
  constructor
  · rintro ⟨rule, text, ruleEq, textEq⟩
    cases rule with
    | single rule =>
        refine .inl ⟨rule, ruleEq, ?_⟩
        by_contra inert
        simp [Rule.startPattern?, inert] at textEq
    | span rule =>
        refine .inr ⟨rule, ruleEq, ?_⟩
        by_contra inert
        simp [Rule.startPattern?, inert] at textEq
    | reference target => cases textEq
    | group members => cases textEq
  · rintro (⟨rule, ruleEq, active⟩ | ⟨rule, ruleEq, active⟩)
    · exact ⟨_, rule.pattern, ruleEq, by simp [Rule.startPattern?, active]⟩
    · exact ⟨_, rule.opening, ruleEq, by simp [Rule.startPattern?, active]⟩

theorem onward_of_canStart (starts : book.CanStart id) : book.onward id = [] := by
  rcases canStart_iff.mp starts with ⟨rule, ruleEq, -⟩ | ⟨rule, ruleEq, -⟩
  · rw [onward, ruleEq]
  · rw [onward, ruleEq]

/-- A rank that falls wherever a walk goes rules out cycles. -/
theorem acyclic_of_rank (inside : RuleId → Prop) (rank : RuleId → Nat)
    (startsInside : ∀ id ∈ ids, inside id)
    (falls : ∀ id next, inside id → book.Leads id next → inside next ∧ rank next < rank id) :
    book.Acyclic ids := by
  intro first member id reached back
  have idInside : inside id := by
    clear back
    induction reached with
    | refl => exact startsInside first member
    | tail _ leads ih => exact (falls _ _ ih leads).1
  have below : ∀ next, TransGen book.Leads id next → inside next ∧ rank next < rank id := by
    intro next reached
    induction reached with
    | single leads => exact falls _ _ idInside leads
    | tail _ leads ih =>
        have nextFalls := falls _ _ ih.1 leads
        exact ⟨nextFalls.1, nextFalls.2.trans ih.2⟩
  exact Nat.lt_irrefl _ (below id back).2

/-! ### The end of a walk -/

theorem Walks.cons (first : book.Walks before [id] between)
    (later : book.Walks between rest after) : book.Walks before (id :: rest) after := by
  cases first with
  | met known done =>
      cases done
      exact .met known later
  | start fresh starts done =>
      cases done
      exact .start fresh starts later
  | through fresh noStart inside done =>
      cases done
      exact .through fresh noStart inside later

/-- A walk has one result. -/
theorem Walks.unique {other : Collected} (walks : book.Walks before ids after)
    (again : book.Walks before ids other) : after = other := by
  induction walks generalizing other with
  | nil =>
      cases again
      rfl
  | met known _ ih =>
      cases again with
      | met _ later => exact ih later
      | start fresh => exact absurd known fresh
      | through fresh => exact absurd known fresh
  | start fresh starts _ ih =>
      cases again with
      | met known => exact absurd known fresh
      | start _ _ later => exact ih later
      | through _ noStart => exact absurd starts noStart
  | through fresh noStart _ _ insideIH laterIH =>
      cases again with
      | met known => exact absurd known fresh
      | start _ starts => exact absurd starts noStart
      | through _ _ inside later =>
          obtain rfl := insideIH inside
          exact laterIH later

theorem foldl_collect_walks {fuel : Nat}
    (each : ∀ {collected : Collected} (id : RuleId), book.unvisited collected < fuel →
      book.Walks collected [id] (book.collect fuel collected id))
    (members : List RuleId) {collected : Collected}
    (enough : book.unvisited collected < fuel) :
    book.Walks collected members (members.foldl (book.collect fuel) collected) := by
  induction members generalizing collected with
  | nil => exact .nil collected
  | cons member members ih =>
      have fewer : book.unvisited (book.collect fuel collected member) ≤
          book.unvisited collected :=
        unvisited_le (collect_visited fuel collected member)
      exact (each member enough).cons (ih (by omega))

/-- Fuel that covers the rules that a walk has not met takes the walk to its end. -/
theorem collect_walks {fuel : Nat} {collected : Collected} (id : RuleId)
    (enough : book.unvisited collected < fuel) :
    book.Walks collected [id] (book.collect fuel collected id) := by
  induction fuel generalizing collected id with
  | zero => exact absurd enough (Nat.not_lt_zero _)
  | succ fuel ih =>
      unfold collect
      split
      case isTrue known => exact .met (by simpa using known) (.nil _)
      case isFalse known =>
        have fresh : id ∉ collected.visited := by simpa using known
        have stays (noStart : ¬book.CanStart id) (nowhere : book.onward id = []) :
            book.Walks collected [id] ⟨id :: collected.visited, collected.found⟩ :=
          .through fresh noStart (nowhere ▸ .nil _) (.nil _)
        have goes {after : Collected} (noStart : ¬book.CanStart id)
            (inside : book.Walks ⟨id :: collected.visited, collected.found⟩
              (book.onward id) after) : book.Walks collected [id] after :=
          .through fresh noStart inside (.nil _)
        simp only
        split
        case h_1 ruleEq =>
          exact stays (by simp [CanStart, ruleEq]) (by simp [onward, ruleEq])
        case h_2 target ruleEq =>
          have noStart : ¬book.CanStart id := by simp [CanStart, ruleEq, Rule.startPattern?]
          have fewer := unvisited_visit ruleEq fresh
          split
          case h_1 dangles => exact stays noStart (by simp [onward, ruleEq, dangles])
          case h_2 resolved resolves =>
            have onwardEq : book.onward id = [resolved] := by
              simp [onward, ruleEq, resolves]
            exact goes noStart (onwardEq ▸ ih resolved (by omega))
        case h_3 members ruleEq =>
          have noStart : ¬book.CanStart id := by simp [CanStart, ruleEq, Rule.startPattern?]
          have fewer := unvisited_visit ruleEq fresh
          have onwardEq : book.onward id = members := by simp [onward, ruleEq]
          have inside : book.Walks ⟨id :: collected.visited, collected.found⟩ members _ :=
            foldl_collect_walks ih members (by omega)
          exact goes noStart (onwardEq ▸ inside)
        case h_4 rule noReference noGroup ruleEq =>
          split
          case isTrue starts =>
            obtain ⟨text, textEq⟩ := Option.isSome_iff_exists.mp starts
            exact .start fresh ⟨rule, text, ruleEq, textEq⟩ (.nil _)
          case isFalse noPattern =>
            refine stays ?_ ?_
            · rintro ⟨other, text, otherEq, textEq⟩
              obtain rfl := Option.some.inj (ruleEq.symm.trans otherEq)
              simp [textEq] at noPattern
            · cases rule with
              | single rule => simp [onward, ruleEq]
              | span rule => simp [onward, ruleEq]
              | reference target => exact absurd rfl (noReference target)
              | group members => exact absurd rfl (noGroup members)

/-- Every walk comes to an end. -/
theorem exists_walk (book : Rulebook) (before : Collected) (ids : List RuleId) :
    ∃ after, book.Walks before ids after :=
  ⟨_, foldl_collect_walks (fun id => collect_walks id) ids (Nat.lt_succ_self _)⟩

theorem candidates_walks {context : RuleId} {rule : Rule}
    (ruleEq : book.rule? context = some rule) :
    ∃ visited, book.Walks ⟨[], []⟩ rule.members ⟨visited, book.candidates context⟩ := by
  obtain ⟨⟨visited, found⟩, walks⟩ := book.exists_walk ⟨[], []⟩ rule.members
  have atMost : book.unvisited ⟨[], []⟩ ≤ book.rules.size := by simp [unvisited]
  have collected := foldl_collect_walks (fun id => collect_walks id) rule.members
    (Nat.lt_succ_of_le atMost)
  have foundEq := candidates_eq ruleEq (Nat.lt_succ_self _)
  rw [← walks.unique collected] at foundEq
  exact ⟨visited, foundEq ▸ walks⟩

/-! ### What a walk meets -/

theorem Walks.visited_subset (walks : book.Walks before ids after) :
    before.visited ⊆ after.visited := by
  induction walks with
  | nil => exact List.Subset.refl _
  | met _ _ ih => exact ih
  | start _ _ _ ih => exact List.Subset.trans (List.subset_cons_self _ _) ih
  | through _ _ _ _ insideIH laterIH =>
      exact List.Subset.trans (List.subset_cons_self _ _) (List.Subset.trans insideIH laterIH)

theorem Walks.meets (walks : book.Walks before ids after) :
    ∀ id ∈ ids, id ∈ after.visited := by
  induction walks with
  | nil => simp
  | met known later ih => exact List.forall_mem_cons.mpr ⟨later.visited_subset known, ih⟩
  | start _ _ later ih =>
      exact List.forall_mem_cons.mpr ⟨later.visited_subset List.mem_cons_self, ih⟩
  | through _ _ inside later _ ih =>
      exact List.forall_mem_cons.mpr
        ⟨later.visited_subset (inside.visited_subset List.mem_cons_self), ih⟩

/-- A walk meets no rule but those that what it starts with leads to. -/
theorem Walks.reached (walks : book.Walks before ids after) :
    ∀ id ∈ after.visited, id ∈ before.visited ∨
      ∃ first ∈ ids, ReflTransGen book.Leads first id := by
  induction walks with
  | nil => exact fun id member => .inl member
  | met _ _ ih =>
      intro id member
      rcases ih id member with old | ⟨first, firstMem, reached⟩
      · exact .inl old
      · exact .inr ⟨first, List.mem_cons_of_mem _ firstMem, reached⟩
  | @start _ _ here _ _ _ _ ih =>
      intro id member
      rcases ih id member with old | ⟨first, firstMem, reached⟩
      · rcases List.mem_cons.mp old with rfl | old
        · exact .inr ⟨id, List.mem_cons_self, .refl⟩
        · exact .inl old
      · exact .inr ⟨first, List.mem_cons_of_mem _ firstMem, reached⟩
  | @through _ _ _ here _ _ _ _ _ insideIH laterIH =>
      intro id member
      rcases laterIH id member with old | ⟨first, firstMem, reached⟩
      · rcases insideIH id old with old | ⟨next, leads, reached⟩
        · rcases List.mem_cons.mp old with rfl | old
          · exact .inr ⟨id, List.mem_cons_self, .refl⟩
          · exact .inl old
        · exact .inr ⟨here, List.mem_cons_self, reached.head leads⟩
      · exact .inr ⟨first, List.mem_cons_of_mem _ firstMem, reached⟩

/-- A walk goes on from every rule that it meets. -/
theorem Walks.closed (walks : book.Walks before ids after) :
    ∀ id ∈ after.visited, id ∈ before.visited ∨
      ∀ next, book.Leads id next → next ∈ after.visited := by
  induction walks with
  | nil => exact fun id member => .inl member
  | met _ _ ih => exact ih
  | start _ starts _ ih =>
      intro id member
      rcases ih id member with old | closed
      · rcases List.mem_cons.mp old with rfl | old
        · refine .inr fun next leads => ?_
          rw [Leads, onward_of_canStart starts] at leads
          exact absurd leads List.not_mem_nil
        · exact .inl old
      · exact .inr closed
  | through _ _ inside later insideIH laterIH =>
      intro id member
      rcases laterIH id member with old | closed
      · rcases insideIH id old with old | closed
        · rcases List.mem_cons.mp old with rfl | old
          · exact .inr fun next leads => later.visited_subset (inside.meets next leads)
          · exact .inl old
        · exact .inr fun next leads => later.visited_subset (closed next leads)
      · exact .inr closed

/-- The rules found are those met that can start, each once. -/
structure Collected.Exact (book : Rulebook) (collected : Collected) : Prop where
  distinct : collected.found.Nodup
  memFound : ∀ id, id ∈ collected.found ↔ id ∈ collected.visited ∧ book.CanStart id

theorem Walks.exact (walks : book.Walks before ids after) (start : before.Exact book) :
    after.Exact book := by
  induction walks with
  | nil => exact start
  | met _ _ ih => exact ih start
  | @start before _ here _ fresh starts _ ih =>
      refine ih ⟨?_, fun id => ?_⟩
      · have notFound : here ∉ before.found := fun member =>
          fresh ((start.memFound here).mp member).1
        simpa [List.nodup_append] using
          ⟨start.distinct, fun id member same => notFound (same ▸ member)⟩
      · rw [List.mem_append, List.mem_singleton, List.mem_cons, start.memFound id]
        constructor
        · rintro (⟨old, canStart⟩ | rfl)
          · exact ⟨.inr old, canStart⟩
          · exact ⟨.inl rfl, starts⟩
        · rintro ⟨rfl | old, canStart⟩
          · exact .inr rfl
          · exact .inl ⟨old, canStart⟩
  | @through before _ _ here _ _ noStart _ _ insideIH laterIH =>
      refine laterIH (insideIH ⟨start.distinct, fun id => ?_⟩)
      rw [List.mem_cons, start.memFound id]
      constructor
      · exact fun ⟨old, canStart⟩ => ⟨.inr old, canStart⟩
      · rintro ⟨rfl | old, canStart⟩
        · exact absurd canStart noStart
        · exact ⟨old, canStart⟩

/-- A walk from nothing finds the rules that can start and that it is led to, each once. -/
theorem Walks.found_iff {visited found : List RuleId}
    (walks : book.Walks ⟨[], []⟩ ids ⟨visited, found⟩) :
    found.Nodup ∧ ∀ id, id ∈ found ↔
      book.CanStart id ∧ ∃ first ∈ ids, ReflTransGen book.Leads first id := by
  have exactly : Collected.Exact book ⟨visited, found⟩ := walks.exact ⟨List.nodup_nil, by simp⟩
  have visitedIff : ∀ id, id ∈ visited ↔ ∃ first ∈ ids, ReflTransGen book.Leads first id := by
    intro id
    constructor
    · intro member
      exact (walks.reached id member).resolve_left List.not_mem_nil
    · rintro ⟨first, firstMem, reached⟩
      induction reached with
      | refl => exact walks.meets first firstMem
      | tail _ leads ih => exact (walks.closed _ ih).resolve_left List.not_mem_nil _ leads
  refine ⟨exactly.distinct, fun id => ?_⟩
  rw [exactly.memFound id, visitedIff id, and_comm]

/-! ### The order of a walk -/

theorem Expands.cons {own : List RuleId} (first : book.Expands [id] own)
    (later : book.Expands rest ids) : book.Expands (id :: rest) (own ++ ids) := by
  cases first with
  | start starts done =>
      cases done
      exact .start starts later
  | through noStart inside done =>
      cases done
      simpa using Expands.through noStart inside later

/-- A walk that stands below some rules has found the first occurrences of a text, in which
every rule that it has met and left again is written out. -/
structure Collected.Lists (book : Rulebook) (stack written : List RuleId)
    (collected : Collected) : Prop where
  foundEq : collected.found = written.eraseDups
  visited : written ⊆ collected.visited
  left : ∀ id ∈ collected.visited, id ∉ stack →
    ∃ own, book.Expands [id] own ∧ own ⊆ written

/-- What is written already has no first occurrences. -/
theorem eraseDups_append_of_subset {written again : List RuleId} (subset : again ⊆ written) :
    (written ++ again).eraseDups = written.eraseDups := by
  have noneNew : again.removeAll written = [] := by
    simpa [List.removeAll, List.filter_eq_nil_iff] using fun id member => subset member
  rw [List.eraseDups_append, noneNew]
  simp

theorem eraseDups_concat {written : List RuleId} (fresh : id ∉ written) :
    (written ++ [id]).eraseDups = written.eraseDups ++ [id] := by
  have allNew : [id].removeAll written = [id] := by simp [List.removeAll, fresh]
  rw [List.eraseDups_append, allNew]
  rfl

namespace Collected.Lists

variable {stack written own : List RuleId}

/-- What is written a second time adds nothing. -/
theorem again (listed : before.Lists book stack written) (subset : own ⊆ written) :
    before.Lists book stack (written ++ own) where
  foundEq := by rw [eraseDups_append_of_subset subset, listed.foundEq]
  visited := List.append_subset.mpr
    ⟨listed.visited, List.Subset.trans subset listed.visited⟩
  left := fun id member left => by
    obtain ⟨other, otherExpands, otherSubset⟩ := listed.left id member left
    exact ⟨other, otherExpands, List.subset_append_of_subset_left _ otherSubset⟩

theorem concat (listed : before.Lists book stack written) (fresh : id ∉ before.visited)
    (starts : book.CanStart id) :
    Collected.Lists book stack (written ++ [id])
      ⟨id :: before.visited, before.found ++ [id]⟩ where
  foundEq := by
    rw [eraseDups_concat fun member => fresh (listed.visited member), listed.foundEq]
  visited := List.append_subset.mpr
    ⟨List.subset_cons_of_subset _ listed.visited, by simp⟩
  left := fun other member left => by
    rcases List.mem_cons.mp member with rfl | old
    · exact ⟨[other], .start starts .nil, by simp⟩
    · obtain ⟨own, expands, subset⟩ := listed.left other old left
      exact ⟨own, expands, List.subset_append_of_subset_left _ subset⟩

/-- A walk stands below the rule that it walks through. -/
theorem enter (listed : before.Lists book stack written) :
    Collected.Lists book (id :: stack) written ⟨id :: before.visited, before.found⟩ where
  foundEq := listed.foundEq
  visited := List.subset_cons_of_subset _ listed.visited
  left := fun other member left => by
    rw [List.mem_cons, not_or] at left
    exact listed.left other ((List.mem_cons.mp member).resolve_left left.1) left.2

theorem leave (inside : after.Lists book (id :: stack) (written ++ own))
    (expands : book.Expands [id] own) : after.Lists book stack (written ++ own) where
  foundEq := inside.foundEq
  visited := inside.visited
  left := fun other member left => by
    by_cases same : other = id
    · exact ⟨own, same ▸ expands, List.subset_append_right _ _⟩
    · exact inside.left other member (by simp [same, left])

end Collected.Lists

theorem Acyclic.onward (acyclic : book.Acyclic (id :: rest)) :
    book.Acyclic (book.onward id) := fun _ leads other reached =>
  acyclic id List.mem_cons_self other (reached.head leads)

theorem Acyclic.tail (acyclic : book.Acyclic (id :: rest)) : book.Acyclic rest :=
  fun first member => acyclic first (List.mem_cons_of_mem _ member)

/-- Without cycles a walk adds the first occurrences of the rules that it walks through,
written out in full.  The rules that it stands below all lead to these, so none of them is
met again. -/
theorem Walks.lists (walks : book.Walks before ids after) {stack written : List RuleId}
    (acyclic : book.Acyclic ids)
    (below : ∀ outer ∈ stack, ∀ id ∈ ids, TransGen book.Leads outer id)
    (start : before.Lists book stack written) :
    ∃ own, book.Expands ids own ∧ after.Lists book stack (written ++ own) := by
  induction walks generalizing stack written with
  | nil => exact ⟨[], .nil, by simpa using start⟩
  | @met before _ here _ known _ ih =>
      have notBelow : here ∉ stack := fun member =>
        acyclic here List.mem_cons_self here .refl (below here member here List.mem_cons_self)
      obtain ⟨own, expands, subset⟩ := start.left here known notBelow
      obtain ⟨others, restExpands, ends⟩ := ih acyclic.tail
        (fun outer member id later => below outer member id (List.mem_cons_of_mem _ later))
        (start.again subset)
      exact ⟨own ++ others, expands.cons restExpands, by simpa using ends⟩
  | @start before _ here _ fresh starts _ ih =>
      obtain ⟨others, restExpands, ends⟩ := ih acyclic.tail
        (fun outer member id later => below outer member id (List.mem_cons_of_mem _ later))
        (start.concat fresh starts)
      exact ⟨here :: others, .start starts restExpands, by simpa using ends⟩
  | @through before _ _ here _ fresh noStart _ _ insideIH laterIH =>
      have deeper : ∀ outer ∈ here :: stack, ∀ next ∈ book.onward here,
          TransGen book.Leads outer next := by
        intro outer member next leads
        rcases List.mem_cons.mp member with rfl | member
        · exact .single leads
        · exact (below outer member here List.mem_cons_self).tail leads
      obtain ⟨inner, expands, inside⟩ := insideIH acyclic.onward deeper start.enter
      have writtenOut : book.Expands [here] inner := by
        simpa using Expands.through noStart expands .nil
      obtain ⟨others, restExpands, ends⟩ := laterIH acyclic.tail
        (fun outer member id later => below outer member id (List.mem_cons_of_mem _ later))
        (inside.leave writtenOut)
      exact ⟨inner ++ others, .through noStart expands restExpands, by simpa using ends⟩

end Rulebook

namespace Grammar

open Relation (ReflTransGen)

/-- The scanner of a context is compiled from the patterns of its candidates, one for each,
in their order. -/
theorem scanner?_candidates {grammar : Grammar} {context : RuleId} {here : RuleContext}
    (hereEq : grammar.context? context = some here) :
    ∃ patterns : List String,
      (patterns.map some =
        here.candidates.map fun id => (grammar.rule? id).bind Rule.startPattern?) ∧
      here.scanner? =
        if patterns = [] then none else (grammar.engine.compile patterns).toOption := by
  rw [context?_eq] at hereEq
  split at hereEq
  case isFalse => cases hereEq
  case isTrue =>
    cases hereEq
    refine ⟨grammar.startPatterns (grammar.candidates context),
      Rulebook.map_some_startPatterns fun _ member =>
        Rulebook.canStart_of_mem_candidates member, ?_⟩
    simp only [Rulebook.context, Rulebook.candidateScanner?]
    split
    · next noneStart => rw [if_pos noneStart]
    · next someStart => rw [if_neg someStart]

/-- The standard engine compiles them in this order. -/
theorem compiled_candidates {grammar : Grammar} {ids : List RuleId} {patterns : List String}
    (patternsEq : patterns.map some =
      ids.map fun id => (grammar.rule? id).bind Rule.startPattern?)
    {scanner : Scanner} (compiles : Engine.standard.compile patterns = .ok scanner) :
    ∃ compiled, scanner = Pattern.scanner compiled ∧
      ∀ index : Nat, compiled[index]? = ids[index]?.bind grammar.startPattern? := by
  obtain ⟨compiled, compiledEq, rfl⟩ := Engine.standard_compile compiles
  refine ⟨compiled, rfl, fun index => ?_⟩
  have here := congrArg (·[index]?) patternsEq
  simp only [List.getElem?_map] at here
  rw [Pattern.compileAll_getElem? compiledEq]
  cases patternsAt : patterns[index]? <;> cases idsAt : ids[index]? <;>
    rw [patternsAt, idsAt] at here <;> simp_all [startPattern?]

/-- The candidates of a context are the rules that can start and that groups and references
lead to from its members, each once, found by a walk that ends in every rulebook.  Each has
its pattern at its place of the scanner.  Without cycles they stand in the order in which
they first occur where all groups and references are written out. -/
theorem context?_candidates {grammar : Grammar} {context : RuleId} {rule : Rule}
    (ruleEq : grammar.rule? context = some rule) :
    (∀ before ids, ∃ after, grammar.Walks before ids after) ∧
      ∃ here, grammar.context? context = some here ∧
        (∃ visited, grammar.Walks ⟨[], []⟩ rule.members ⟨visited, here.candidates⟩) ∧
        here.candidates.Nodup ∧
        (∀ id, id ∈ here.candidates ↔
          ((∃ single, grammar.rule? id = some (.single single) ∧ single.inert = false) ∨
            ∃ span, grammar.rule? id = some (.span span) ∧ span.inert = false) ∧
          ∃ first ∈ rule.members, ReflTransGen grammar.Leads first id) ∧
        (∃ patterns : List String,
          (patterns.map some =
            here.candidates.map fun id => (grammar.rule? id).bind Rule.startPattern?) ∧
          here.scanner? =
            if patterns = [] then none else (grammar.engine.compile patterns).toOption) ∧
        (grammar.engine = .standard → ∀ scanner, here.scanner? = some scanner →
          ∃ compiled, scanner = Pattern.scanner compiled ∧ ∀ index : Nat,
            compiled[index]? = here.candidates[index]?.bind grammar.startPattern?) ∧
        (grammar.Acyclic rule.members →
          ∃ ids, grammar.Expands rule.members ids ∧ here.candidates = ids.eraseDups) := by
  have inside : context < grammar.rules.size := (Array.getElem?_eq_some_iff.mp ruleEq).1
  have hereEq : grammar.context? context = some (grammar.toRulebook.context context) := by
    rw [context?_eq, if_pos inside]
  obtain ⟨visited, walks⟩ := Rulebook.candidates_walks ruleEq
  obtain ⟨distinct, foundIff⟩ := walks.found_iff
  obtain ⟨patterns, patternsEq, scannerEq⟩ := scanner?_candidates hereEq
  refine ⟨grammar.exists_walk, _, hereEq, ⟨visited, walks⟩, distinct, fun id => ?_,
    ⟨patterns, patternsEq, scannerEq⟩, fun engineEq scanner found => ?_, fun acyclic => ?_⟩
  · rw [← Rulebook.canStart_iff]
    exact foundIff id
  · rw [scannerEq, engineEq] at found
    split at found
    · cases found
    · exact compiled_candidates patternsEq (toOption_eq_some_iff.mp found)
  · have nothing : Rulebook.Collected.Lists grammar.toRulebook [] [] ⟨[], []⟩ :=
      ⟨rfl, List.Subset.refl _, by simp⟩
    obtain ⟨ids, expands, ends⟩ := walks.lists acyclic (by simp) nothing
    exact ⟨ids, expands, ends.foundEq⟩

end Grammar

/-- A grammar whose root leads back to itself, with a span that comes to one of its rules
twice. -/
def loopDocument : GrammarDocument where
  scopeName := some "text.loop"
  name := none
  fileTypes := []
  patterns := some [
    { reference := some "#pair" },
    { reference := some "$self" },
    {
      opening := some "<"
      closing := some ">"
      members := [
        { reference := some "#pair" },
        { reference := some "#letter" },
        { pattern := some "c" }]
    }]
  repository := [
    ("letter", { pattern := some "a" }),
    ("pair", { members := [{ reference := some "#letter" }, { pattern := some "b" }] })]

/-- Inside the span of the small grammar nothing leads back to itself, and the letter is
found where it first occurs.  The root leads back to itself, and its candidates are found
all the same. -/
theorem loopDocument_candidates :
    ∃ grammar, Grammar.ofDocument .standard true loopDocument = .ok grammar ∧
      (∃ rule here, grammar.rule? 5 = some rule ∧ grammar.context? 5 = some here ∧
        grammar.Acyclic rule.members ∧
        (∃ ids, grammar.Expands rule.members ids ∧ here.candidates = ids.eraseDups) ∧
        here.candidates = [7, 9, 4]) ∧
      ∃ rule here, grammar.rule? grammar.root = some rule ∧
        grammar.context? grammar.root = some here ∧
        Relation.TransGen grammar.Leads grammar.root grammar.root ∧
        here.candidates.Nodup ∧ here.candidates = [7, 9, 5] := by
  let below : List RuleId := [2, 3, 4, 7, 8, 9, 10]
  let rank (id : RuleId) : Nat := [0, 0, 3, 1, 0, 0, 0, 0, 1, 0, 2].getD id 0
  have evaluated : ((Grammar.ofDocument .standard true loopDocument).toOption.any fun grammar =>
      decide ((grammar.rule? 5).map Rule.members = some [2, 3, 4] ∧
        (∀ id ∈ below, ∀ next ∈ grammar.onward id, next ∈ below ∧ rank next < rank id) ∧
        grammar.candidates 5 = [7, 9, 4] ∧ grammar.root = 6 ∧
        (grammar.rule? 6).isSome = true ∧ 1 ∈ grammar.onward 6 ∧ 6 ∈ grammar.onward 1 ∧
        grammar.candidates 6 = [7, 9, 5])) = true := by
    decide +kernel
  obtain ⟨grammar, loaded, checked⟩ := Grammar.exists_ok_of_any evaluated
  obtain ⟨membersEq, falls, innerEq, rootEq, hasRoot, down, back, outerEq⟩ :=
    of_decide_eq_true checked
  obtain ⟨span, spanEq, spanMembers⟩ := Option.map_eq_some_iff.mp membersEq
  obtain ⟨root, rootRule⟩ := Option.isSome_iff_exists.mp hasRoot
  obtain ⟨-, inside, insideEq, -, -, -, -, -, insideOrder⟩ :=
    Grammar.context?_candidates spanEq
  obtain ⟨-, outside, outsideEq, -, outsideDistinct, -⟩ :=
    Grammar.context?_candidates rootRule
  have acyclic : grammar.Acyclic span.members := by
    refine Rulebook.acyclic_of_rank (· ∈ below) rank ?_ fun id next member leads =>
      falls id member next leads
    rw [spanMembers]
    decide
  have candidatesEq {id : RuleId} {here : RuleContext}
      (hereEq : grammar.context? id = some here) : here.candidates = grammar.candidates id := by
    rw [Grammar.context?_eq] at hereEq
    split at hereEq <;> cases hereEq
    rfl
  refine ⟨grammar, loaded,
    ⟨span, inside, spanEq, insideEq, acyclic, insideOrder acyclic,
      (candidatesEq insideEq).trans innerEq⟩, root, outside, ?_⟩
  rw [rootEq]
  exact ⟨rootRule, outsideEq, .tail (.single down) back, outsideDistinct,
    (candidatesEq outsideEq).trans outerEq⟩

end Scopelight
