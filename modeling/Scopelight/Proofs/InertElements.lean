import Scopelight.Proofs.RenumberedLines
import Scopelight.Proofs.RuleShapes

/-!
# Inert elements of a grammar

A rule with a pattern that does not compile is inert.  An element of a document that makes
such a rule can be dropped, with all that is inside it: the document still loads, the other
rules are the same but for their numbers, and every text gets the same tokens.
-/

namespace Scopelight

open Grammar (Builder bind_eq_ok)

namespace RuleDocument

variable (engine : Engine)

/-- Loading an element marks its rule inert. -/
def LoadsInert (element : RuleDocument) : Prop :=
  ∃ builder id next rule, Grammar.buildRule engine element builder = .ok (id, next) ∧
    next.rules[id]? = some rule ∧ rule.inert = true

/-- One element that loads inert is dropped from a list of documents, or from the elements
of one of them at any depth.  The elements of a reference or of a rule with a single pattern
are not loaded. -/
inductive Drops : List RuleDocument → List RuleDocument → Prop
  | here {element : RuleDocument} {rest : List RuleDocument}
      (inert : element.LoadsInert engine) : Drops (element :: rest) rest
  | inside {document : RuleDocument} {members rest : List RuleDocument}
      (noReference : document.reference = none) (noPattern : document.pattern = none)
      (drops : Drops document.members members) :
      Drops (document :: rest) ({ document with members } :: rest)
  | later {document : RuleDocument} {rest others : List RuleDocument}
      (drops : Drops rest others) : Drops (document :: rest) (document :: others)

/-- An inert element is dropped from the elements of a named rule. -/
inductive DropsNamed : List (String × RuleDocument) → List (String × RuleDocument) → Prop
  | here {name : String} {document : RuleDocument} {members : List RuleDocument}
      {rest : List (String × RuleDocument)}
      (noReference : document.reference = none) (noPattern : document.pattern = none)
      (drops : Drops engine document.members members) :
      DropsNamed ((name, document) :: rest) ((name, { document with members }) :: rest)
  | later {entry : String × RuleDocument} {rest others : List (String × RuleDocument)}
      (drops : DropsNamed rest others) : DropsNamed (entry :: rest) (entry :: others)

end RuleDocument

/-- An inert element is dropped from a grammar. -/
inductive GrammarDocument.Drops (engine : Engine) : GrammarDocument → GrammarDocument → Prop
  | root {document : GrammarDocument} {patterns others : List RuleDocument}
      (patternsEq : document.patterns = some patterns)
      (drops : RuleDocument.Drops engine patterns others) :
      Drops engine document { document with patterns := some others }
  | named {document : GrammarDocument} {others : List (String × RuleDocument)}
      (drops : RuleDocument.DropsNamed engine document.repository others) :
      Drops engine document { document with repository := others }

namespace RuleDocument

variable {engine : Engine} {document : RuleDocument} {error? : Option CompileError}
  {make : List RuleId → Bool → Rule}

theorem inert_of_shape (shaped : document.shape engine = .ok (error?, make))
    (ids : List RuleId) : (make ids error?.isSome).inert = error?.isSome := by
  rcases shape_cases shaped with ⟨rule, rfl⟩ | ⟨rule, rfl⟩ | ⟨rfl, rfl⟩ <;> rfl

theorem trims_of_shape (shaped : document.shape engine = .ok (error?, make)) {gap : Gap}
    {ids others : List RuleId} (trims : gap.TrimsMembers ids others) (inert : Bool) :
    gap.TrimsRule (some (make ids inert)) (some (make others inert)) := by
  rcases shape_cases shaped with ⟨rule, rfl⟩ | ⟨rule, rfl⟩ | ⟨-, rfl⟩
  · exact .single _
  · exact .span { rule with members := others, inert } trims
  · exact .group trims

/-- The rule that a document makes in its shape. -/
theorem exists_made {builder next : Builder} {id : Nat} (noReference : document.reference = none)
    (built : Grammar.buildRule engine document builder = .ok (id, next)) :
    ∃ ids error? make, document.shape engine = .ok (error?, make) ∧
      next.rules[id]? = some (make ids error?.isSome) := by
  obtain ⟨ids, inner, error?, make, -, shaped, pushed⟩ := Grammar.buildRule_ok noReference built
  obtain ⟨diagnostics, pushedEq⟩ := inner.pushChecked_eq error? (make ids)
  obtain ⟨rfl, rfl⟩ := Prod.mk.inj (pushed.trans pushedEq)
  exact ⟨ids, error?, make, shaped, Array.getElem?_push_size⟩

/-- An element that loads inert is no reference. -/
theorem LoadsInert.no_reference (inert : document.LoadsInert engine) :
    document.reference = none := by
  obtain ⟨builder, id, next, rule, built, ruleEq, ruleInert⟩ := inert
  cases reference : document.reference with
  | none => rfl
  | some text =>
      rw [Grammar.buildRule_reference reference] at built
      cases built
      obtain rfl := Option.some.inj (Array.getElem?_push_size.symm.trans ruleEq)
      cases ruleInert

/-- Whether a rule is inert does not depend on the rules before it. -/
theorem LoadsInert.rule_inert (inert : document.LoadsInert engine) {builder next : Builder}
    {id : Nat} (built : Grammar.buildRule engine document builder = .ok (id, next)) :
    ∃ rule, next.rules[id]? = some rule ∧ rule.inert = true := by
  have noReference := inert.no_reference
  obtain ⟨_, _, _, rule, firstBuilt, ruleEq, ruleInert⟩ := inert
  obtain ⟨ids, error?, make, shaped, made⟩ := exists_made noReference firstBuilt
  obtain ⟨others, error?', make', shaped', made'⟩ := exists_made noReference built
  obtain ⟨rfl, rfl⟩ := Prod.mk.inj (Except.ok.inj (shaped.symm.trans shaped'))
  obtain rfl := Option.some.inj (made.symm.trans ruleEq)
  rw [inert_of_shape shaped] at ruleInert
  exact ⟨_, made', (inert_of_shape shaped others).trans ruleInert⟩

end RuleDocument

namespace Gap

variable (gap : Gap)

/-- The rules numbered so far are those of another builder and those of the gap. -/
structure TrimsBuilder (fuller leaner : Builder) : Prop where
  firstLe : gap.first ≤ leaner.rules.size
  sizeEq : fuller.rules.size = gap.skip leaner.rules.size
  rules : ∀ id : Nat, gap.TrimsRule fuller.rules[gap.skip id]? leaner.rules[id]?
  idleInert : ∃ rule, fuller.rules[gap.idle]? = some rule ∧ rule.inert = true
  references : ∀ target ∈ leaner.references, target ∈ fuller.references

variable {gap} {engine : Engine} {fuller leaner : Builder}

namespace TrimsBuilder

/-- Both builders go on with the same rule. -/
theorem added (trims : gap.TrimsBuilder fuller leaner) {rule other : Rule}
    (ruleTrims : gap.TrimsRule (some rule) (some other)) {full lean : Builder}
    (fullEq : full.rules = fuller.rules.push rule)
    (leanEq : lean.rules = leaner.rules.push other)
    (references : ∀ target ∈ lean.references, target ∈ full.references) :
    gap.TrimsBuilder full lean where
  firstLe := by
    have := trims.firstLe
    simp only [leanEq, Array.size_push]
    omega
  sizeEq := by
    have sizeEq := trims.sizeEq
    have firstLe := trims.firstLe
    rw [skip_of_le firstLe] at sizeEq
    rw [fullEq, leanEq, Array.size_push, Array.size_push, sizeEq, skip_of_le (by omega)]
    omega
  rules := fun id => by
    rw [fullEq, leanEq, Array.getElem?_push, Array.getElem?_push, trims.sizeEq]
    by_cases last : id = leaner.rules.size
    · rw [if_pos (congrArg gap.skip last), if_pos last]
      exact ruleTrims
    · rw [if_neg (mt skip_inj.mp last), if_neg last]
      exact trims.rules id
  idleInert := by
    obtain ⟨idle, idleEq, inert⟩ := trims.idleInert
    refine ⟨idle, ?_, inert⟩
    have inside := (Array.getElem?_eq_some_iff.mp idleEq).1
    rw [fullEq, Array.getElem?_push, if_neg (Nat.ne_of_lt inside)]
    exact idleEq
  references := references

/-- Both builders go on with a rule of the same shape. -/
theorem pushChecked (trims : gap.TrimsBuilder fuller leaner) {document : RuleDocument}
    {error? : Option CompileError} {make : List RuleId → Bool → Rule}
    (shaped : document.shape engine = .ok (error?, make)) {ids others : List RuleId}
    (membersTrim : gap.TrimsMembers ids others) :
    (fuller.pushChecked error? (make ids)).1 =
        gap.skip (leaner.pushChecked error? (make others)).1 ∧
      gap.TrimsBuilder (fuller.pushChecked error? (make ids)).2
        (leaner.pushChecked error? (make others)).2 := by
  obtain ⟨diagnostics, fullEq⟩ := fuller.pushChecked_eq error? (make ids)
  obtain ⟨others', leanEq⟩ := leaner.pushChecked_eq error? (make others)
  rw [fullEq, leanEq]
  exact ⟨trims.sizeEq, trims.added (RuleDocument.trims_of_shape shaped membersTrim _) rfl rfl
    trims.references⟩

/-- An inert element leaves a gap behind the rules that were numbered before it. -/
theorem of_inert {element : RuleDocument} {builder next : Builder} {id : Nat}
    (inert : element.LoadsInert engine) (closed : builder.Closed)
    (built : Grammar.buildRule engine element builder = .ok (id, next)) :
    ∃ gap : Gap, gap.first = builder.rules.size ∧ gap.idle = id ∧
      gap.TrimsBuilder next builder := by
  obtain ⟨grows, sizeLe, idEq⟩ := (Grammar.buildRule_grows engine).1 _ _ _ _ built
  obtain ⟨rule, ruleEq, ruleInert⟩ := inert.rule_inert built
  refine ⟨⟨builder.rules.size, id - builder.rules.size⟩, rfl, ?_, Nat.le_refl _, ?_, ?_, ?_,
    grows.references⟩
  · simp only [idle]
    omega
  · rw [skip_of_le (Nat.le_refl _)]
    simp only
    omega
  · intro other
    rcases Nat.lt_or_ge other builder.rules.size with before | behind
    · rw [skip_of_lt before, grows.kept other before, Array.getElem?_eq_getElem before]
      exact .of_members_lt fun member => closed _ (Array.getElem_mem before) member
    · rw [skip_of_le behind, Array.getElem?_eq_none behind,
        Array.getElem?_eq_none (by simp only; omega)]
      exact .absent
  · refine ⟨rule, ?_, ruleInert⟩
    rw [← ruleEq]
    congr 1
    simp only [idle]
    omega

end TrimsBuilder

/-- A document is loaded alike with and without the rules of a gap before it. -/
theorem buildRule_shift (engine : Engine) (gap : Gap) :
    (∀ document fuller leaner id next, gap.TrimsBuilder fuller leaner →
      Grammar.buildRule engine document fuller = .ok (id, next) →
      ∃ other last, Grammar.buildRule engine document leaner = .ok (other, last) ∧
        id = gap.skip other ∧ gap.TrimsBuilder next last) ∧
    ∀ documents fuller leaner ids next, gap.TrimsBuilder fuller leaner →
      Grammar.buildRules engine documents fuller = .ok (ids, next) →
      ∃ others last, Grammar.buildRules engine documents leaner = .ok (others, last) ∧
        ids = others.map gap.skip ∧ gap.TrimsBuilder next last := by
  refine Grammar.documents_induct ?reference ?around ?nil ?cons
  case reference =>
    intro document text reference fuller leaner id next trims built
    rw [Grammar.buildRule_reference reference] at built ⊢
    cases built
    refine ⟨_, _, rfl, trims.sizeEq, trims.added (.reference _) rfl rfl fun target member => ?_⟩
    rcases List.mem_cons.mp member with rfl | old
    · exact List.mem_cons_self
    · exact List.mem_cons_of_mem _ (trims.references target old)
  case around =>
    intro document noReference ih fuller leaner id next trims built
    obtain ⟨ids, inner, error?, make, partsBuilt, shaped, pushed⟩ :=
      Grammar.buildRule_ok noReference built
    obtain ⟨others, middle, othersBuilt, rfl, middleTrims⟩ :=
      ih fuller leaner ids inner trims partsBuilt
    obtain ⟨idEq, nextTrims⟩ := middleTrims.pushChecked shaped (.map_skip gap others)
    rw [← pushed] at idEq nextTrims
    exact ⟨_, _, Grammar.buildRule_of_parts noReference othersBuilt shaped, idEq, nextTrims⟩
  case nil =>
    intro fuller leaner ids next trims built
    cases built
    exact ⟨[], leaner, rfl, rfl, trims⟩
  case cons =>
    intro document rest documentIH restIH fuller leaner ids next trims built
    obtain ⟨id, inner, later, documentBuilt, restBuilt, rfl⟩ :=
      Grammar.buildRules_cons_eq_ok.mp built
    obtain ⟨other, middle, otherBuilt, rfl, middleTrims⟩ :=
      documentIH fuller leaner id inner trims documentBuilt
    obtain ⟨others, last, othersBuilt, rfl, lastTrims⟩ :=
      restIH inner middle later next middleTrims restBuilt
    have allBuilt :=
      Grammar.buildRules_cons_eq_ok.mpr ⟨_, _, _, otherBuilt, othersBuilt, rfl⟩
    exact ⟨other :: others, last, allBuilt, rfl, lastTrims⟩

theorem buildRepository_shift {documents : List (String × RuleDocument)}
    {fuller leaner next : Builder} {entries : List (String × RuleId)}
    (trims : gap.TrimsBuilder fuller leaner)
    (built : Grammar.buildRepository engine documents fuller = .ok (entries, next)) :
    ∃ others last, Grammar.buildRepository engine documents leaner = .ok (others, last) ∧
      (entries = others.map fun entry => (entry.1, gap.skip entry.2)) ∧
      gap.TrimsBuilder next last := by
  induction documents generalizing fuller leaner entries with
  | nil =>
      cases built
      exact ⟨[], leaner, rfl, rfl, trims⟩
  | cons entry documents ih =>
      obtain ⟨id, inner, later, documentBuilt, restBuilt, rfl⟩ :=
        Grammar.buildRepository_cons_eq_ok.mp built
      obtain ⟨other, middle, otherBuilt, rfl, middleTrims⟩ :=
        (buildRule_shift engine gap).1 entry.2 fuller leaner id inner trims documentBuilt
      obtain ⟨others, last, othersBuilt, rfl, lastTrims⟩ := ih middleTrims restBuilt
      refine ⟨(entry.1, other) :: others, last, ?_, rfl, lastTrims⟩
      exact Grammar.buildRepository_cons_eq_ok.mpr ⟨_, _, _, otherBuilt, othersBuilt, rfl⟩

/-! ### Dropping an inert element -/

/-- Documents are loaded with and without an inert element among them.  The gap lies behind
all rules that were numbered before. -/
def LoadsTrimmed (engine : Engine) (documents others : List RuleDocument) : Prop :=
  ∀ (builder : Builder) (ids : List RuleId) (next : Builder), builder.Closed →
    Grammar.buildRules engine documents builder = .ok (ids, next) →
    ∃ (gap : Gap) (otherIds : List RuleId) (last : Builder),
      Grammar.buildRules engine others builder = .ok (otherIds, last) ∧
      builder.rules.size ≤ gap.first ∧ gap.TrimsMembers ids otherIds ∧
      gap.TrimsBuilder next last

/-- If the elements of a document are trimmed, its rule is the same but for its members. -/
theorem LoadsTrimmed.around {document : RuleDocument} {members : List RuleDocument}
    (noReference : document.reference = none) (noPattern : document.pattern = none)
    (loads : LoadsTrimmed engine document.members members) {builder next : Builder} {id : Nat}
    (closed : builder.Closed)
    (built : Grammar.buildRule engine document builder = .ok (id, next)) :
    ∃ (gap : Gap) (other : Nat) (last : Builder),
      Grammar.buildRule engine { document with members } builder = .ok (other, last) ∧
      builder.rules.size ≤ gap.first ∧ id = gap.skip other ∧ gap.TrimsBuilder next last := by
  obtain ⟨ids, inner, error?, make, partsBuilt, shaped, pushed⟩ :=
    Grammar.buildRule_ok noReference built
  have partsEq (members : List RuleDocument) : { document with members }.parts = members := by
    simp only [RuleDocument.parts, noPattern]
  rw [show document.parts = document.members from partsEq document.members] at partsBuilt
  obtain ⟨gap, others, middle, othersBuilt, behind, membersTrim, middleTrims⟩ :=
    loads builder ids inner closed partsBuilt
  obtain ⟨idEq, nextTrims⟩ := middleTrims.pushChecked shaped membersTrim
  rw [← pushed] at idEq nextTrims
  rw [← partsEq members] at othersBuilt
  exact ⟨gap, _, _, Grammar.buildRule_of_parts noReference othersBuilt shaped, behind, idEq,
    nextTrims⟩

/-- A rule that is numbered before the gap keeps its number. -/
theorem skip_of_built {document : RuleDocument} {builder inner : Builder} {id : Nat}
    (built : Grammar.buildRule engine document builder = .ok (id, inner))
    (behind : inner.rules.size ≤ gap.first) : gap.skip id = id := by
  have idEq := ((Grammar.buildRule_grows engine).1 _ _ _ _ built).2.2
  exact skip_of_lt (by omega)

theorem loadsTrimmed_of_drops {documents others : List RuleDocument}
    (drops : RuleDocument.Drops engine documents others) :
    LoadsTrimmed engine documents others := by
  induction drops with
  | @here element rest inert =>
      intro builder ids next closed built
      obtain ⟨id, inner, later, elementBuilt, restBuilt, rfl⟩ :=
        Grammar.buildRules_cons_eq_ok.mp built
      -- The rest is built behind the gap that the element leaves.
      obtain ⟨gap, firstEq, rfl, trims⟩ := TrimsBuilder.of_inert inert closed elementBuilt
      obtain ⟨others, last, othersBuilt, rfl, lastTrims⟩ :=
        (buildRule_shift engine gap).2 rest inner builder later next trims restBuilt
      exact ⟨gap, others, last, othersBuilt, Nat.le_of_eq firstEq.symm,
        .idle_cons (.map_skip gap others), lastTrims⟩
  | @inside document members rest noReference noPattern _ ih =>
      intro builder ids next closed built
      obtain ⟨id, inner, later, documentBuilt, restBuilt, rfl⟩ :=
        Grammar.buildRules_cons_eq_ok.mp built
      obtain ⟨gap, other, middle, otherBuilt, behind, rfl, middleTrims⟩ :=
        LoadsTrimmed.around noReference noPattern ih closed documentBuilt
      obtain ⟨others, last, othersBuilt, rfl, lastTrims⟩ :=
        (buildRule_shift engine gap).2 rest inner middle later next middleTrims restBuilt
      have allBuilt :=
        Grammar.buildRules_cons_eq_ok.mpr ⟨_, _, _, otherBuilt, othersBuilt, rfl⟩
      exact ⟨gap, other :: others, last, allBuilt, behind,
        .skip_cons other (.map_skip gap others), lastTrims⟩
  | @later document rest others _ ih =>
      intro builder ids next closed built
      obtain ⟨id, inner, later, documentBuilt, restBuilt, rfl⟩ :=
        Grammar.buildRules_cons_eq_ok.mp built
      have grows := ((Grammar.buildRule_grows engine).1 _ _ _ _ documentBuilt).1
      obtain ⟨gap, others, last, othersBuilt, behind, membersTrim, lastTrims⟩ :=
        ih inner later next (grows.closed closed) restBuilt
      have allBuilt :=
        Grammar.buildRules_cons_eq_ok.mpr ⟨_, _, _, documentBuilt, othersBuilt, rfl⟩
      -- The rule of this document stands before the gap and keeps its number.
      have trims := membersTrim.skip_cons id
      rw [skip_of_built documentBuilt behind] at trims
      exact ⟨gap, id :: others, last, allBuilt, Nat.le_trans grows.sizeLe behind, trims,
        lastTrims⟩

theorem buildRepository_drops {documents others : List (String × RuleDocument)}
    (drops : RuleDocument.DropsNamed engine documents others) {builder next : Builder}
    {entries : List (String × RuleId)} (closed : builder.Closed)
    (built : Grammar.buildRepository engine documents builder = .ok (entries, next)) :
    ∃ (gap : Gap) (otherEntries : List (String × RuleId)) (last : Builder),
      Grammar.buildRepository engine others builder = .ok (otherEntries, last) ∧
      builder.rules.size ≤ gap.first ∧
      (entries = otherEntries.map fun entry => (entry.1, gap.skip entry.2)) ∧
      gap.TrimsBuilder next last := by
  induction drops generalizing builder entries with
  | here noReference noPattern drops =>
      obtain ⟨id, inner, later, documentBuilt, restBuilt, rfl⟩ :=
        Grammar.buildRepository_cons_eq_ok.mp built
      obtain ⟨gap, other, middle, otherBuilt, behind, rfl, middleTrims⟩ :=
        (loadsTrimmed_of_drops drops).around noReference noPattern closed documentBuilt
      obtain ⟨others, last, othersBuilt, rfl, lastTrims⟩ :=
        buildRepository_shift middleTrims restBuilt
      refine ⟨gap, (_, other) :: others, last, ?_, behind, rfl, lastTrims⟩
      exact Grammar.buildRepository_cons_eq_ok.mpr ⟨_, _, _, otherBuilt, othersBuilt, rfl⟩
  | @later entry _ _ _ ih =>
      obtain ⟨id, inner, later, documentBuilt, restBuilt, rfl⟩ :=
        Grammar.buildRepository_cons_eq_ok.mp built
      have grows := ((Grammar.buildRule_grows engine).1 _ _ _ _ documentBuilt).1
      obtain ⟨gap, others, last, othersBuilt, behind, rfl, lastTrims⟩ :=
        ih (grows.closed closed) restBuilt
      refine ⟨gap, (entry.1, id) :: others, last, ?_,
        Nat.le_trans grows.sizeLe behind, ?_, lastTrims⟩
      · exact Grammar.buildRepository_cons_eq_ok.mpr
          ⟨_, _, _, documentBuilt, othersBuilt, rfl⟩
      · rw [List.map_cons, skip_of_built documentBuilt behind]

/-- Rulebooks are trimmed if their builders are. -/
theorem TrimsBuilder.book (engine : Engine) {fuller leaner : Builder}
    (trims : gap.TrimsBuilder fuller leaner) {root otherRoot : RuleId}
    (rootEq : root = gap.skip otherRoot) {entries others : List (String × RuleId)}
    (entriesEq : entries = others.map fun entry => (entry.1, gap.skip entry.2)) :
    gap.TrimsBook ⟨engine, fuller.rules, root, entries⟩
      ⟨engine, leaner.rules, otherRoot, others⟩ where
  engineEq := rfl
  rootEq := rootEq
  repositoryEq := entriesEq
  rules := trims.rules
  idleInert := trims.idleInert

/-- If all references resolve in a rulebook, they do so without the rules of a gap. -/
theorem TrimsBook.resolves {fuller leaner : Rulebook} (trims : gap.TrimsBook fuller leaner)
    {references others : List ReferenceTarget}
    (among : ∀ target ∈ others, target ∈ references)
    (allResolve : ∀ target ∈ references, (fuller.resolve? target).isSome = true) :
    ∀ target ∈ others, (leaner.resolve? target).isSome = true := by
  intro target member
  have resolves := allResolve target (among target member)
  rwa [trims.resolve_eq, Option.isSome_map] at resolves

end Gap

namespace Grammar

variable {engine : Engine} {strict : Bool} {document others : GrammarDocument}
  {fuller : Grammar}

/-- The rules of a grammar can be built without an inert element. -/
theorem buildsBook_of_drops (drops : document.Drops engine others) {book : Rulebook}
    {patterns : List RuleDocument} {members : List RuleId} {builder last : Builder}
    (builds : BuildsBook engine strict document patterns book members builder last) :
    ∃ (gap : Gap) (patterns : List RuleDocument) (leaner : Rulebook) (members : List RuleId)
      (builder last : Builder),
      BuildsBook engine strict others patterns leaner members builder last ∧
        gap.TrimsBook book leaner := by
  obtain ⟨patternsEq, membersBuilt, repositoryBuilt, bookEq, resolves⟩ := builds
  obtain ⟨_, _, _, repository⟩ := book
  cases bookEq
  have nothingNumbered : Builder.empty.Closed := by simp [Builder.Closed, Builder.empty]
  cases drops with
  | root othersEq drops =>
      obtain rfl := Option.some.inj (patternsEq.symm.trans othersEq)
      obtain ⟨gap, otherMembers, otherBuilder, otherBuilt, -, membersTrim, trims⟩ :=
        Gap.loadsTrimmed_of_drops drops .empty members builder nothingNumbered membersBuilt
      have rootTrims : gap.TrimsBuilder (builder.push (.group members)).2
          (otherBuilder.push (.group otherMembers)).2 :=
        trims.added (.group membersTrim) rfl rfl trims.references
      obtain ⟨entries, otherLast, entriesBuilt, entriesEq, lastTrims⟩ :=
        Gap.buildRepository_shift rootTrims repositoryBuilt
      have bookTrims := lastTrims.book engine trims.sizeEq entriesEq
      refine ⟨gap, _, _, otherMembers, otherBuilder, otherLast,
        ⟨rfl, otherBuilt, entriesBuilt, rfl, fun required => ?_⟩, bookTrims⟩
      exact bookTrims.resolves lastTrims.references (resolves required)
  | named drops =>
      obtain ⟨grows, membersLt⟩ :=
        (buildRule_grows engine).2 patterns .empty members builder membersBuilt
      have rootMembers : ∀ id ∈ (Rule.group members).members, id < builder.rules.size :=
        membersLt
      have rootGrows : builder.Grows (builder.push (.group members)).2 :=
        .added rootMembers rfl fun _ member => member
      have closed := rootGrows.closed (grows.closed nothingNumbered)
      obtain ⟨gap, entries, otherLast, entriesBuilt, behind, entriesEq, lastTrims⟩ :=
        Gap.buildRepository_drops drops closed repositoryBuilt
      have rootEq : builder.rules.size = gap.skip builder.rules.size := by
        rw [Builder.push, Array.size_push] at behind
        exact (Gap.skip_of_lt behind).symm
      have bookTrims := lastTrims.book engine rootEq entriesEq
      refine ⟨gap, patterns, _, members, builder, otherLast,
        ⟨patternsEq, membersBuilt, entriesBuilt, rfl, fun required => ?_⟩, bookTrims⟩
      exact bookTrims.resolves lastTrims.references (resolves required)

/-- A document still loads when an inert element is dropped from it, and every text gets the
same tokens then.  The states after the lines are equal up to the numbers of the rules. -/
theorem tokenizeLines_drops (drops : document.Drops engine others)
    (loaded : ofDocument engine strict document = .ok fuller) :
    ∃ (gap : Gap) (leaner : Grammar), ofDocument engine strict others = .ok leaner ∧
      ∀ lines, fuller.tokenizeLines lines =
        (leaner.tokenizeLines lines).map gap.renumberLine := by
  obtain ⟨scopeNameEq, patterns, members, builder, last, builds⟩ :=
    buildsBook_of_ofDocument loaded
  have sameName : scopeNameOf others = .ok fuller.scopeName := by
    rw [← scopeNameEq]
    cases drops <;> rfl
  obtain ⟨gap, patterns, book, members, builder, last, leanBuilds, trims⟩ :=
    buildsBook_of_drops drops builds
  obtain ⟨leaner, leanerLoaded, rfl, nameEq⟩ :=
    ofDocument_of_buildsBook sameName leanBuilds
  have grammarTrims : gap.TrimsGrammar fuller leaner :=
    { toTrimsBook := trims, scopeNameEq := nameEq.symm }
  exact ⟨gap, leaner, leanerLoaded, grammarTrims.tokenizeLines_eq⟩

/-- A span whose opening pattern does not compile. -/
def brokenElement : RuleDocument where
  name := some "broken"
  opening := some "("
  closing := some ")"
  members := [{ name := some "inner", pattern := some "b" }]

/-- The grammar of marks with a broken element inside the mark. -/
def brokenMarkDocument : GrammarDocument :=
  { markDocument with
    patterns := some [{
      name := some "mark"
      contentName := some "mark.inner"
      opening := some "<"
      closing := some ">"
      members := [brokenElement, { name := some "letter", pattern := some "a" }]
    }] }

theorem brokenElement_loadsInert : brokenElement.LoadsInert .standard := by
  have evaluated : ((buildRule .standard brokenElement .empty).toOption.any fun result =>
      result.2.rules[result.1]?.any Rule.inert) = true := by
    decide +kernel
  obtain ⟨⟨id, next⟩, built, checked⟩ := exists_ok_of_any evaluated
  obtain ⟨rule, ruleEq, inert⟩ := (Option.any_eq_true _ _).mp checked
  exact ⟨.empty, id, next, rule, built, ruleEq, inert⟩

/-- A grammar with a broken span gives the tokens of the grammar without it. -/
theorem brokenMarkDocument_tokenizeLines :
    ∃ fuller, ofDocument .standard true brokenMarkDocument = .ok fuller ∧
      ∃ (gap : Gap) (leaner : Grammar), ofDocument .standard true markDocument = .ok leaner ∧
        ∀ lines, fuller.tokenizeLines lines =
          (leaner.tokenizeLines lines).map gap.renumberLine := by
  have drops : brokenMarkDocument.Drops .standard markDocument :=
    .root rfl (.inside rfl rfl (.here brokenElement_loadsInert))
  have evaluated : ((ofDocument .standard true brokenMarkDocument).toOption.any fun _ =>
      true) = true := by
    decide +kernel
  obtain ⟨fuller, loaded, -⟩ := exists_ok_of_any evaluated
  exact ⟨fuller, loaded, tokenizeLines_drops drops loaded⟩

end Grammar

end Scopelight
