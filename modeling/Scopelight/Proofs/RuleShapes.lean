import Scopelight.Proofs.CheckedReferences
import Scopelight.Proofs.LoadedGrammar

/-!
# The shapes of rules

A document makes a rule in two parts: the rules inside it are numbered first, and what it
says itself gives the shape that holds their numbers.  The shape, the errors of the document
and whether its patterns compile do not depend on the rules numbered before it.
-/

namespace Scopelight

namespace RuleDocument

open Grammar

/-- The documents of the rules inside a rule.  A rule with a single pattern has none. -/
def parts (document : RuleDocument) : List RuleDocument :=
  match document.pattern with
  | some _ => []
  | none => document.members

/-- The first pattern of a document that does not compile, and the rule that the document
makes of the numbers of the rules inside it. -/
def shape (engine : Engine) (document : RuleDocument) :
    Except GrammarError (Option CompileError × (List RuleId → Bool → Rule)) :=
  match document.pattern with
  | some pattern => do
      requireSupported engine pattern
      let captures ← buildCaptures document.captures
      return (firstError? engine [pattern], fun _ inert =>
        .single ⟨scopesOf document.name, pattern, captures, inert⟩)
  | none =>
      match document.opening with
      | none => return (none, fun members _ => .group members)
      | some opening => do
          requireSupported engine opening
          let closing := document.closing.getD neverCloses
          let template := String.ofList (Pattern.fillReferences [] [] closing.toList)
          requireSupported engine template
          let openingCaptures ← buildCaptures (document.openingCaptures.or document.captures)
          let closingCaptures ← buildCaptures (document.closingCaptures.or document.captures)
          return (firstError? engine [opening, template], fun members inert =>
            .span {
              name := scopesOf document.name
              contentName := scopesOf document.contentName
              opening
              closing
              openingCaptures
              closingCaptures
              members
              closingLast := document.closingLast.getD false
              allowEmptySpan := document.allowEmptySpan.getD true
              hasReferences := Pattern.hasReferences closing.toList
              inert
            })

/-- The shape of a document is a single pattern, a span or a group.  Only rules with a
pattern are inert. -/
theorem shape_cases {engine : Engine} {document : RuleDocument} {error? : Option CompileError}
    {make : List RuleId → Bool → Rule} (shaped : document.shape engine = .ok (error?, make)) :
    (∃ rule : SingleRule, make = fun _ inert => .single { rule with inert }) ∨
      (∃ rule : SpanRule, make = fun members inert => .span { rule with members, inert }) ∨
      (error? = none ∧ make = fun members _ => .group members) := by
  unfold shape at shaped
  split at shaped
  · obtain ⟨_, -, shaped⟩ := bind_eq_ok shaped
    obtain ⟨captures, -, shaped⟩ := bind_eq_ok shaped
    cases shaped
    exact .inl ⟨⟨_, _, captures, false⟩, rfl⟩
  · split at shaped
    · cases shaped
      exact .inr (.inr ⟨rfl, rfl⟩)
    · obtain ⟨_, -, shaped⟩ := bind_eq_ok shaped
      obtain ⟨_, -, shaped⟩ := bind_eq_ok shaped
      obtain ⟨openingCaptures, -, shaped⟩ := bind_eq_ok shaped
      obtain ⟨closingCaptures, -, shaped⟩ := bind_eq_ok shaped
      cases shaped
      exact .inr (.inl
        ⟨⟨_, _, _, _, openingCaptures, closingCaptures, [], _, _, _, false⟩, rfl⟩)

/-- The shape of a rule, or of a rule inside it, has an error. -/
inductive Fails (engine : Engine) (error : GrammarError) : RuleDocument → Prop where
  | own {document : RuleDocument} (noReference : document.reference = none)
      (shapeEq : document.shape engine = .error error) : Fails engine error document
  | inside {document part : RuleDocument} (noReference : document.reference = none)
      (member : part ∈ document.parts) (fails : Fails engine error part) :
      Fails engine error document

theorem Fails.exists_shape {engine : Engine} {error : GrammarError} {document : RuleDocument}
    (fails : document.Fails engine error) :
    ∃ part : RuleDocument, part.shape engine = .error error := by
  induction fails with
  | own _ shapeEq => exact ⟨_, shapeEq⟩
  | inside _ _ _ ih => exact ih

end RuleDocument

/-- The shape of a rule of a grammar has an error. -/
def GrammarDocument.Fails (engine : Engine) (error : GrammarError)
    (document : GrammarDocument) : Prop :=
  (∃ rules, document.patterns = some rules ∧ ∃ rule ∈ rules, rule.Fails engine error) ∨
    ∃ entry ∈ document.repository, entry.2.Fails engine error

namespace Grammar

variable {engine : Engine} {document : RuleDocument}

/-- A rule that is no reference is numbered in its shape, after the rules inside it. -/
theorem buildRule_eq (noReference : document.reference = none) (builder : Builder) :
    buildRule engine document builder = do
      let (ids, inner) ← buildRules engine document.parts builder
      let (error?, make) ← document.shape engine
      return inner.pushChecked error? (make ids) := by
  obtain ⟨reference, name, contentName, pattern, opening, closing, captures, openingCaptures,
    closingCaptures, members, closingLast, allowEmptySpan⟩ := document
  obtain rfl : reference = none := noReference
  unfold buildRule
  cases pattern with
  | some pattern =>
      simp only [RuleDocument.parts, RuleDocument.shape, buildRules, bind_assoc, pure_bind]
      rfl
  | none =>
      simp only [RuleDocument.parts, RuleDocument.shape]
      refine bind_congr fun built => ?_
      cases opening with
      | none => rfl
      | some opening => simp only [bind_assoc, pure_bind]

theorem buildRule_reference {text : String} (reference : document.reference = some text)
    (builder : Builder) :
    buildRule engine document builder =
      .ok ({ builder with references := .ofText text :: builder.references }.push
        (.reference (.ofText text))) := by
  obtain ⟨reference', _, _, _, _, _, _, _, _, _, _, _⟩ := document
  obtain rfl : reference' = some text := reference
  rfl

/-- A rule that is no reference gets the number of the rules before it, after the rules
inside it have been numbered. -/
theorem buildRule_ok {builder next : Builder} {id : RuleId}
    (noReference : document.reference = none)
    (built : buildRule engine document builder = .ok (id, next)) :
    ∃ ids inner error? make, buildRules engine document.parts builder = .ok (ids, inner) ∧
      document.shape engine = .ok (error?, make) ∧
      (id, next) = inner.pushChecked error? (make ids) := by
  rw [buildRule_eq noReference] at built
  obtain ⟨⟨ids, inner⟩, partsBuilt, built⟩ := bind_eq_ok built
  obtain ⟨⟨error?, make⟩, shaped, built⟩ := bind_eq_ok built
  exact ⟨ids, inner, error?, make, partsBuilt, shaped, (Except.ok.inj built).symm⟩

theorem buildRule_of_parts {builder inner : Builder} {ids : List RuleId}
    {error? : Option CompileError} {make : List RuleId → Bool → Rule}
    (noReference : document.reference = none)
    (partsBuilt : buildRules engine document.parts builder = .ok (ids, inner))
    (shaped : document.shape engine = .ok (error?, make)) :
    buildRule engine document builder = .ok (inner.pushChecked error? (make ids)) := by
  rw [buildRule_eq noReference, partsBuilt, shaped]
  rfl

theorem buildRules_cons_eq_ok {rest : List RuleDocument} {builder next : Builder}
    {ids : List RuleId} :
    buildRules engine (document :: rest) builder = .ok (ids, next) ↔
      ∃ id inner later, buildRule engine document builder = .ok (id, inner) ∧
        buildRules engine rest inner = .ok (later, next) ∧ ids = id :: later := by
  rw [buildRules]
  constructor
  · intro built
    obtain ⟨⟨id, inner⟩, documentBuilt, built⟩ := bind_eq_ok built
    obtain ⟨⟨later, last⟩, restBuilt, built⟩ := bind_eq_ok built
    cases built
    exact ⟨id, inner, later, documentBuilt, restBuilt, rfl⟩
  · rintro ⟨id, inner, later, documentBuilt, restBuilt, rfl⟩
    rw [documentBuilt]
    change (buildRules engine rest inner >>= _) = _
    rw [restBuilt]
    rfl

theorem buildRepository_cons_eq_ok {name : String} {rest : List (String × RuleDocument)}
    {builder next : Builder} {entries : List (String × RuleId)} :
    buildRepository engine ((name, document) :: rest) builder = .ok (entries, next) ↔
      ∃ id inner later, buildRule engine document builder = .ok (id, inner) ∧
        buildRepository engine rest inner = .ok (later, next) ∧
        entries = (name, id) :: later := by
  rw [buildRepository]
  constructor
  · intro built
    obtain ⟨⟨id, inner⟩, documentBuilt, built⟩ := bind_eq_ok built
    obtain ⟨⟨later, last⟩, restBuilt, built⟩ := bind_eq_ok built
    cases built
    exact ⟨id, inner, later, documentBuilt, restBuilt, rfl⟩
  · rintro ⟨id, inner, later, documentBuilt, restBuilt, rfl⟩
    rw [documentBuilt]
    change (buildRepository engine rest inner >>= _) = _
    rw [restBuilt]
    rfl

/-- What holds of references, and of all other documents if it holds of the documents inside
them, holds of all documents. -/
theorem documents_induct {rule : RuleDocument → Prop} {rules : List RuleDocument → Prop}
    (reference : ∀ document text, document.reference = some text → rule document)
    (around : ∀ document : RuleDocument, document.reference = none → rules document.parts →
      rule document)
    (nil : rules [])
    (cons : ∀ document rest, rule document → rules rest → rules (document :: rest)) :
    (∀ document, rule document) ∧ ∀ documents, rules documents := by
  have induct := buildRule.mutual_induct (fun document _ => rule document)
    (fun documents _ => rules documents)
    (fun _ _ _ _ _ _ _ _ _ _ _ _ _ => reference _ _ rfl)
    (fun _ _ _ _ _ _ _ _ _ _ _ _ => around _ rfl nil)
    (fun _ _ _ _ _ _ _ _ _ _ _ inside => around _ rfl inside)
    (fun _ => nil)
    (fun _ _ builder documentHolds restHolds =>
      cons _ _ documentHolds (restHolds builder))
  exact ⟨fun document => induct.1 document .empty, fun documents => induct.2 documents .empty⟩

/-- An error of the walk is an error in the shape of some rule. -/
theorem buildRule_failed (engine : Engine) (error : GrammarError) :
    (∀ document builder, buildRule engine document builder = .error error →
      document.Fails engine error) ∧
    ∀ documents builder, buildRules engine documents builder = .error error →
      ∃ document ∈ documents, document.Fails engine error := by
  refine documents_induct ?reference ?around ?nil ?cons
  case reference =>
    intro document text reference builder failed
    rw [buildRule_reference reference] at failed
    cases failed
  case around =>
    intro document noReference ih builder failed
    rw [buildRule_eq noReference] at failed
    rcases bind_eq_error failed with failed | ⟨_, -, failed⟩
    · obtain ⟨part, member, fails⟩ := ih builder failed
      exact .inside noReference member fails
    rcases bind_eq_error failed with failed | ⟨_, -, failed⟩
    · exact .own noReference failed
    · cases failed
  case nil =>
    intro builder failed
    cases failed
  case cons =>
    intro document rest documentIH restIH builder failed
    rw [buildRules] at failed
    rcases bind_eq_error failed with failed | ⟨_, -, failed⟩
    · exact ⟨document, List.mem_cons_self, documentIH builder failed⟩
    rcases bind_eq_error failed with failed | ⟨_, -, failed⟩
    · obtain ⟨other, member, fails⟩ := restIH _ failed
      exact ⟨other, List.mem_cons_of_mem _ member, fails⟩
    · cases failed

theorem buildRepository_failed {documents : List (String × RuleDocument)} {builder : Builder}
    {error : GrammarError} (failed : buildRepository engine documents builder = .error error) :
    ∃ entry ∈ documents, entry.2.Fails engine error := by
  induction documents generalizing builder with
  | nil => cases failed
  | cons entry documents ih =>
      rw [buildRepository] at failed
      rcases bind_eq_error failed with failed | ⟨_, -, failed⟩
      · exact ⟨entry, List.mem_cons_self, (buildRule_failed engine error).1 _ _ failed⟩
      rcases bind_eq_error failed with failed | ⟨_, -, failed⟩
      · obtain ⟨other, member, fails⟩ := ih failed
        exact ⟨other, List.mem_cons_of_mem _ member, fails⟩
      · cases failed

namespace Builder

/-- The members of each rule have been numbered. -/
def Closed (builder : Builder) : Prop :=
  ∀ rule ∈ builder.rules, ∀ id ∈ rule.members, id < builder.rules.size

/-- Rules and references are added to those that there are. -/
structure Grows (before after : Builder) : Prop where
  sizeLe : before.rules.size ≤ after.rules.size
  kept : ∀ id < before.rules.size, after.rules[id]? = before.rules[id]?
  references : ∀ target ∈ before.references, target ∈ after.references
  closed : before.Closed → after.Closed

theorem pushChecked_eq (builder : Builder) (error? : Option CompileError)
    (rule : Bool → Rule) :
    ∃ diagnostics, builder.pushChecked error? rule =
      (builder.rules.size,
        ⟨builder.rules.push (rule error?.isSome), diagnostics, builder.references⟩) := by
  cases error? with
  | none => exact ⟨_, rfl⟩
  | some error => exact ⟨_, rfl⟩

namespace Grows

variable {before middle after : Builder}

theorem refl (builder : Builder) : builder.Grows builder :=
  ⟨Nat.le_refl _, fun _ _ => rfl, fun _ member => member, id⟩

theorem trans (first : before.Grows middle) (second : middle.Grows after) :
    before.Grows after where
  sizeLe := Nat.le_trans first.sizeLe second.sizeLe
  kept := fun id inside =>
    (second.kept id (Nat.lt_of_lt_of_le inside first.sizeLe)).trans (first.kept id inside)
  references := fun target member => second.references target (first.references target member)
  closed := fun closed => second.closed (first.closed closed)

/-- One more rule, whose members have been numbered. -/
theorem added {rule : Rule} (membersLt : ∀ id ∈ rule.members, id < before.rules.size)
    (rulesEq : after.rules = before.rules.push rule)
    (references : ∀ target ∈ before.references, target ∈ after.references) :
    before.Grows after where
  sizeLe := by simp [rulesEq]
  kept := fun id inside => by rw [rulesEq, Array.getElem?_push_lt inside, getElem?_pos]
  references := references
  closed := by
    intro closed other member id inside
    rw [rulesEq] at member ⊢
    rw [Array.size_push]
    rcases Array.mem_push.mp member with old | rfl
    · exact Nat.lt_succ_of_lt (closed other old id inside)
    · exact Nat.lt_succ_of_lt (membersLt id inside)

end Grows

end Builder

/-! ### The walk over a document -/

/-- A relation that follows the walk over a document.  It says how the rules that are
numbered after a part of the document go on from those before, and which numbers the part
hands on. -/
structure FollowsWalk (engine : Engine) (holds : Builder → List RuleId → Builder → Prop) :
    Prop where
  refl : ∀ builder, holds builder [] builder
  trans : ∀ {before middle after ids later}, holds before ids middle →
    holds middle later after → holds before (ids ++ later) after
  reference : ∀ (builder : Builder) target, holds builder [builder.rules.size]
    ({ builder with references := target :: builder.references }.push (.reference target)).2
  around : ∀ {document : RuleDocument} {error? make},
    document.shape engine = .ok (error?, make) → ∀ {before inner ids}, holds before ids inner →
    holds before [inner.rules.size] (inner.pushChecked error? (make ids)).2

namespace FollowsWalk

variable {holds : Builder → List RuleId → Builder → Prop} (follows : FollowsWalk engine holds)

include follows

theorem buildRule :
    (∀ document builder id next, Grammar.buildRule engine document builder = .ok (id, next) →
      holds builder [id] next) ∧
    ∀ documents builder ids next, buildRules engine documents builder = .ok (ids, next) →
      holds builder ids next := by
  refine documents_induct ?reference ?around ?nil ?cons
  case reference =>
    intro document text reference builder id next built
    rw [buildRule_reference reference] at built
    cases built
    exact follows.reference builder _
  case around =>
    intro document noReference ih builder id next built
    obtain ⟨ids, inner, error?, make, partsBuilt, shaped, pushed⟩ :=
      buildRule_ok noReference built
    have idEq : id = inner.rules.size := by
      obtain ⟨diagnostics, pushedEq⟩ := inner.pushChecked_eq error? (make ids)
      exact congrArg Prod.fst (pushed.trans pushedEq)
    rw [idEq, show next = (inner.pushChecked error? (make ids)).2 from congrArg Prod.snd pushed]
    exact follows.around shaped (ih builder ids inner partsBuilt)
  case nil =>
    intro builder ids next built
    cases built
    exact follows.refl builder
  case cons =>
    intro document rest documentIH restIH builder ids next built
    obtain ⟨id, inner, later, documentBuilt, restBuilt, rfl⟩ := buildRules_cons_eq_ok.mp built
    exact follows.trans (documentIH builder id inner documentBuilt)
      (restIH inner later next restBuilt)

theorem buildRepository {documents : List (String × RuleDocument)} {builder next : Builder}
    {entries : List (String × RuleId)}
    (built : Grammar.buildRepository engine documents builder = .ok (entries, next)) :
    holds builder (entries.map Prod.snd) next := by
  induction documents generalizing builder entries with
  | nil =>
      cases built
      exact follows.refl next
  | cons entry documents ih =>
      obtain ⟨id, inner, later, documentBuilt, restBuilt, rfl⟩ :=
        buildRepository_cons_eq_ok.mp built
      exact follows.trans (follows.buildRule.1 _ _ _ _ documentBuilt) (ih restBuilt)

end FollowsWalk

theorem followsWalk_grows (engine : Engine) : FollowsWalk engine fun before ids after =>
    before.Grows after ∧ ∀ id ∈ ids, before.rules.size ≤ id ∧ id < after.rules.size where
  refl := fun builder => ⟨.refl builder, fun _ member => absurd member List.not_mem_nil⟩
  trans := by
    rintro before middle after ids later ⟨first, idsBounds⟩ ⟨second, laterBounds⟩
    refine ⟨first.trans second, fun id member => ?_⟩
    rcases List.mem_append.mp member with here | there
    · exact ⟨(idsBounds id here).1, Nat.lt_of_lt_of_le (idsBounds id here).2 second.sizeLe⟩
    · exact ⟨Nat.le_trans first.sizeLe (laterBounds id there).1, (laterBounds id there).2⟩
  reference := by
    intro builder target
    refine ⟨.added (fun _ member => absurd member List.not_mem_nil) rfl ?_, ?_⟩
    · exact fun target member => List.mem_cons_of_mem _ member
    · simp [Builder.push]
  around := by
    rintro document error? make shaped before inner ids ⟨grows, idsBounds⟩
    obtain ⟨diagnostics, pushedEq⟩ := inner.pushChecked_eq error? (make ids)
    rw [pushedEq]
    refine ⟨grows.trans (.added ?_ rfl fun _ member => member), ?_⟩
    · intro id member
      rcases RuleDocument.shape_cases shaped with ⟨rule, rfl⟩ | ⟨rule, rfl⟩ | ⟨-, rfl⟩
      · exact absurd member List.not_mem_nil
      · exact (idsBounds id member).2
      · exact (idsBounds id member).2
    · simpa using grows.sizeLe

/-- A rule gets the last number so far. -/
theorem buildRule_last {builder next : Builder} {id : Nat}
    (built : buildRule engine document builder = .ok (id, next)) :
    id + 1 = next.rules.size := by
  cases reference : document.reference with
  | some text =>
      rw [buildRule_reference reference] at built
      cases built
      simp
  | none =>
      obtain ⟨ids, inner, error?, make, -, -, pushed⟩ := buildRule_ok reference built
      obtain ⟨diagnostics, pushedEq⟩ := inner.pushChecked_eq error? (make ids)
      obtain ⟨rfl, rfl⟩ := Prod.mk.inj (pushed.trans pushedEq)
      simp

/-- A rule gets the last number so far, and its document adds to what there is. -/
theorem buildRule_grows (engine : Engine) :
    (∀ document builder (id : Nat) next, buildRule engine document builder = .ok (id, next) →
      builder.Grows next ∧ builder.rules.size ≤ id ∧ id + 1 = next.rules.size) ∧
    ∀ documents builder ids next, buildRules engine documents builder = .ok (ids, next) →
      builder.Grows next ∧ ∀ id ∈ ids, id < next.rules.size := by
  constructor
  · intro document builder id next built
    obtain ⟨grows, bounds⟩ := (followsWalk_grows engine).buildRule.1 _ _ _ _ built
    exact ⟨grows, (bounds id List.mem_cons_self).1, buildRule_last built⟩
  · intro documents builder ids next built
    obtain ⟨grows, bounds⟩ := (followsWalk_grows engine).buildRule.2 _ _ _ _ built
    exact ⟨grows, fun id member => (bounds id member).2⟩

theorem buildRepository_grows {documents : List (String × RuleDocument)}
    {builder next : Builder} {entries : List (String × RuleId)}
    (built : buildRepository engine documents builder = .ok (entries, next)) :
    builder.Grows next ∧ ∀ entry ∈ entries, entry.2 < next.rules.size := by
  obtain ⟨grows, bounds⟩ := (followsWalk_grows engine).buildRepository built
  exact ⟨grows, fun entry member => (bounds entry.2 (List.mem_map_of_mem member)).2⟩

/-! ### Whole documents -/

/-- The rules of a document are built, and all references resolve if this is required. -/
structure BuildsBook (engine : Engine) (strict : Bool) (document : GrammarDocument)
    (patterns : List RuleDocument) (book : Rulebook) (members : List RuleId)
    (builder last : Builder) : Prop where
  patternsEq : document.patterns = some patterns
  membersBuilt : buildRules engine patterns .empty = .ok (members, builder)
  repositoryBuilt : buildRepository engine document.repository
    (builder.push (.group members)).2 = .ok (book.repository, last)
  bookEq : book = ⟨engine, last.rules, builder.rules.size, book.repository⟩
  resolves : strict = true → ∀ target ∈ last.references, (book.resolve? target).isSome = true

variable {strict : Bool} {grammarDocument : GrammarDocument}

theorem buildsBook_of_ofDocument {grammar : Grammar}
    (loaded : ofDocument engine strict grammarDocument = .ok grammar) :
    scopeNameOf grammarDocument = .ok grammar.scopeName ∧
      ∃ patterns members builder last, BuildsBook engine strict grammarDocument patterns
        grammar.toRulebook members builder last := by
  unfold ofDocument at loaded
  obtain ⟨scopeName, scopeNameEq, loaded⟩ := bind_eq_ok loaded
  split at loaded
  · cases loaded
  · next patterns patternsEq =>
      obtain ⟨⟨members, builder⟩, membersBuilt, loaded⟩ := bind_eq_ok loaded
      obtain ⟨⟨repository, last⟩, repositoryBuilt, loaded⟩ := bind_eq_ok loaded
      obtain ⟨diagnostics, checked, loaded⟩ := bind_eq_ok loaded
      cases loaded
      refine ⟨scopeNameEq, patterns, members, builder, last, patternsEq, membersBuilt,
        repositoryBuilt, rfl, fun required target member => ?_⟩
      subst required
      rw [checkReferences_strict] at checked
      split at checked
      · cases checked
      · next allKnown =>
          rw [← isKnown_eq]
          exact dangling_eq_nil.mp allKnown target (List.mem_reverse.mpr member)

/-- A grammar is not loaded if its outline is not complete, a reference names nothing, or the
shape of a rule has an error. -/
theorem ofDocument_failed {error : GrammarError}
    (failed : ofDocument engine strict grammarDocument = .error error) :
    error = .missingScopeName ∨ error = .missingRoot ∨
      (∃ name, error = .unresolvedReference name) ∨ grammarDocument.Fails engine error := by
  unfold ofDocument at failed
  rcases bind_eq_error failed with failed | ⟨_, -, failed⟩
  · unfold scopeNameOf at failed
    split at failed <;> cases failed <;> exact .inl rfl
  split at failed
  · cases failed
    exact .inr (.inl rfl)
  · next rules rulesEq =>
      rcases bind_eq_error failed with failed | ⟨_, -, failed⟩
      · have fails := (buildRule_failed engine error).2 _ _ failed
        exact .inr (.inr (.inr (.inl ⟨rules, rulesEq, fails⟩)))
      rcases bind_eq_error failed with failed | ⟨_, -, failed⟩
      · exact .inr (.inr (.inr (.inr (buildRepository_failed failed))))
      rcases bind_eq_error failed with failed | ⟨_, -, failed⟩
      · cases strict with
        | false =>
            rw [checkReferences_lenient] at failed
            cases failed
        | true =>
            rw [checkReferences_strict] at failed
            split at failed <;> cases failed
            exact .inr (.inr (.inl ⟨_, rfl⟩))
      · cases failed

theorem ofDocument_of_buildsBook {scopeName : Scope} {patterns : List RuleDocument}
    {book : Rulebook} {members : List RuleId} {builder last : Builder}
    (scopeNameEq : scopeNameOf grammarDocument = .ok scopeName)
    (builds : BuildsBook engine strict grammarDocument patterns book members builder last) :
    ∃ grammar, ofDocument engine strict grammarDocument = .ok grammar ∧
      grammar.toRulebook = book ∧ grammar.scopeName = scopeName := by
  unfold ofDocument
  rw [scopeNameEq, builds.patternsEq]
  change ∃ grammar, (buildRules engine patterns .empty >>= _) = _ ∧ _
  rw [builds.membersBuilt]
  change ∃ grammar, (buildRepository engine grammarDocument.repository
    (builder.push (.group members)).2 >>= _) = _ ∧ _
  rw [builds.repositoryBuilt]
  have bookEq := builds.bookEq
  generalize book.repository = repository at bookEq
  subst bookEq
  have checks : ∃ diagnostics, checkReferences strict repository last.references.reverse
      last.diagnostics = .ok diagnostics := by
    cases strict with
    | false => exact ⟨_, checkReferences_lenient _ _ _⟩
    | true =>
        have allKnown : dangling repository last.references.reverse = [] :=
          dangling_eq_nil.mpr fun target member => (isKnown_eq _ target).trans
            (builds.resolves rfl target (List.mem_reverse.mp member))
        exact ⟨_, by rw [checkReferences_strict, allKnown]⟩
  obtain ⟨diagnostics, checked⟩ := checks
  change ∃ grammar, (checkReferences strict repository last.references.reverse
    last.diagnostics >>= _) = _ ∧ _
  rw [checked]
  exact ⟨_, rfl, rfl, rfl⟩

end Grammar

end Scopelight
