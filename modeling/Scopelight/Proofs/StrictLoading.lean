import Mathlib.Data.List.Basic
import Scopelight.Proofs.RuleShapes

/-!
# Strict and lenient loading

A strict load and a lenient one make the same rules of a document, and differ only in the
check of its references.  The walk over the document meets its references in the order in
which the rules are numbered, and notes no problem with a reference by itself.  So a strict
load fails with the reference that a lenient one would note first, and gives the same
grammar where a lenient one notes none.
-/

namespace Scopelight

/-- What a rule refers to, if it is a reference. -/
def Rule.target? : Rule → Option ReferenceTarget
  | .reference target => some target
  | _ => none

/-- The reference that a problem is about. -/
def Diagnostic.unresolved? : Diagnostic → Option String
  | .unresolvedReference name => some name
  | .inertRule _ _ => none

namespace RuleDocument

mutual

/-- The references written in a rule, in the order of the walk.  What stands beside a
reference does not count, and what stands inside a rule with a single pattern neither. -/
def references : RuleDocument → List String
  | ⟨reference, _, _, pattern, _, _, _, _, _, members, _, _⟩ =>
      match reference, pattern with
      | some text, _ => [text]
      | none, some _ => []
      | none, none => referencesOf members

def referencesOf : List RuleDocument → List String
  | [] => []
  | document :: rest => document.references ++ referencesOf rest

end

variable {document : RuleDocument}

theorem references_reference {text : String} (reference : document.reference = some text) :
    document.references = [text] := by
  obtain ⟨reference', _, _, _, _, _, _, _, _, _, _, _⟩ := document
  obtain rfl : reference' = some text := reference
  rfl

theorem references_of_parts (noReference : document.reference = none) :
    document.references = referencesOf document.parts := by
  obtain ⟨reference, _, _, pattern, _, _, _, _, _, members, _, _⟩ := document
  obtain rfl : reference = none := noReference
  cases pattern <;> rfl

end RuleDocument

/-- The references written in a grammar, in the order of the walk. -/
def GrammarDocument.references (document : GrammarDocument) : List String :=
  RuleDocument.referencesOf (document.patterns.getD []) ++
    document.repository.flatMap fun entry => entry.2.references

namespace Grammar

/-- The targets of the references among the rules, in the order of their numbers. -/
def targets (rules : Array Rule) : List ReferenceTarget :=
  rules.toList.filterMap Rule.target?

/-- The references that are noted as unresolved. -/
def unresolvedIn (diagnostics : List Diagnostic) : List String :=
  diagnostics.filterMap Diagnostic.unresolved?

theorem targets_push (rules : Array Rule) (rule : Rule) :
    targets (rules.push rule) = targets rules ++ rule.target?.toList := by
  rw [targets, Array.toList_push, List.filterMap_append]
  cases targetEq : rule.target? <;> simp [targets, targetEq]

/-! ### The walk -/

/-- References are met, and numbered as rules, in the order in which they are written, and
none is noted as unresolved. -/
structure Builder.Walks (before : Builder) (texts : List String) (after : Builder) : Prop where
  metEq : after.references.reverse = before.references.reverse ++ texts.map .ofText
  targetsEq : targets after.rules = targets before.rules ++ texts.map .ofText
  unresolvedEq : unresolvedIn after.diagnostics = unresolvedIn before.diagnostics

namespace Builder.Walks

variable {before middle after : Builder} {texts more : List String}

theorem refl (builder : Builder) : builder.Walks [] builder :=
  ⟨by simp, by simp, rfl⟩

theorem trans (first : before.Walks texts middle) (second : middle.Walks more after) :
    before.Walks (texts ++ more) after where
  metEq := by rw [second.metEq, first.metEq, List.map_append, List.append_assoc]
  targetsEq := by rw [second.targetsEq, first.targetsEq, List.map_append, List.append_assoc]
  unresolvedEq := second.unresolvedEq.trans first.unresolvedEq

/-- A rule that is no reference adds none. -/
theorem pushed {rule : Rule} (noTarget : rule.target? = none) :
    before.Walks [] (before.push rule).2 where
  metEq := by simp [push]
  targetsEq := by simp [push, targets_push, noTarget]
  unresolvedEq := rfl

theorem pushedChecked {error? : Option CompileError} {rule : Bool → Rule}
    (noTarget : ∀ inert, (rule inert).target? = none) :
    before.Walks [] (before.pushChecked error? rule).2 := by
  cases error? with
  | none => exact pushed (noTarget false)
  | some error =>
      have adds : before.Walks [] (before.push (rule true)).2 := pushed (noTarget true)
      refine ⟨adds.metEq, adds.targetsEq, ?_⟩
      simp [pushChecked, push, unresolvedIn, Diagnostic.unresolved?]

end Builder.Walks

open RuleDocument (referencesOf)

theorem target?_of_shape {engine : Engine} {document : RuleDocument}
    {error? : Option CompileError} {make : List RuleId → Bool → Rule}
    (shaped : document.shape engine = .ok (error?, make)) (ids : List RuleId) (inert : Bool) :
    (make ids inert).target? = none := by
  rcases RuleDocument.shape_cases shaped with ⟨rule, rfl⟩ | ⟨rule, rfl⟩ | ⟨-, rfl⟩ <;> rfl

theorem buildRule_walks (engine : Engine) :
    (∀ document builder id next, buildRule engine document builder = .ok (id, next) →
      builder.Walks document.references next) ∧
    ∀ documents builder ids next, buildRules engine documents builder = .ok (ids, next) →
      builder.Walks (referencesOf documents) next := by
  refine documents_induct ?reference ?around ?nil ?cons
  case reference =>
    intro document text reference builder id next built
    rw [buildRule_reference reference] at built
    cases built
    rw [RuleDocument.references_reference reference]
    exact ⟨by simp, by simp [targets_push, Rule.target?], rfl⟩
  case around =>
    intro document noReference ih builder id next built
    obtain ⟨ids, inner, error?, make, partsBuilt, shaped, pushed⟩ :=
      buildRule_ok noReference built
    have nextEq : next = (inner.pushChecked error? (make ids)).2 := congrArg Prod.snd pushed
    have lastWalks : inner.Walks [] (inner.pushChecked error? (make ids)).2 :=
      .pushedChecked (target?_of_shape shaped ids)
    have walks := (ih builder ids inner partsBuilt).trans lastWalks
    rwa [List.append_nil, ← nextEq, ← RuleDocument.references_of_parts noReference] at walks
  case nil =>
    intro builder ids next built
    cases built
    exact .refl builder
  case cons =>
    intro document rest documentWalks restWalks builder ids next built
    obtain ⟨id, inner, later, documentBuilt, restBuilt, -⟩ := buildRules_cons_eq_ok.mp built
    exact (documentWalks builder id inner documentBuilt).trans
      (restWalks inner later next restBuilt)

theorem buildRepository_walks {engine : Engine} {documents : List (String × RuleDocument)}
    {builder next : Builder} {entries : List (String × RuleId)}
    (built : buildRepository engine documents builder = .ok (entries, next)) :
    builder.Walks (documents.flatMap fun entry => entry.2.references) next := by
  induction documents generalizing builder entries with
  | nil =>
      cases built
      exact .refl next
  | cons entry documents ih =>
      obtain ⟨id, inner, later, documentBuilt, restBuilt, -⟩ :=
        buildRepository_cons_eq_ok.mp built
      exact ((buildRule_walks engine).1 _ _ _ _ documentBuilt).trans (ih restBuilt)

/-! ### Errors of the walk -/

section

variable {engine : Engine} {name : String}

theorem requireSupported_ne_unresolved {pattern : String} :
    requireSupported engine pattern ≠ .error (.unresolvedReference name) := by
  intro failed
  unfold requireSupported at failed
  split at failed <;> cases failed

theorem buildCaptures_ne_unresolved {document : Option (List (String × Option String))} :
    buildCaptures document ≠ .error (.unresolvedReference name) := by
  intro failed
  unfold buildCaptures at failed
  split at failed <;> cases failed

theorem shape_ne_unresolved {document : RuleDocument} :
    document.shape engine ≠ .error (.unresolvedReference name) := by
  intro failed
  unfold RuleDocument.shape at failed
  split at failed
  · rcases bind_eq_error failed with failed | ⟨_, -, failed⟩
    · exact requireSupported_ne_unresolved failed
    rcases bind_eq_error failed with failed | ⟨_, -, failed⟩
    · exact buildCaptures_ne_unresolved failed
    · cases failed
  split at failed
  · cases failed
  · rcases bind_eq_error failed with failed | ⟨_, -, failed⟩
    · exact requireSupported_ne_unresolved failed
    rcases bind_eq_error failed with failed | ⟨_, -, failed⟩
    · exact requireSupported_ne_unresolved failed
    rcases bind_eq_error failed with failed | ⟨_, -, failed⟩
    · exact buildCaptures_ne_unresolved failed
    rcases bind_eq_error failed with failed | ⟨_, -, failed⟩
    · exact buildCaptures_ne_unresolved failed
    · cases failed

end

/-! ### Drafts -/

/-- A grammar before its references are checked. -/
structure Draft where
  scopeName : Scope
  book : Rulebook
  builder : Builder

/-- What both modes of loading make of a document. -/
def draft (engine : Engine) (document : GrammarDocument) : Except GrammarError Draft := do
  let scopeName ← scopeNameOf document
  match document.patterns with
  | none => .error .missingRoot
  | some patterns =>
      let (members, builder) ← buildRules engine patterns .empty
      let (root, builder) := builder.push (.group members)
      let (repository, builder) ← buildRepository engine document.repository builder
      return ⟨scopeName, { engine, rules := builder.rules, root, repository }, builder⟩

namespace Draft

/-- The grammar with the problems that are noted in the end. -/
def finish (draft : Draft) (document : GrammarDocument) (diagnostics : List Diagnostic) :
    Grammar :=
  {
    draft.book with
    scopeName := draft.scopeName
    name := document.name
    fileTypes := document.fileTypes
    diagnostics
    contexts := .build _ _
  }

/-- The references of a draft that resolve to nothing, as they are written. -/
def dangling (draft : Draft) : List String :=
  Grammar.dangling draft.book.repository draft.builder.references.reverse

end Draft

theorem ofDocument_eq_draft (engine : Engine) (strict : Bool) (document : GrammarDocument) :
    ofDocument engine strict document = do
      let draft ← draft engine document
      let diagnostics ← checkReferences strict draft.book.repository
        draft.builder.references.reverse draft.builder.diagnostics
      return draft.finish document diagnostics := by
  unfold ofDocument draft
  rw [bind_assoc]
  refine bind_congr fun scopeName => ?_
  cases document.patterns with
  | none => rfl
  | some patterns =>
      simp only [bind_assoc, pure_bind]
      rfl

/-- What the walk over a document makes of its references. -/
structure Drafted (document : GrammarDocument) (draft : Draft) : Prop where
  metEq : draft.builder.references.reverse = document.references.map .ofText
  targetsEq : targets draft.book.rules = document.references.map .ofText
  unresolvedEq : unresolvedIn draft.builder.diagnostics = []
  rootLt : draft.book.root < draft.book.rules.size
  namedLt : ∀ entry ∈ draft.book.repository, entry.2 < draft.book.rules.size

variable {engine : Engine} {document : GrammarDocument} {draft : Draft} {name : String}

theorem drafted (drafts : Grammar.draft engine document = .ok draft) :
    Drafted document draft := by
  unfold Grammar.draft at drafts
  obtain ⟨scopeName, -, drafts⟩ := bind_eq_ok drafts
  split at drafts
  · cases drafts
  next patterns patternsEq =>
    obtain ⟨⟨members, builder⟩, membersBuilt, drafts⟩ := bind_eq_ok drafts
    obtain ⟨⟨repository, last⟩, repositoryBuilt, drafts⟩ := bind_eq_ok drafts
    cases drafts
    have rootWalks : builder.Walks [] (builder.push (.group members)).2 := .pushed rfl
    have walks := ((buildRule_walks engine).2 _ _ _ _ membersBuilt).trans <|
      rootWalks.trans (buildRepository_walks repositoryBuilt)
    obtain ⟨grows, namedLt⟩ := buildRepository_grows repositoryBuilt
    have textsEq : referencesOf patterns ++ ([] ++
        document.repository.flatMap fun entry => entry.2.references) = document.references := by
      rw [GrammarDocument.references, patternsEq, Option.getD_some, List.nil_append]
    rw [textsEq] at walks
    refine ⟨walks.metEq, walks.targetsEq, walks.unresolvedEq, ?_, namedLt⟩
    refine Nat.lt_of_lt_of_le ?_ grows.sizeLe
    change builder.rules.size < (builder.rules.push _).size
    rw [Array.size_push]
    exact Nat.lt_succ_self _

theorem draft_ne_unresolved :
    Grammar.draft engine document ≠ .error (.unresolvedReference name) := by
  intro failed
  unfold Grammar.draft at failed
  rcases bind_eq_error failed with failed | ⟨_, -, failed⟩
  · unfold scopeNameOf at failed
    split at failed <;> cases failed
  split at failed
  · cases failed
  rcases bind_eq_error failed with failed | ⟨_, -, failed⟩
  · obtain ⟨_, -, fails⟩ := (buildRule_failed engine _).2 _ _ failed
    obtain ⟨_, shapeEq⟩ := fails.exists_shape
    exact shape_ne_unresolved shapeEq
  rcases bind_eq_error failed with failed | ⟨_, -, failed⟩
  · obtain ⟨_, -, fails⟩ := buildRepository_failed failed
    obtain ⟨_, shapeEq⟩ := fails.exists_shape
    exact shape_ne_unresolved shapeEq
  · cases failed

namespace Drafted

/-- The references that resolve to nothing, in the order in which they are written. -/
theorem dangling_eq (drafted : Drafted document draft) :
    draft.dangling = document.references.filter fun text =>
      (draft.book.resolve? (.ofText text)).isNone := by
  rw [Draft.dangling, drafted.metEq, Grammar.dangling, List.filter_map, List.map_map]
  simp [Function.comp_def, isKnown_eq]

/-- No reference of a draft has been noted before the check. -/
theorem not_noted (drafted : Drafted document draft) (name : String) :
    draft.builder.diagnostics.contains (.unresolvedReference name) = false := by
  refine Bool.eq_false_iff.mpr fun noted => ?_
  have member : name ∈ unresolvedIn draft.builder.diagnostics :=
    List.mem_filterMap.mpr ⟨_, List.contains_iff_mem.mp noted, rfl⟩
  rw [drafted.unresolvedEq] at member
  cases member

theorem resolve?_lt (drafted : Drafted document draft) {target : ReferenceTarget}
    {resolved : RuleId} (resolves : draft.book.resolve? target = some resolved) :
    resolved < draft.book.rules.size := by
  cases target with
  | named name =>
      obtain ⟨entry, found, rfl⟩ := Option.map_eq_some_iff.mp resolves
      exact drafted.namedLt entry (List.mem_of_find?_eq_some found)
  | self | base =>
      cases resolves
      exact drafted.rootLt
  | foreign => cases resolves

end Drafted

/-- A lenient load notes what resolves to nothing, each once. -/
theorem ofDocument_lenient (drafts : Grammar.draft engine document = .ok draft) :
    ofDocument engine false document = .ok (draft.finish document
      (draft.builder.diagnostics ++ draft.dangling.eraseDups.map .unresolvedReference)) := by
  rw [ofDocument_eq_draft, drafts]
  change (checkReferences false _ _ _ >>= _) = _
  rw [checkReferences_lenient]
  simp only [(drafted drafts).not_noted, Bool.not_false, List.filter_true]
  rfl

/-- A strict load fails with what first resolves to nothing. -/
theorem ofDocument_strict (drafts : Grammar.draft engine document = .ok draft) :
    ofDocument engine true document =
      match draft.dangling with
      | name :: _ => .error (.unresolvedReference name)
      | [] => .ok (draft.finish document draft.builder.diagnostics) := by
  rw [ofDocument_eq_draft, drafts]
  change (checkReferences true _ _ _ >>= _) = _
  rw [checkReferences_strict, Draft.dangling]
  cases dangling draft.book.repository draft.builder.references.reverse <;> rfl

/-- The names of the references that a lenient load has noted. -/
theorem unresolvedIn_lenient (drafted : Drafted document draft) :
    unresolvedIn (draft.builder.diagnostics ++
      draft.dangling.eraseDups.map .unresolvedReference) = draft.dangling.eraseDups := by
  have namesEq (names : List String) :
      unresolvedIn (names.map .unresolvedReference) = names := by
    rw [unresolvedIn, List.filterMap_map]
    exact List.filterMap_some
  have notedEq : draft.builder.diagnostics.filterMap Diagnostic.unresolved? = [] :=
    drafted.unresolvedEq
  rw [unresolvedIn, List.filterMap_append, notedEq, List.nil_append]
  exact namesEq _

/-- What a lenient load makes of the references of a document. -/
structure NotesReferences (document : GrammarDocument) (grammar : Grammar) : Prop where
  targetsEq : targets grammar.rules = document.references.map .ofText
  unresolvedEq : unresolvedIn grammar.diagnostics =
    (document.references.filter fun text =>
      (grammar.resolve? (.ofText text)).isNone).eraseDups
  resolveLt : ∀ target resolved, grammar.resolve? target = some resolved →
    resolved < grammar.rules.size

theorem notesReferences_of_lenient {grammar : Grammar}
    (loads : ofDocument engine false document = .ok grammar) :
    NotesReferences document grammar := by
  cases drafts : Grammar.draft engine document with
  | error error =>
      rw [ofDocument_eq_draft, drafts] at loads
      cases loads
  | ok draft =>
      rw [ofDocument_lenient drafts] at loads
      cases loads
      have drafted := drafted drafts
      exact ⟨drafted.targetsEq,
        (unresolvedIn_lenient drafted).trans (congrArg List.eraseDups drafted.dangling_eq),
        fun target resolved resolves => drafted.resolve?_lt resolves⟩

/-- How the outcomes of a strict load and of a lenient one go together. -/
inductive Modes : Except GrammarError Grammar → Except GrammarError Grammar → Prop
  | failed (error : GrammarError) (notUnresolved : ∀ name, error ≠ .unresolvedReference name) :
      Modes (.error error) (.error error)
  | resolved (grammar : Grammar) (allResolve : unresolvedIn grammar.diagnostics = []) :
      Modes (.ok grammar) (.ok grammar)
  | dangling (name : String) (grammar : Grammar)
      (first : (unresolvedIn grammar.diagnostics).head? = some name) :
      Modes (.error (.unresolvedReference name)) (.ok grammar)

theorem ofDocument_modes (engine : Engine) (document : GrammarDocument) :
    Modes (ofDocument engine true document) (ofDocument engine false document) := by
  cases drafts : Grammar.draft engine document with
  | error error =>
      have fails (strict : Bool) : ofDocument engine strict document = .error error := by
        rw [ofDocument_eq_draft, drafts]
        rfl
      rw [fails, fails]
      exact .failed error fun name same => draft_ne_unresolved (same ▸ drafts)
  | ok draft =>
      have noted := unresolvedIn_lenient (drafted drafts)
      rw [ofDocument_strict drafts, ofDocument_lenient drafts]
      cases danglingEq : draft.dangling with
      | nil =>
          rw [danglingEq, List.eraseDups_nil, List.map_nil, List.append_nil] at noted
          rw [List.eraseDups_nil, List.map_nil, List.append_nil]
          exact .resolved _ noted
      | cons name rest =>
          rw [danglingEq] at noted
          refine .dangling name _ ?_
          rw [Draft.finish, noted, List.eraseDups_cons, List.head?_cons]

theorem load_modes (engine : Engine) (source : String) :
    Modes (load engine true source) (load engine false source) := by
  unfold load
  split
  · exact .failed .malformed fun _ same => by cases same
  · exact ofDocument_modes engine _

theorem exists_document_of_lenient {source : String} {grammar : Grammar}
    (loads : load engine false source = .ok grammar) :
    ∃ document, GrammarDocument.parse? source = some document ∧
      NotesReferences document grammar := by
  unfold load at loads
  split at loads
  · cases loads
  · next document documentEq => exact ⟨document, documentEq, notesReferences_of_lenient loads⟩

/-- Where nothing is noted, all references among the rules resolve. -/
theorem NotesReferences.resolves {grammar : Grammar} (notes : NotesReferences document grammar)
    (allResolve : unresolvedIn grammar.diagnostics = []) {id : RuleId} {target : ReferenceTarget}
    (ruleEq : grammar.rule? id = some (.reference target)) :
    ∃ resolved, grammar.resolve? target = some resolved ∧ resolved < grammar.rules.size := by
  have member : target ∈ targets grammar.rules :=
    List.mem_filterMap.mpr ⟨_, (Array.mem_of_getElem? ruleEq).val, rfl⟩
  rw [notes.targetsEq] at member
  obtain ⟨text, written, rfl⟩ := List.mem_map.mp member
  cases resolveEq : grammar.resolve? (.ofText text) with
  | some resolved => exact ⟨resolved, rfl, notes.resolveLt _ _ resolveEq⟩
  | none =>
      have noted : text ∈ unresolvedIn grammar.diagnostics := by
        rw [notes.unresolvedEq, List.mem_eraseDups]
        exact List.mem_filter.mpr ⟨written, by rw [resolveEq]; rfl⟩
      rw [allResolve] at noted
      cases noted

/-- Strict and lenient loading agree.  Where a strict load succeeds, all references resolve
to rules, and a lenient load gives the same grammar with the same problems noted.  A strict
load fails with an unresolved reference exactly if a lenient one notes this reference as the
first, and fails otherwise exactly as a lenient load does.  What a lenient load notes are
the written forms of the references that resolve to nothing, each once, in the order in
which they come first in the walk over the document, which is also the order of the
references among the rules. -/
theorem load_strict_lenient (engine : Engine) (source : String) :
    (∀ grammar, load engine true source = .ok grammar →
      load engine false source = .ok grammar ∧
      ∀ id target, grammar.rule? id = some (.reference target) →
        ∃ resolved, grammar.resolve? target = some resolved ∧ resolved < grammar.rules.size) ∧
    (∀ name, load engine true source = .error (.unresolvedReference name) ↔
      ∃ grammar, load engine false source = .ok grammar ∧
        (unresolvedIn grammar.diagnostics).head? = some name) ∧
    (∀ error, (∀ name, error ≠ .unresolvedReference name) →
      (load engine true source = .error error ↔ load engine false source = .error error)) ∧
    (∀ name, load engine false source ≠ .error (.unresolvedReference name)) ∧
    ∀ grammar, load engine false source = .ok grammar →
      ∃ document, GrammarDocument.parse? source = some document ∧
        targets grammar.rules = document.references.map .ofText ∧
        unresolvedIn grammar.diagnostics =
          (document.references.filter fun text =>
            (grammar.resolve? (.ofText text)).isNone).eraseDups := by
  have noted : ∀ grammar, load engine false source = .ok grammar →
      ∃ document, GrammarDocument.parse? source = some document ∧
        NotesReferences document grammar := fun _ => exists_document_of_lenient
  have modes := load_modes engine source
  generalize load engine true source = strict, load engine false source = lenient at modes noted
  refine ⟨?_, ?_, ?_, ?_, ?_⟩
  · rintro grammar rfl
    cases modes with
    | resolved _ allResolve =>
        obtain ⟨document, -, notes⟩ := noted grammar rfl
        exact ⟨rfl, fun id target ruleEq => notes.resolves allResolve ruleEq⟩
  · intro name
    cases modes with
    | failed error notUnresolved => simp [notUnresolved]
    | resolved grammar allResolve => simp [allResolve]
    | dangling first grammar firstEq => simp [firstEq]
  · intro error notUnresolved
    cases modes with
    | failed => rfl
    | resolved => rfl
    | dangling first grammar => simp [Ne.symm (notUnresolved first)]
  · rintro name rfl
    cases modes with
    | failed _ notUnresolved => exact notUnresolved name rfl
  · intro grammar loads
    obtain ⟨document, documentEq, notes⟩ := noted grammar loads
    exact ⟨document, documentEq, notes.targetsEq, notes.unresolvedEq⟩

/-- A grammar that refers to itself, to a rule that is missing, twice, and to another
grammar. -/
def gapsSource : String :=
  "\x7b\"scopeName\":\"source.gaps\",\"patterns\":[\x7b\"include\":\"$self\"\x7d," ++
  "\x7b\"include\":\"#gone\"\x7d,\x7b\"include\":\"text.other\"\x7d," ++
  "\x7b\"include\":\"#gone\"\x7d]\x7d"

theorem gapsSource_loads :
    (∃ grammar, load .standard false gapsSource = .ok grammar ∧
      unresolvedIn grammar.diagnostics = ["#gone", "text.other"]) ∧
    load .standard true gapsSource = .error (.unresolvedReference "#gone") := by
  have evaluated : ((load .standard false gapsSource).toOption.any fun grammar =>
      decide (unresolvedIn grammar.diagnostics = ["#gone", "text.other"])) = true := by
    decide +kernel
  obtain ⟨grammar, loaded, checked⟩ := exists_ok_of_any evaluated
  have noted := of_decide_eq_true checked
  obtain ⟨-, strictFails, -⟩ := load_strict_lenient .standard gapsSource
  refine ⟨⟨grammar, loaded, noted⟩, (strictFails _).mpr ⟨grammar, loaded, ?_⟩⟩
  rw [noted, List.head?_cons]

end Grammar

end Scopelight
