import Scopelight.Proofs.PlanFootprint
import Scopelight.Proofs.RuleShapes
import Scopelight.Proofs.StandardEngine
import Scopelight.Proofs.SupportedPatterns

/-!
# Refused grammars

A grammar is refused for an unsupported construct if the engine objects to one of its
patterns.  The standard engine also objects to patterns that it could run: to those that
hide a group in a class, and to those with a comment that looks like such a construct.
-/

namespace Scopelight

namespace RuleDocument

open Grammar

/-- The patterns that a rule of a document is made of: a single one, or those that open and
close a span, where the closing one has nothing filled in yet. -/
def patterns (document : RuleDocument) : List String :=
  match document.pattern with
  | some pattern => [pattern]
  | none =>
      match document.opening with
      | none => []
      | some opening =>
          let closing := document.closing.getD neverCloses
          [opening, String.ofList (Pattern.fillReferences [] [] closing.toList)]

theorem patterns_of_pattern {document : RuleDocument} {pattern : String}
    (patternEq : document.pattern = some pattern) : document.patterns = [pattern] := by
  rw [patterns, patternEq]

theorem patterns_of_opening {document : RuleDocument} {opening : String}
    (noPattern : document.pattern = none) (openingEq : document.opening = some opening) :
    document.patterns =
      [opening, String.ofList
        (Pattern.fillReferences [] [] (document.closing.getD neverCloses).toList)] := by
  rw [patterns, noPattern, openingEq]

/-- A pattern of a rule or of a rule inside it.  What stands beside a reference does not
count. -/
inductive Mentions (text : String) : RuleDocument → Prop where
  | own {document : RuleDocument} (noReference : document.reference = none)
      (member : text ∈ document.patterns) : Mentions text document
  | inside {document part : RuleDocument} (noReference : document.reference = none)
      (member : part ∈ document.parts) (mentions : Mentions text part) : Mentions text document

end RuleDocument

/-- A pattern of a rule of a grammar. -/
def GrammarDocument.Mentions (document : GrammarDocument) (text : String) : Prop :=
  (∃ rules, document.patterns = some rules ∧ ∃ rule ∈ rules, rule.Mentions text) ∨
    ∃ entry ∈ document.repository, entry.2.Mentions text

namespace Grammar

variable {engine : Engine} {text feature : String}

theorem requireSupported_refused {pattern : String}
    (refused : requireSupported engine pattern = .error (.unsupportedFeature text feature)) :
    text = pattern ∧ engine.unsupportedFeature text = some feature := by
  unfold requireSupported at refused
  split at refused
  · next found =>
      cases refused
      exact ⟨rfl, found⟩
  · cases refused

theorem buildCaptures_not_refused {document : Option (List (String × Option String))} :
    buildCaptures document ≠ .error (.unsupportedFeature text feature) := by
  intro refused
  unfold buildCaptures at refused
  split at refused <;> cases refused

theorem shape_refused {document : RuleDocument}
    (refused : document.shape engine = .error (.unsupportedFeature text feature)) :
    text ∈ document.patterns ∧ engine.unsupportedFeature text = some feature := by
  unfold RuleDocument.shape at refused
  split at refused
  · next pattern patternEq =>
      rcases bind_eq_error refused with refused | ⟨_, -, refused⟩
      · obtain ⟨rfl, found⟩ := requireSupported_refused refused
        rw [RuleDocument.patterns_of_pattern patternEq]
        exact ⟨List.mem_singleton_self _, found⟩
      rcases bind_eq_error refused with refused | ⟨_, -, refused⟩
      · exact absurd refused buildCaptures_not_refused
      · cases refused
  split at refused
  · cases refused
  · next noPattern _ opening openingEq =>
      rcases bind_eq_error refused with refused | ⟨_, -, refused⟩
      · obtain ⟨rfl, found⟩ := requireSupported_refused refused
        rw [RuleDocument.patterns_of_opening noPattern openingEq]
        exact ⟨List.mem_cons_self, found⟩
      rcases bind_eq_error refused with refused | ⟨_, -, refused⟩
      · obtain ⟨rfl, found⟩ := requireSupported_refused refused
        rw [RuleDocument.patterns_of_opening noPattern openingEq]
        exact ⟨List.mem_cons_of_mem _ (List.mem_singleton_self _), found⟩
      rcases bind_eq_error refused with refused | ⟨_, -, refused⟩
      · exact absurd refused buildCaptures_not_refused
      rcases bind_eq_error refused with refused | ⟨_, -, refused⟩
      · exact absurd refused buildCaptures_not_refused
      · cases refused

/-- A rule is refused for a construct only if one of its patterns has it. -/
theorem mentions_of_fails {document : RuleDocument}
    (fails : document.Fails engine (.unsupportedFeature text feature)) :
    document.Mentions text ∧ engine.unsupportedFeature text = some feature := by
  induction fails with
  | own noReference shapeEq =>
      obtain ⟨member, found⟩ := shape_refused shapeEq
      exact ⟨.own noReference member, found⟩
  | inside noReference member _ ih => exact ⟨.inside noReference member ih.1, ih.2⟩

/-- A grammar is refused for a construct only if one of its patterns has it. -/
theorem ofDocument_refused {strict : Bool} {document : GrammarDocument}
    (refused : ofDocument engine strict document = .error (.unsupportedFeature text feature)) :
    document.Mentions text ∧ engine.unsupportedFeature text = some feature := by
  rcases ofDocument_failed refused with missing | missing | ⟨_, dangling⟩ | fails
  · cases missing
  · cases missing
  · cases dangling
  rcases fails with ⟨rules, rulesEq, rule, member, fails⟩ | ⟨entry, member, fails⟩
  · obtain ⟨mentions, found⟩ := mentions_of_fails fails
    exact ⟨.inl ⟨rules, rulesEq, rule, member, mentions⟩, found⟩
  · obtain ⟨mentions, found⟩ := mentions_of_fails fails
    exact ⟨.inr ⟨entry, member, mentions⟩, found⟩

/-- The standard engine objects to no pattern that compiles and does not mislead the check,
and so no grammar of such patterns is refused for a construct. -/
theorem ofDocument_supported (strict : Bool) (document : GrammarDocument) :
    (∀ text scanner, Engine.standard.compile [text] = .ok scanner →
      Pattern.misleads text.toList = false → Engine.standard.unsupportedFeature text = none) ∧
    ((∀ text, document.Mentions text →
        (∃ scanner, Engine.standard.compile [text] = .ok scanner) ∧
          Pattern.misleads text.toList = false) →
      ∀ text feature,
        ofDocument .standard strict document ≠ .error (.unsupportedFeature text feature)) := by
  have supported : ∀ text scanner, Engine.standard.compile [text] = .ok scanner →
      Pattern.misleads text.toList = false → Engine.standard.unsupportedFeature text = none := by
    intro text scanner compiles honest
    obtain ⟨compiled, compiledEq⟩ := Engine.standard_compiles_iff.mp ⟨scanner, compiles⟩
    exact Pattern.unsupportedFeature_of_compile? compiledEq honest
  refine ⟨supported, fun honest text feature refused => ?_⟩
  obtain ⟨mentions, found⟩ := ofDocument_refused refused
  obtain ⟨⟨scanner, compiles⟩, textHonest⟩ := honest text mentions
  rw [supported text scanner compiles textHonest] at found
  cases found

/-! ### Patterns that look like look-arounds -/

theorem compiles_of_plainPlan? {text : String} {plan : Pattern.Plan}
    (planEq : Pattern.plainPlan? text = some plan)
    (small : plan.cost + 288 ≤ Pattern.Tally.limit) :
    ∃ scanner, Engine.standard.compile [text] = .ok scanner :=
  Engine.standard_compiles_iff.mpr ⟨_, Pattern.compile?_of_plainPlan? planEq small⟩

/-- An escaped parenthesis before a question mark, a comment with parentheses, and a span that
ends with a parenthesis in a class before what it began with. -/
def parenthesisDocument : GrammarDocument where
  scopeName := some "text.parentheses"
  name := none
  fileTypes := []
  patterns := some [{ pattern := some "\\(?=[(]" }, { pattern := some "(?x)a # (once)" },
    { opening := some "(a|\\()", closing := some "[)]\\1" }]
  repository := []

def parenthesisPlans : List (String × Pattern.Plan) :=
  [("\\(?=[(]", .seq (.repeated 0 (some 1) true (.text '(' [])) (.text '=' ['('])),
    ("(?x)a # (once)", .text 'a' []),
    ("(a|\\()", .capture 1 (.chars ⟨[(0x28, 0x28), (0x61, 0x61)]⟩)),
    ("[)]", .text ')' [])]

theorem mem_of_parenthesisDocument {text : String}
    (mentions : parenthesisDocument.Mentions text) : text ∈ parenthesisPlans.map Prod.fst := by
  have ofFlat {document : RuleDocument} (flat : document.parts = [])
      (mentions : document.Mentions text) : text ∈ document.patterns := by
    cases mentions with
    | own _ member => exact member
    | inside _ member _ =>
        rw [flat] at member
        cases member
  have template : String.ofList (Pattern.fillReferences [] [] "[)]\\1".toList) = "[)]" := by
    decide
  obtain ⟨rules, rulesEq, rule, member, mentions⟩ | ⟨entry, member, -⟩ := mentions
  · cases rulesEq
    simp only [List.mem_cons, List.not_mem_nil, or_false] at member
    rcases member with rfl | rfl | rfl
    · have own := ofFlat rfl mentions
      simp only [RuleDocument.patterns, List.mem_singleton] at own
      simp [parenthesisPlans, own]
    · have own := ofFlat rfl mentions
      simp only [RuleDocument.patterns, List.mem_singleton] at own
      simp [parenthesisPlans, own]
    · have own := ofFlat rfl mentions
      simp only [RuleDocument.patterns, Option.getD_some, template, List.mem_pair] at own
      simp only [parenthesisPlans, List.map_cons, List.mem_cons]
      exact .inr (.inr (own.imp_right .inl))
  · cases member

/-- No pattern of the grammar is refused. -/
theorem parenthesisDocument_supported :
    (∀ text, parenthesisDocument.Mentions text → Engine.standard.unsupportedFeature text = none) ∧
    ∀ strict text feature,
      ofDocument .standard strict parenthesisDocument ≠
        .error (.unsupportedFeature text feature) := by
  have planned : ∀ entry ∈ parenthesisPlans, Pattern.plainPlan? entry.1 = some entry.2 := by
    decide +kernel
  have small : ∀ entry ∈ parenthesisPlans, entry.2.cost + 288 ≤ Pattern.Tally.limit := by
    decide +kernel
  have honest : ∀ entry ∈ parenthesisPlans, Pattern.misleads entry.1.toList = false := by
    decide +kernel
  have fits : ∀ text, parenthesisDocument.Mentions text →
      (∃ scanner, Engine.standard.compile [text] = .ok scanner) ∧
        Pattern.misleads text.toList = false := by
    intro text mentions
    obtain ⟨entry, member, rfl⟩ := List.mem_map.mp (mem_of_parenthesisDocument mentions)
    exact ⟨compiles_of_plainPlan? (planned entry member) (small entry member),
      honest entry member⟩
  refine ⟨fun text mentions => ?_, fun strict => (ofDocument_supported strict _).2 fits⟩
  obtain ⟨⟨scanner, compiled⟩, textHonest⟩ := fits text mentions
  exact (ofDocument_supported true parenthesisDocument).1 text scanner compiled textHonest

def lookalikeDocument (pattern : String) : GrammarDocument where
  scopeName := some "text.lookalike"
  name := none
  fileTypes := []
  patterns := some [{ pattern := some pattern }]
  repository := []

/-- A class and a comment that the check takes for a look-around and a back-reference: the
patterns compile, and grammars with them are refused. -/
theorem lookalikes_refused :
    (∃ scanner, Engine.standard.compile ["[(?=]"] = .ok scanner) ∧
    (∃ scanner, Engine.standard.compile ["(?x)a # \\1"] = .ok scanner) ∧
    ∀ strict,
      ofDocument .standard strict (lookalikeDocument "[(?=]") =
        .error (.unsupportedFeature "[(?=]" "look-around") ∧
      ofDocument .standard strict (lookalikeDocument "(?x)a # \\1") =
        .error (.unsupportedFeature "(?x)a # \\1" "back-references") := by
  have classPlanned : Pattern.plainPlan? "[(?=]" =
      some (.chars ⟨[(0x28, 0x28), (0x3D, 0x3D), (0x3F, 0x3F)]⟩) := by
    decide +kernel
  have commentPlanned : Pattern.plainPlan? "(?x)a # \\1" = some (.text 'a' []) := by
    decide +kernel
  refine ⟨compiles_of_plainPlan? classPlanned (by decide +kernel),
    compiles_of_plainPlan? commentPlanned (by decide +kernel), fun strict => ⟨rfl, rfl⟩⟩

end Grammar

end Scopelight
