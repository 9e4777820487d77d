import Scopelight.Proofs.ClosingTemplates
import Scopelight.Proofs.RefusedGrammars

/-!
# Inert spans

A span of a loaded grammar is inert if its opening pattern does not compile, or its closing
pattern with nothing filled in.  The latter compiles if the closing pattern does so for some
match and its references stand by themselves.  Without a reference that is repeated, or that
is all there is in a class, what is left of the pattern may mean nothing.
-/

namespace Scopelight

namespace Grammar

variable {engine : Engine}

/-! ### Rules of documents -/

/-- A property that each rule has from its own document, whatever the numbers of the rules
inside it are. -/
structure FollowsShape (engine : Engine) (holds : Rule → Prop) : Prop where
  reference : ∀ target, holds (.reference target)
  group : ∀ members, holds (.group members)
  shape : ∀ {document : RuleDocument} {error? make}, document.shape engine = .ok (error?, make) →
    ∀ members, holds (make members error?.isSome)

namespace FollowsShape

variable {holds : Rule → Prop} (follows : FollowsShape engine holds)

include follows

theorem followsWalk : FollowsWalk engine fun before _ after =>
    (∀ rule ∈ before.rules, holds rule) → ∀ rule ∈ after.rules, holds rule := by
  have forallPush {rules : Array Rule} {last : Rule} (each : ∀ rule ∈ rules, holds rule)
      (lastHolds : holds last) : ∀ rule ∈ rules.push last, holds rule := by
    intro rule member
    rcases Array.mem_push.mp member with old | rfl
    · exact each rule old
    · exact lastHolds
  refine ⟨fun _ => id, fun first second each => second (first each),
    fun _ target each => forallPush each (follows.reference target), ?_⟩
  intro document error? make shaped before inner ids inside each
  obtain ⟨diagnostics, pushedEq⟩ := inner.pushChecked_eq error? (make ids)
  rw [pushedEq]
  exact forallPush (inside each) (follows.shape shaped ids)

/-- A property that rules have from their documents holds of all rules of a loaded
grammar. -/
theorem forall_ofDocument {strict : Bool} {document : GrammarDocument} {grammar : Grammar}
    (loaded : ofDocument engine strict document = .ok grammar) {id : RuleId} {rule : Rule}
    (ruleEq : grammar.rule? id = some rule) : holds rule := by
  obtain ⟨-, patterns, members, builder, last, builds⟩ := buildsBook_of_ofDocument loaded
  have rulesEq : grammar.rules = last.rules := congrArg Rulebook.rules builds.bookEq
  have membersHold : ∀ rule ∈ builder.rules, holds rule :=
    follows.followsWalk.buildRule.2 _ _ _ _ builds.membersBuilt (by simp [Builder.empty])
  have rootHolds : ∀ rule ∈ (builder.push (.group members)).2.rules, holds rule := by
    intro rule member
    rcases Array.mem_push.mp member with old | rfl
    · exact membersHold rule old
    · exact follows.group members
  refine follows.followsWalk.buildRepository builds.repositoryBuilt rootHolds rule ?_
  rw [← rulesEq]
  exact Array.mem_of_getElem? ruleEq

end FollowsShape

end Grammar

/-! ### Spans -/

/-- The closing pattern of a span with nothing filled in. -/
def SpanRule.template (rule : SpanRule) : String :=
  String.ofList (Pattern.fillReferences [] [] rule.closing.toList)

/-- The closing pattern of a span that a match has opened. -/
def SpanRule.closingAfter (rule : SpanRule) (line : List Char)
    (captures : List (Option (Nat × Nat))) : String :=
  String.ofList (Pattern.fillReferences line captures rule.closing.toList)

/-- What the document of a span says about its patterns. -/
structure SpanRule.Checked (engine : Engine) (rule : SpanRule) : Prop where
  hasReferencesEq : rule.hasReferences = Pattern.hasReferences rule.closing.toList
  inertEq : rule.inert = (Grammar.firstError? engine [rule.opening, rule.template]).isSome

namespace Grammar

variable {engine : Engine}

/-- A span is made inert if one of its patterns fails, the closing one with nothing filled
in. -/
theorem followsShape_checked (engine : Engine) :
    FollowsShape engine fun rule => ∀ span, rule = .span span → span.Checked engine where
  reference := by rintro _ _ ⟨⟩
  group := by rintro _ _ ⟨⟩
  shape := by
    intro document error? make shaped members span spanEq
    unfold RuleDocument.shape at shaped
    split at shaped
    · obtain ⟨_, -, shaped⟩ := bind_eq_ok shaped
      obtain ⟨_, -, shaped⟩ := bind_eq_ok shaped
      cases shaped
      cases spanEq
    · split at shaped
      · cases shaped
        cases spanEq
      · obtain ⟨_, -, shaped⟩ := bind_eq_ok shaped
        obtain ⟨_, -, shaped⟩ := bind_eq_ok shaped
        obtain ⟨_, -, shaped⟩ := bind_eq_ok shaped
        obtain ⟨_, -, shaped⟩ := bind_eq_ok shaped
        cases shaped
        cases spanEq
        exact ⟨rfl, rfl⟩

theorem firstError?_eq_none {patterns : List String} :
    firstError? engine patterns = none ↔
      ∀ pattern ∈ patterns, ∃ scanner, engine.compile [pattern] = .ok scanner := by
  refine ⟨firstError?_none, fun each => ?_⟩
  induction patterns with
  | nil => rfl
  | cons pattern patterns ih =>
      rw [List.forall_mem_cons] at each
      obtain ⟨⟨scanner, compiled⟩, rest⟩ := each
      rw [firstError?, compiled]
      exact ih rest

end Grammar

namespace SpanRule

variable {engine : Engine} {rule : SpanRule} {line : List Char}
  {captures : List (Option (Nat × Nat))}

theorem Checked.inert_eq_false (checked : rule.Checked engine) :
    rule.inert = false ↔ (∃ scanner, engine.compile [rule.opening] = .ok scanner) ∧
      ∃ scanner, engine.compile [rule.template] = .ok scanner := by
  rw [checked.inertEq, Option.isSome_eq_false_iff, Option.isNone_iff_eq_none,
    Grammar.firstError?_eq_none]
  simp

/-- The references of the closing pattern stand by themselves, and the pattern is not too
large with nothing filled in.  That is no matter of course: a loop around nothing has more
states than one around a character. -/
structure Checkable (rule : SpanRule) : Prop where
  freestanding : Pattern.Freestanding false (Pattern.stripAnchor rule.closing.toList).1
  fits : ∀ plan, Pattern.plan? rule.template.toList = some plan → plan.fits = true

/-- The closing pattern compiles with nothing filled in if it compiles for some match. -/
theorem Checkable.template_compiles (checkable : rule.Checkable)
    (closes : ∃ scanner,
      Engine.standard.compile [rule.closingAfter line captures] = .ok scanner) :
    ∃ scanner, Engine.standard.compile [rule.template] = .ok scanner := by
  obtain ⟨plan, means, -⟩ :=
    Pattern.compile?_eq_some_iff.mp (Engine.standard_compiles_iff.mp closes)
  rw [closingAfter, String.toList_ofList] at means
  obtain ⟨thin, thinMeans⟩ := checkable.freestanding.plan? means
  have templateMeans : Pattern.plan? rule.template.toList = some thin := by
    rwa [template, String.toList_ofList]
  exact Engine.standard_compiles_iff.mpr
    (Pattern.compile?_eq_some_iff.mpr ⟨thin, templateMeans, checkable.fits thin templateMeans⟩)

end SpanRule

namespace Grammar

/-- A span is not inert if its opening pattern compiles, and its closing pattern for some
match.  The references of the closing pattern have to stand by themselves. -/
theorem ofDocument_span_active {strict : Bool} {document : GrammarDocument} {grammar : Grammar}
    (loaded : ofDocument .standard strict document = .ok grammar) {id : RuleId}
    {rule : SpanRule} (ruleEq : grammar.rule? id = some (.span rule))
    (opens : ∃ scanner, Engine.standard.compile [rule.opening] = .ok scanner)
    (checkable : rule.hasReferences = true → rule.Checkable) (line : List Char)
    (captures : List (Option (Nat × Nat)))
    (closes : ∃ scanner,
      Engine.standard.compile [rule.closingAfter line captures] = .ok scanner) :
    rule.inert = false := by
  have checked : rule.Checked .standard :=
    (followsShape_checked .standard).forall_ofDocument loaded ruleEq rule rfl
  refine checked.inert_eq_false.mpr ⟨opens, ?_⟩
  cases refers : rule.hasReferences with
  | true => exact (checkable refers).template_compiles closes
  | false =>
      rw [checked.hasReferencesEq] at refers
      rw [SpanRule.closingAfter, Pattern.fillReferences_of_not_hasReferences refers] at closes
      rwa [SpanRule.template, Pattern.fillReferences_of_not_hasReferences refers]

end Grammar

/-! ### Single spans -/

/-- A grammar of a single span. -/
def spanDocument (opening closing : String) : GrammarDocument where
  scopeName := some "text.span"
  name := none
  fileTypes := []
  patterns := some [{ opening := some opening, closing := some closing }]
  repository := []

def spanRule (opening closing : String) (inert : Bool) : SpanRule where
  name := []
  contentName := []
  opening := opening
  closing := closing
  openingCaptures := .empty
  closingCaptures := .empty
  members := []
  closingLast := false
  allowEmptySpan := true
  hasReferences := Pattern.hasReferences closing.toList
  inert := inert

namespace Grammar

/-- A grammar of a single span loads if the check has no objections to its patterns. -/
theorem spanDocument_loads (opening closing : String) (strict : Bool)
    (openingSupported : requireSupported .standard opening = .ok ())
    (templateSupported : requireSupported .standard
      (String.ofList (Pattern.fillReferences [] [] closing.toList)) = .ok ()) :
    ∃ grammar inert, ofDocument .standard strict (spanDocument opening closing) = .ok grammar ∧
      grammar.rule? 0 = some (.span (spanRule opening closing inert)) := by
  let template := String.ofList (Pattern.fillReferences [] [] closing.toList)
  let error? := firstError? .standard [opening, template]
  have shaped : RuleDocument.shape .standard { opening := some opening, closing := some closing } =
      .ok (error?, fun members inert =>
        .span { spanRule opening closing inert with members }) := by
    simp only [RuleDocument.shape, Option.getD_some]
    rw [openingSupported, templateSupported]
    rfl
  obtain ⟨diagnostics, pushed⟩ :=
    Builder.empty.pushChecked_eq error? fun inert => .span (spanRule opening closing inert)
  have built : buildRules .standard [{ opening := some opening, closing := some closing }] .empty =
      .ok ([0], ⟨#[.span (spanRule opening closing error?.isSome)], diagnostics, []⟩) :=
    buildRules_cons_eq_ok.mpr ⟨0, _, [],
      (buildRule_of_parts rfl rfl shaped).trans (congrArg Except.ok pushed), rfl, rfl⟩
  have named : scopeNameOf (spanDocument opening closing) = .ok ⟨"text.span"⟩ := rfl
  let rules : Array Rule := #[.span (spanRule opening closing error?.isSome), .group [0]]
  have builds : BuildsBook .standard strict (spanDocument opening closing) _
      ⟨.standard, rules, 1, []⟩ [0] _ ⟨rules, diagnostics, []⟩ :=
    ⟨rfl, built, rfl, rfl, fun _ target member => absurd member List.not_mem_nil⟩
  obtain ⟨grammar, loaded, bookEq, -⟩ := ofDocument_of_buildsBook named builds
  refine ⟨grammar, error?.isSome, loaded, ?_⟩
  rw [bookEq]
  rfl

/-- The name of a closing tag, what stands behind it, and space. -/
def closingTag : String :=
  "</(\\1)\\b[^>]*? *>"

/-- The name that a closing tag refers to stands by itself. -/
theorem freestanding_closingTag :
    Pattern.Freestanding false (Pattern.stripAnchor closingTag.toList).1 := by
  have space : Pattern.Freestanding false [' ', '*', '>'] :=
    .char rfl (by decide) (by decide) (by decide) <|
      .sign rfl (by decide) (by decide) <|
        .char rfl (by decide) (by decide) (by decide) .nil
  have others : Pattern.Freestanding false
      ('[' :: ['^', '>', ']'] ++ ('*' :: ['?'] ++ [' ', '*', '>'])) :=
    .bracketed rfl (Pattern.kept_of_plain (by decide)) <|
      .repetition rfl (Pattern.takes_lazySign (by decide)) (Pattern.kept_of_plain (by decide))
        (List.nil_subset _) Pattern.clear_nil space
  have boundary : Pattern.Freestanding false
      ('\\' :: ['b'] ++ ['[', '^', '>', ']', '*', '?', ' ', '*', '>']) :=
    .atom rfl (by decide) (fun fuel _ => Pattern.takes_boundary fuel) (Pattern.kept_escape rfl)
      (by decide) (by decide) others
  have name : Pattern.Freestanding false ('(' :: [] ++ (['\\', '1'] ++
      ')' :: ['\\', 'b', '[', '^', '>', ']', '*', '?', ' ', '*', '>'])) :=
    .capture Pattern.opens_parenthesis (Pattern.kept_of_plain (by decide)) (by decide)
      (by decide) (.reference rfl (by decide) .nil) boundary
  have stripped : (Pattern.stripAnchor closingTag.toList).1 = '<' :: '/' ::
      ['(', '\\', '1', ')', '\\', 'b', '[', '^', '>', ']', '*', '?', ' ', '*', '>'] := by
    decide +kernel
  rw [stripped]
  exact .char rfl (by decide) (by decide) (by decide) <|
    .char rfl (by decide) (by decide) (by decide) name

def closingTagPlan (name : Pattern.Plan) : Pattern.Plan :=
  .seq (.text '<' ['/']) <| .seq (.capture 1 name) <| .seq (.look (.wordBoundary true)) <|
    .seq (.repeated 0 none false (.chars ⟨[(0, 0x3D), (0x3F, 0x10FFFF)]⟩)) <|
      .seq (.repeated 0 none true (.text ' ' [])) (.text '>' [])

/-- A span from a tag to the closing tag with the same name is not inert. -/
theorem spanDocument_tag_active :
    ∃ grammar rule,
      ofDocument .standard true (spanDocument "<(a|b)" closingTag) = .ok grammar ∧
        grammar.rule? 0 = some (.span rule) ∧ rule.closing = closingTag ∧
        rule.inert = false := by
  obtain ⟨grammar, inert, loaded, ruleEq⟩ :=
    spanDocument_loads "<(a|b)" closingTag true rfl rfl
  let rule := spanRule "<(a|b)" closingTag inert
  have opens : ∃ scanner, Engine.standard.compile [rule.opening] = .ok scanner := by
    have planned : Pattern.plainPlan? "<(a|b)" =
        some (.seq (.text '<' []) (.capture 1 (.chars ⟨[(0x61, 0x62)]⟩))) := by
      decide +kernel
    exact compiles_of_plainPlan? planned (by decide +kernel)
  have closes : ∃ scanner, Engine.standard.compile
      [rule.closingAfter ['<', 'a'] [some (0, 2), some (1, 2)]] = .ok scanner := by
    have filled : rule.closingAfter ['<', 'a'] [some (0, 2), some (1, 2)] =
        "</(a)\\b[^>]*? *>" := by
      change String.ofList (Pattern.fillReferences _ _ closingTag.toList) = _
      decide +kernel
    have planned : Pattern.plainPlan? "</(a)\\b[^>]*? *>" =
        some (closingTagPlan (.text 'a' [])) := by
      decide +kernel
    rw [filled]
    exact compiles_of_plainPlan? planned (by decide +kernel)
  have checkable : rule.Checkable := by
    refine ⟨freestanding_closingTag, fun plan means => ?_⟩
    have planned : Pattern.plan? rule.template.toList = some (closingTagPlan .empty) := by
      change Pattern.plan? (String.ofList (Pattern.fillReferences [] [] closingTag.toList)).toList =
        some (closingTagPlan .empty)
      decide +kernel
    cases means.symm.trans planned
    exact Pattern.Plan.fits_of_cost_le (by decide +kernel)
  exact ⟨grammar, rule, loaded, ruleEq, rfl,
    ofDocument_span_active loaded ruleEq opens (fun _ => checkable) _ _ closes⟩

/-- A span is inert if its closing pattern does not compile with nothing filled in. -/
theorem spanDocument_inert (opening closing : String)
    (openingSupported : requireSupported .standard opening = .ok ())
    (templateSupported : requireSupported .standard
      (String.ofList (Pattern.fillReferences [] [] closing.toList)) = .ok ())
    (refused : Pattern.compile?
      (String.ofList (Pattern.fillReferences [] [] closing.toList)) = none) :
    ∃ grammar, ofDocument .standard true (spanDocument opening closing) = .ok grammar ∧
      grammar.rule? 0 = some (.span (spanRule opening closing true)) := by
  obtain ⟨grammar, inert, loaded, ruleEq⟩ :=
    spanDocument_loads opening closing true openingSupported templateSupported
  have checked : (spanRule opening closing inert).Checked .standard :=
    (followsShape_checked .standard).forall_ofDocument loaded ruleEq _ rfl
  refine ⟨grammar, loaded, ?_⟩
  cases inert with
  | true => exact ruleEq
  | false =>
      obtain ⟨-, compiles⟩ := checked.inert_eq_false.mp rfl
      obtain ⟨compiled, compiledEq⟩ := Engine.standard_compiles_iff.mp compiles
      cases refused.symm.trans compiledEq

/-- Spans that are inert although their closing patterns compile once they are filled in from
a match: a repeated reference, and one in a class. -/
theorem spanDocument_repeated_inert : ∃ scanner found,
    Engine.standard.compile ["(a)"] = .ok scanner ∧
    scanner.find ['a', 'b', 'a'] 0 none = some found ∧
    ∀ closing ∈ ["\\1+", "[\\1]"], ∃ grammar rule,
      ofDocument .standard true (spanDocument "(a)" closing) = .ok grammar ∧
        grammar.rule? 0 = some (.span rule) ∧ rule.opening = "(a)" ∧ rule.closing = closing ∧
        (∃ scanner, Engine.standard.compile
          [rule.closingAfter ['a', 'b', 'a'] found.captures] = .ok scanner) ∧
        rule.inert = true := by
  have foundFirst : ((Engine.standard.compile ["(a)"]).toOption.any fun scanner =>
      (scanner.find ['a', 'b', 'a'] 0 none).any fun found =>
        decide (found.captures = [some (0, 1), some (0, 1)])) = true := by
    decide +kernel
  obtain ⟨scanner, opens, foundFirst⟩ := exists_ok_of_any foundFirst
  obtain ⟨found, foundEq, capturesEq⟩ := (Option.any_eq_true _ _).mp foundFirst
  refine ⟨scanner, found, opens, foundEq, ?_⟩
  rw [of_decide_eq_true capturesEq]
  simp only [List.forall_mem_cons, List.not_mem_nil, false_implies, implies_true, and_true]
  constructor
  · obtain ⟨grammar, loaded, ruleEq⟩ := spanDocument_inert "(a)" "\\1+" rfl rfl rfl
    have filled : (spanRule "(a)" "\\1+" true).closingAfter ['a', 'b', 'a']
        [some (0, 1), some (0, 1)] = "a+" := by
      decide +kernel
    have planned : Pattern.plainPlan? "a+" = some (.repeated 1 none true (.text 'a' [])) := by
      decide +kernel
    refine ⟨grammar, _, loaded, ruleEq, rfl, rfl, ?_, rfl⟩
    rw [filled]
    exact compiles_of_plainPlan? planned (by decide +kernel)
  · obtain ⟨grammar, loaded, ruleEq⟩ := spanDocument_inert "(a)" "[\\1]" rfl rfl rfl
    have filled : (spanRule "(a)" "[\\1]" true).closingAfter ['a', 'b', 'a']
        [some (0, 1), some (0, 1)] = "[a]" := by
      decide +kernel
    have planned : Pattern.plainPlan? "[a]" = some (.text 'a' []) := by
      decide +kernel
    refine ⟨grammar, _, loaded, ruleEq, rfl, rfl, ?_, rfl⟩
    rw [filled]
    exact compiles_of_plainPlan? planned (by decide +kernel)

end Grammar

end Scopelight
