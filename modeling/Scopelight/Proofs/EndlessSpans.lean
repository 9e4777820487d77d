import Scopelight.Proofs.LiteralClosing
import Scopelight.Proofs.RuleForest

/-!
# Spans without an end

A span that is written without a closing pattern gets one in its place, which is the
noncharacter U+FFFF taken literally.  As long as this character does not come in a line, such
a span stays open, and so do all spans around it: only the innermost span can be closed, and
no search for the end of this one finds anything.
-/

namespace Scopelight

namespace RuleDocument

/-- A span that is written without a closing pattern. -/
structure Endless (part : RuleDocument) : Prop where
  noReference : part.reference = none
  noPattern : part.pattern = none
  opens : part.opening.isSome = true
  noClosing : part.closing = none

/-- A part of a rule is the rule, or a part of a rule inside it. -/
inductive PartOf (part : RuleDocument) : RuleDocument → Prop
  | whole : PartOf part part
  | inside {document inner : RuleDocument} (noReference : document.reference = none)
      (member : inner ∈ document.parts) (held : PartOf part inner) : PartOf part document

open Grammar in
/-- The rule of a span without a closing pattern has the pattern that takes its place. -/
theorem Endless.rule_of_shape {engine : Engine} {part : RuleDocument} (endless : part.Endless)
    {error? : Option CompileError} {make : List RuleId → Bool → Rule}
    (shaped : part.shape engine = .ok (error?, make)) (ids : List RuleId) (inert : Bool) :
    ∃ rule : SpanRule, make ids inert = .span rule ∧ rule.closing = neverCloses ∧
      rule.hasReferences = false := by
  obtain ⟨opening, openingEq⟩ := Option.isSome_iff_exists.mp endless.opens
  simp only [shape, endless.noPattern, openingEq, endless.noClosing] at shaped
  obtain ⟨_, -, shaped⟩ := bind_eq_ok shaped
  obtain ⟨_, -, shaped⟩ := bind_eq_ok shaped
  obtain ⟨_, -, shaped⟩ := bind_eq_ok shaped
  obtain ⟨_, -, shaped⟩ := bind_eq_ok shaped
  cases shaped
  have noReferences : Pattern.hasReferences neverCloses.toList = false := by decide
  exact ⟨_, rfl, rfl, noReferences⟩

end RuleDocument

/-- A part of a rule of a grammar. -/
def GrammarDocument.HasPart (document : GrammarDocument) (part : RuleDocument) : Prop :=
  (∃ rules, document.patterns = some rules ∧ ∃ rule ∈ rules, part.PartOf rule) ∨
    ∃ entry ∈ document.repository, part.PartOf entry.2

namespace Grammar

variable {engine : Engine} {strict : Bool} {document : GrammarDocument} {grammar : Grammar}
  {part : RuleDocument} {id : RuleId}

/-! ### The number of a part -/

/-- A part of the document of a grammar gets a number in the walk over the document, and the
rules numbered up to then are those of the grammar. -/
def Numbers (grammar : Grammar) (part : RuleDocument) (id : RuleId) : Prop :=
  ∃ builder next, buildRule grammar.engine part builder = .ok (id, next) ∧
    next.rules.toList <+: grammar.rules.toList

/-- The walk adds rules behind those that there are. -/
theorem followsWalk_behind (engine : Engine) :
    FollowsWalk engine fun before _ after => before.rules.toList <+: after.rules.toList where
  refl builder := List.prefix_refl builder.rules.toList
  trans first second := first.trans second
  reference builder target := by
    simp [Builder.push]
  around := by
    intro document error? make _ before inner ids kept
    obtain ⟨diagnostics, pushedEq⟩ := inner.pushChecked_eq error? (make ids)
    rw [pushedEq]
    refine kept.trans ?_
    simp

theorem exists_built_of_mem {rules : List RuleDocument} {rule : RuleDocument}
    (member : rule ∈ rules) {builder next : Builder} {ids : List RuleId}
    (built : buildRules engine rules builder = .ok (ids, next)) :
    ∃ before id after, buildRule engine rule before = .ok (id, after) ∧
      after.rules.toList <+: next.rules.toList := by
  induction rules generalizing builder ids with
  | nil => cases member
  | cons first rules ih =>
      obtain ⟨id, inner, later, firstBuilt, restBuilt, rfl⟩ := buildRules_cons_eq_ok.mp built
      rcases List.mem_cons.mp member with rfl | behind
      · exact ⟨builder, id, inner, firstBuilt,
          (followsWalk_behind engine).buildRule.2 _ _ _ _ restBuilt⟩
      · exact ih behind restBuilt

theorem exists_built_of_entry {documents : List (String × RuleDocument)}
    {entry : String × RuleDocument} (member : entry ∈ documents) {builder next : Builder}
    {entries : List (String × RuleId)}
    (built : buildRepository engine documents builder = .ok (entries, next)) :
    ∃ before id after, buildRule engine entry.2 before = .ok (id, after) ∧
      after.rules.toList <+: next.rules.toList := by
  induction documents generalizing builder entries with
  | nil => cases member
  | cons first documents ih =>
      obtain ⟨id, inner, later, firstBuilt, restBuilt, rfl⟩ :=
        buildRepository_cons_eq_ok.mp built
      rcases List.mem_cons.mp member with rfl | behind
      · exact ⟨builder, id, inner, firstBuilt,
          (followsWalk_behind engine).buildRepository restBuilt⟩
      · exact ih behind restBuilt

/-- The parts of a rule are numbered before the rule, by induction on where they stand. -/
theorem exists_built_of_partOf {rule : RuleDocument} (held : part.PartOf rule)
    {builder next : Builder} (built : buildRule engine rule builder = .ok (id, next)) :
    ∃ before id after, buildRule engine part before = .ok (id, after) ∧
      after.rules.toList <+: next.rules.toList := by
  induction held generalizing builder id next with
  | whole => exact ⟨builder, id, next, built, List.prefix_refl _⟩
  | inside noReference member _ ih =>
      obtain ⟨ids, inner, error?, make, partsBuilt, -, pushed⟩ :=
        buildRule_ok noReference built
      obtain ⟨before, own, after, innerBuilt, kept⟩ := exists_built_of_mem member partsBuilt
      obtain ⟨first, place, last, partBuilt, partKept⟩ := ih innerBuilt
      refine ⟨first, place, last, partBuilt, (partKept.trans kept).trans ?_⟩
      obtain ⟨diagnostics, pushedEq⟩ := inner.pushChecked_eq error? (make ids)
      obtain ⟨-, rfl⟩ := Prod.mk.inj (pushed.trans pushedEq)
      simp

/-- Every part of the document of a loaded grammar has a number. -/
theorem exists_numbers (loaded : ofDocument engine strict document = .ok grammar)
    (held : document.HasPart part) : ∃ id, grammar.Numbers part id := by
  obtain ⟨-, patterns, members, builder, last, builds⟩ := buildsBook_of_ofDocument loaded
  have engineEq : grammar.engine = engine := congrArg Rulebook.engine builds.bookEq
  have rulesEq : grammar.rules = last.rules := congrArg Rulebook.rules builds.bookEq
  have aroundKept := (followsWalk_behind engine).buildRepository builds.repositoryBuilt
  have rootKept : builder.rules.toList <+: last.rules.toList := by
    refine List.IsPrefix.trans ?_ aroundKept
    simp [Builder.push]
  have ruleBuilt : ∃ rule before id after, part.PartOf rule ∧
      buildRule engine rule before = .ok (id, after) ∧
      after.rules.toList <+: last.rules.toList := by
    rcases held with ⟨rules, rulesEq, rule, member, held⟩ | ⟨entry, member, held⟩
    · obtain rfl := Option.some.inj (builds.patternsEq.symm.trans rulesEq)
      obtain ⟨before, id, after, built, kept⟩ := exists_built_of_mem member builds.membersBuilt
      exact ⟨rule, before, id, after, held, built, kept.trans rootKept⟩
    · obtain ⟨before, id, after, built, kept⟩ :=
        exists_built_of_entry member builds.repositoryBuilt
      exact ⟨entry.2, before, id, after, held, built, kept⟩
  obtain ⟨rule, before, id, after, held, built, kept⟩ := ruleBuilt
  obtain ⟨first, place, next, partBuilt, partKept⟩ := exists_built_of_partOf held built
  exact ⟨place, first, next, engineEq ▸ partBuilt, rulesEq ▸ partKept.trans kept⟩

/-- A span without a closing pattern has the pattern that takes its place. -/
theorem Numbers.rule_eq (numbers : grammar.Numbers part id) (endless : part.Endless) :
    ∃ rule : SpanRule, grammar.rule? id = some (.span rule) ∧ rule.closing = neverCloses ∧
      rule.hasReferences = false := by
  obtain ⟨builder, next, built, kept⟩ := numbers
  obtain ⟨ids, inner, error?, make, -, shaped, pushed⟩ :=
    buildRule_ok endless.noReference built
  obtain ⟨rule, ruleEq, closingEq, noReferences⟩ :=
    endless.rule_of_shape shaped ids error?.isSome
  obtain ⟨diagnostics, pushedEq⟩ := inner.pushChecked_eq error? (make ids)
  obtain ⟨rfl, rfl⟩ := Prod.mk.inj (pushed.trans pushedEq)
  refine ⟨rule, ?_, closingEq, noReferences⟩
  obtain ⟨later, rulesEq⟩ := kept
  rw [Rulebook.rule?, ← Array.getElem?_toList, ← rulesEq]
  simp [ruleEq]

/-! ### The search for the end -/

/-- A frame of a span that only the character U+FFFF closes. -/
structure NeverCloses (grammar : Grammar) (frame : Frame) : Prop where
  span : ∃ rule, grammar.rule? frame.rule = some (.span rule) ∧ rule.closing = neverCloses
  unfilled : frame.closing = none

theorem compile?_neverCloses :
    Pattern.compile? neverCloses = some (.ofPlan (.ofText [Char.ofNat 0xFFFF]) false) := by
  have fits : (Pattern.Plan.ofText [Char.ofNat 0xFFFF]).fits = true := by decide +kernel
  have quoted : neverCloses = String.ofList (Pattern.quote [Char.ofNat 0xFFFF]) := by
    decide +kernel
  rw [quoted, Pattern.compile?_quote fits]

theorem NeverCloses.closingScanner?_eq_some {frame : Frame} (never : grammar.NeverCloses frame)
    (alike : grammar.engine.compile = Engine.standard.compile) {scanner : Scanner}
    (scannerEq : grammar.closingScanner? frame = some scanner) :
    scanner = Pattern.scanner [.ofPlan (.ofText [Char.ofNat 0xFFFF]) false] := by
  obtain ⟨rule, ruleEq, closingEq⟩ := never.span
  simp only [closingScanner?, never.unfilled] at scannerEq
  obtain ⟨context, contextEq, closingFound⟩ := Option.bind_eq_some_iff.mp scannerEq
  rw [context?_eq] at contextEq
  split at contextEq
  · obtain rfl := Option.some.inj contextEq
    simp only [Rulebook.context, Rulebook.closingScanner?, ruleEq] at closingFound
    split at closingFound
    · cases closingFound
    · rw [closingEq, alike, standard_compile_singleton, compile?_neverCloses] at closingFound
      exact (Option.some.inj closingFound).symm
  · cases contextEq

/-- On a line without the character the search for the end of the span finds nothing. -/
theorem NeverCloses.nextClose?_eq_none {frame : Frame} (never : grammar.NeverCloses frame)
    (alike : grammar.engine.compile = Engine.standard.compile) {line : List Char}
    (unused : Char.ofNat 0xFFFF ∉ line) (opening : Option Opening) (position : Nat)
    (anchor : Option Nat) : grammar.nextClose? ⟨frame, opening⟩ line position anchor = none := by
  obtain ⟨rule, ruleEq, -⟩ := never.span
  rw [nextClose?, ruleEq]
  cases scannerEq : grammar.closingScanner? frame with
  | none => rfl
  | some scanner =>
      obtain rfl := never.closingScanner?_eq_some alike scannerEq
      refine Option.eq_none_iff_forall_ne_some.mpr fun found closeEq => ?_
      obtain ⟨origin, foundEq⟩ := searchClose?_found closeEq
      rcases Pattern.scanner_singleton (.ofPlan (.ofText [Char.ofNat 0xFFFF]) false) line origin
        anchor with ⟨absent, -⟩ | ⟨accepted, -, admits, -⟩
      · rw [absent] at foundEq
        cases foundEq
      · obtain ⟨-, before, after, lineEq, -⟩ := admits.occurs (List.cons_ne_nil _ _)
        refine unused ?_
        rw [lineEq]
        simp

/-! ### Runs -/

/-- A step leaves a span without an end open, and all spans around it. -/
theorem NeverCloses.step_keeps {frame : Frame} {below : List Frame}
    (never : grammar.NeverCloses frame)
    (alike : grammar.engine.compile = Engine.standard.compile) {line : List Char}
    (unused : Char.ofNat 0xFFFF ∉ line) {scan : Scan}
    (stillOpen : frame :: below <:+ scan.stack.map OpenFrame.frame) :
    (grammar.step line scan).Keeps
      (fun next => frame :: below <:+ next.stack.map OpenFrame.frame)
      (fun stack _ => frame :: below <:+ stack.map OpenFrame.frame) := by
  have turn : Turn grammar line scan (grammar.step line scan) := step_turn scan
  generalize grammar.step line scan = outcome at turn
  cases turn with
  | close found top outer upcoming stackEq =>
      rw [stackEq, List.map_cons] at stillOpen
      rcases List.suffix_cons_iff.mp stillOpen with innermost | around
      · -- The span would be the innermost one, and its end would have been found.
        obtain ⟨rfl, -⟩ := List.cons.inj innermost
        rcases upcoming?_cases upcoming with ⟨_, _, absurd, -⟩ | ⟨other, own, -, ownEq, foundEq⟩
        · cases absurd
        · rw [stackEq] at ownEq
          obtain rfl := Option.some.inj ownEq
          rw [never.nextClose?_eq_none alike unused] at foundEq
          cases foundEq
      · exact around
  | opens => exact stillOpen.trans (List.suffix_cons _ _)
  | exhausted => exact stillOpen
  | refused => exact stillOpen
  | stuckClose => exact stillOpen
  | stuckSingle => exact stillOpen
  | pass => exact stillOpen
  | reopened => exact stillOpen
  | unfit => exact stillOpen

theorem NeverCloses.endState_keeps {frame : Frame} {below : List Frame}
    (never : grammar.NeverCloses frame)
    (alike : grammar.engine.compile = Engine.standard.compile) {line : List Char}
    (unused : Char.ofNat 0xFFFF ∉ line) {state : State}
    (stillOpen : frame :: below <:+ state.stack) :
    frame :: below <:+ (grammar.tokenizeLine line state).endState.stack := by
  have framesEq : (Scan.start state).stack.map OpenFrame.frame = state.stack := by
    simp [Scan.start, Function.comp_def]
  have started : frame :: below <:+ (Scan.start state).stack.map OpenFrame.frame :=
    framesEq ▸ stillOpen
  have ended := runSteps_keeps (fun scan holds => never.step_keeps alike unused holds)
    (fun scan holds => holds) (stepLimit line state) started
  exact ended

/-- A span of a grammar that is written without a closing pattern stays open.  Once a frame
of its rule is in a state, it is there after all further lines, and so are the frames around
it, as long as no line has the character U+FFFF in it. -/
theorem endless_stays_open (loaded : ofDocument engine strict document = .ok grammar)
    (alike : engine.compile = Engine.standard.compile) (held : document.HasPart part)
    (endless : part.Endless) :
    (∃ id, grammar.Numbers part id) ∧
      ∀ id, grammar.Numbers part id → ∀ (earlier : List (List Char)) (frame : Frame)
        (below : List Frame), frame.rule = id →
        frame :: below <:+ (grammar.stateFrom .initial earlier).stack →
        ∀ lines : List (List Char), (∀ line ∈ lines, Char.ofNat 0xFFFF ∉ line) →
          frame :: below <:+
            (grammar.stateFrom (grammar.stateFrom .initial earlier) lines).stack := by
  refine ⟨exists_numbers loaded held, ?_⟩
  rintro _ numbers earlier frame below rfl stillOpen lines unused
  have engineEq : grammar.engine = engine := (ofDocument_compiles loaded).1
  rw [← engineEq] at alike
  have never : grammar.NeverCloses frame := by
    obtain ⟨rule, ruleEq, closingEq, noReferences⟩ := numbers.rule_eq endless
    refine ⟨⟨rule, ruleEq, closingEq⟩, ?_⟩
    -- The closing pattern of the rule refers to no group, so nothing has been filled in.
    have member := stillOpen.subset List.mem_cons_self
    obtain ⟨around, own, fits⟩ := (stateFrom_wellFormed earlier).exists_fits member
    obtain rfl : rule = own := by simpa [ruleEq] using fits.ruleEq
    have unfilled := mt fits.closingIff.mp (by simp [noReferences])
    exact Option.not_isSome_iff_eq_none.mp unfilled
  induction lines using List.reverseRecOn with
  | nil => exact stillOpen
  | append_singleton lines line ih =>
      rw [stateFrom_concat]
      refine never.endState_keeps alike (unused line (by simp)) (ih fun other member => ?_)
      exact unused other (List.mem_append_left _ member)

/-- A span without an end, inside which it can start again. -/
def openPart : RuleDocument where
  name := some "open"
  opening := some "a"
  members := [{ reference := some "$self" }]

def openDocument : GrammarDocument where
  scopeName := some "source.open"
  name := none
  fileTypes := []
  patterns := some [openPart]
  repository := []

def onlyFrame : Frame where
  rule := 1
  nameScopes := [⟨"source.open"⟩, ⟨"open"⟩]
  contentScopes := [⟨"source.open"⟩, ⟨"open"⟩]
  closing := none
  openedAtLineEnd := true

/-- The span stays open over a line on which it starts again inside. -/
theorem openDocument_stays_open :
    ∃ grammar, ofDocument .standard true openDocument = .ok grammar ∧
      grammar.Numbers openPart 1 ∧
      grammar.stateFrom .initial [['a']] = ⟨[onlyFrame]⟩ ∧
      [onlyFrame] <:+
        (grammar.stateFrom (grammar.stateFrom .initial [['a']]) [['b'], ['a']]).stack := by
  have evaluated : ((ofDocument .standard true openDocument).toOption.any fun grammar =>
      (buildRule .standard openPart .empty).toOption.any fun built =>
        decide (built.1 = 1 ∧ built.2.rules.toList <+: grammar.rules.toList ∧
          grammar.stateFrom .initial [['a']] = ⟨[onlyFrame]⟩)) = true := by
    decide +kernel
  obtain ⟨grammar, loaded, checked⟩ := exists_ok_of_any evaluated
  obtain ⟨⟨id, next⟩, built, checked⟩ := exists_ok_of_any checked
  obtain ⟨rfl, kept, stateEq⟩ := of_decide_eq_true checked
  have engineEq : grammar.engine = .standard := (ofDocument_compiles loaded).1
  have numbers : grammar.Numbers openPart 1 := ⟨.empty, next, engineEq ▸ built, kept⟩
  have stays := (endless_stays_open loaded rfl
    (.inl ⟨[openPart], rfl, openPart, List.mem_cons_self, .whole⟩) ⟨rfl, rfl, rfl, rfl⟩).2
    1 numbers [['a']] onlyFrame [] rfl (stateEq ▸ List.suffix_refl _) [['b'], ['a']]
    (by decide)
  exact ⟨grammar, loaded, numbers, stateEq, stays⟩

/-- A line with the character U+FFFF closes the span. -/
theorem openDocument_closed :
    ∃ grammar, ofDocument .standard true openDocument = .ok grammar ∧
      grammar.stateFrom .initial [['a']] = ⟨[onlyFrame]⟩ ∧
      grammar.stateFrom ⟨[onlyFrame]⟩ [[Char.ofNat 0xFFFF]] = .initial := by
  have evaluated : ((ofDocument .standard true openDocument).toOption.any fun grammar =>
      decide (grammar.stateFrom .initial [['a']] = ⟨[onlyFrame]⟩ ∧
        grammar.stateFrom ⟨[onlyFrame]⟩ [[Char.ofNat 0xFFFF]] = .initial)) = true := by
    decide +kernel
  obtain ⟨grammar, loaded, checked⟩ := exists_ok_of_any evaluated
  exact ⟨grammar, loaded, of_decide_eq_true checked⟩

end Grammar

end Scopelight
