import Scopelight.Proofs.ClassifyingRules
import Scopelight.Proofs.OpenSpans

/-!
# Classified text

With rules that classify their text, every step of a line takes something up to its end or
leaves a rest that is blank wherever its scopes say nothing of it.  So a line is scanned to
its end, and its tokens are classified; and so are those of all lines after it.
-/

namespace Scopelight

namespace Grammar

open Pattern

variable {structural : Scope → Bool} {grammar : Grammar} {line : List Char}

/-- What a scan keeps: all text up to its position is classified. -/
structure Swept (structural : Scope → Bool) (grammar : Grammar) (line : List Char)
    (scan : Scan) : Prop where
  wellFormed : grammar.WellFormed (scan.stack.map OpenFrame.frame)
  tiled : scan.pieces.Tiled
  classified : Classified structural line scan.pieces.tokens
  coveredEq : scan.pieces.covered = scan.position
  boundary : Boundary line scan.position

/-- A line has come to its end: its tokens tile it and are classified, and the frames fit one
inside another. -/
structure EndsClassified (structural : Scope → Bool) (grammar : Grammar) (line : List Char)
    (frames : List Frame) (tokens : List Token) : Prop where
  wellFormed : grammar.WellFormed frames
  tiling : Tiling tokens (Text.byteLength line)
  classified : Classified structural line tokens

/-- Every character but white space lies in a token that says something of it. -/
theorem EndsClassified.exists_token {frames : List Frame} {tokens : List Token}
    (ends : EndsClassified structural grammar line frames tokens) {before after : List Char}
    {c : Char} (lineEq : line = before ++ c :: after) (notWhite : Unicode.isWhite c = false) :
    ∃ token ∈ tokens, token.start ≤ Text.byteLength before ∧
      Text.byteLength before < token.stop ∧
      ∃ scope, token.innermost? = some scope ∧ structural scope = false := by
  have sizePos := c.utf8Size_pos
  have inside : Text.byteLength before < Text.byteLength line := by
    rw [lineEq, Text.byteLength_append, Text.byteLength_cons]
    omega
  obtain ⟨token, member, startLe, stopLt⟩ := ends.tiling.exists_token inside
  refine ⟨token, member, startLe, stopLt, ?_⟩
  have telling : ¬ Vague structural token.scopes := fun vague => by
    rw [ends.classified token member vague before c after lineEq (by omega)] at notWhite
    cases notWhite
  cases innermostEq : token.scopes.getLast? with
  | none => exact absurd (by rw [Vague, innermostEq]; rfl) telling
  | some scope =>
      rw [Vague, innermostEq, Option.all_some, Bool.not_eq_true] at telling
      exact ⟨scope, innermostEq, telling⟩

/-- Each match inside a context that is left vague starts before any text that is not white. -/
theorem blank_before (classifies : grammar.Classifies structural) {context : RuleId}
    (vague : context = grammar.root ∨
      ∃ rule, grammar.rule? context = some rule ∧ rule.leavesVague structural = true)
    {position stop : Nat} {anchor : Option Nat} (boundary : Boundary line position)
    (first : ∀ id started, grammar.MayStart context line position anchor id started →
      stop ≤ started.start) :
    BlankBetween line position stop := by
  obtain ⟨id, member, patternEq⟩ := classifies.catches vague
  obtain ⟨index, indexEq⟩ := List.getElem?_of_mem member
  refine .of_first boundary fun before c after lineEq reached notWhite => ?_
  obtain ⟨origin, originMember, restEq, offsetEq⟩ := exists_mem_positions lineEq
  have takes : (Plan.chars .notSpaces).Takes ⟨origin, []⟩ ⟨origin.after c after, []⟩ :=
    ⟨c, CharSet.contains_notSpaces notWhite, Cursor.passes_singleton restEq, rfl⟩
  obtain ⟨accepted, startEq, admits⟩ : ∃ accepted, accepted.start = origin.offset ∧
      (Compiled.ofPlan (.chars .notSpaces) false).Admits line position anchor accepted :=
    Compiled.exists_admits_of_takes originMember (offsetEq ▸ reached) takes
  have starts : grammar.MayStart context line position anchor id
      ((Compiled.ofPlan (.chars .notSpaces) false).report index accepted) :=
    ⟨indexEq, _, accepted, patternEq, admits, rfl⟩
  have stopLe := first id _ starts
  rwa [Compiled.report, startEq, offsetEq] at stopLe

/-- The context of a scan is left vague where its scopes say nothing of the text. -/
theorem leavesVague_of_vague {stack : List OpenFrame}
    (wellFormed : grammar.WellFormed (stack.map OpenFrame.frame))
    (vague : Vague structural (Scan.scopesInside grammar.rootScopes stack)) :
    grammar.contextOf stack = grammar.root ∨
      ∃ rule, grammar.rule? (grammar.contextOf stack) = some rule ∧
        rule.leavesVague structural = true := by
  cases stack with
  | nil => exact .inl rfl
  | cons top outer =>
      cases wellFormed with
      | @cons _ _ rule fits _ =>
          refine .inr ⟨.span rule, fits.ruleEq, ?_⟩
          by_contra telling
          have notVague := not_vague_append (of_decide_eq_false (Bool.eq_false_iff.mpr telling))
            (grammar.scopesWithin (outer.map OpenFrame.frame))
          rw [← List.append_assoc, ← fits.nameScopesEq, ← fits.contentScopesEq] at notVague
          exact notVague vague

theorem WellFormed.all_spans {stack : List OpenFrame}
    (wellFormed : grammar.WellFormed (stack.map OpenFrame.frame)) :
    ∀ top ∈ stack, ∃ rule, grammar.rule? top.frame.rule = some (.span rule) ∧
      rule.inert = false := by
  intro top member
  obtain ⟨around, rule, fits⟩ := wellFormed.exists_fits (List.mem_map_of_mem member)
  exact ⟨rule, fits.ruleEq, fits.notInert⟩

/-! ### The matches of a scan -/

variable {scan : Scan} {id : RuleId} {found : Match}

/-- A match by which a rule starts is one of the plan of the pattern it starts with. -/
theorem start_finds {context : RuleId} {position : Nat} {anchor : Option Nat}
    (mayStart : grammar.MayStart context line position anchor id found) {rule : Rule}
    (ruleEq : grammar.rule? id = some rule) {text : String}
    (only : ∀ other, rule.startPattern? = some other → other = text) {plan : Plan}
    (compiled : compile? text = some (.ofPlan plan false)) :
    plan.Finds line position found := by
  obtain ⟨-, pattern, accepted, patternEq, admits, foundEq⟩ := mayStart
  rw [startPattern?, ruleEq, Option.bind_some, Option.bind_eq_some_iff] at patternEq
  obtain ⟨other, otherEq, patternEq⟩ := patternEq
  rw [only other otherEq, compiled] at patternEq
  obtain rfl := Option.some.inj patternEq
  exact foundEq ▸ admits.finds found.index

/-- As no pattern has references, a frame carries no pattern of its own. -/
theorem closing_eq_none (classifies : grammar.Classifies structural) {around : List Scope}
    {frame : Frame} {rule : SpanRule} (fits : grammar.FrameFits around frame rule) :
    frame.closing = none := by
  rw [← Option.not_isSome_iff_eq_none, fits.closingIff, (classifies.span fits.ruleEq).1]
  exact Bool.false_ne_true

theorem closingPattern?_eq (classifies : grammar.Classifies structural) {around : List Scope}
    {frame : Frame} {rule : SpanRule} (fits : grammar.FrameFits around frame rule) :
    grammar.closingPattern? frame = compile? rule.closing := by
  simp only [closingPattern?, fits.ruleEq, closing_eq_none classifies fits, Option.getD_none]

theorem closing_finds (classifies : grammar.Classifies structural) {top : OpenFrame}
    {position : Nat} {anchor : Option Nat} {around : List Scope} {rule : SpanRule}
    (fits : grammar.FrameFits around top.frame rule)
    (mayClose : grammar.MayClose top line position anchor found) :
    ∃ plan : Plan, plan.Finds line position found ∧
      plan.classifies structural rule.name rule.closingCaptures = true := by
  obtain ⟨_, pattern, accepted, -, patternEq, admits, -, foundEq⟩ := mayClose
  obtain ⟨-, -, plan, compiled, checked⟩ := classifies.span fits.ruleEq
  rw [closingPattern?_eq classifies fits] at patternEq
  obtain rfl := Option.some.inj (compiled.symm.trans patternEq)
  exact ⟨plan, foundEq ▸ admits.finds 0, checked⟩

/-! ### Steps -/

/-- A grammar of the standard engine whose rules compile and classify their text. -/
structure Classifying (structural : Scope → Bool) (grammar : Grammar) : Prop where
  engineEq : grammar.engine = .standard
  compiles : ∀ id rule, grammar.rule? id = some rule → rule.Compiles .standard
  classifies : grammar.Classifies structural

theorem Swept.priority (classifying : Classifying structural grammar)
    (swept : Swept structural grammar line scan) :
    Priority grammar scan.stack line scan.position scan.anchor (grammar.upcomingIn? line scan) :=
  upcoming?_hasPriority classifying.engineEq classifying.compiles swept.wellFormed.all_spans
    line scan.position scan.anchor

/-- Before everything that may start there is only white space where scopes say nothing. -/
theorem Swept.gap (classifying : Classifying structural grammar)
    (swept : Swept structural grammar line scan) {stop : Nat}
    (first : ∀ id started, grammar.MayStart (grammar.contextOf scan.stack) line scan.position
      scan.anchor id started → stop ≤ started.start)
    (vague : Vague structural (Scan.scopesInside grammar.rootScopes scan.stack)) :
    BlankBetween line scan.pieces.covered stop :=
  swept.coveredEq ▸ blank_before classifying.classifies
    (leavesVague_of_vague swept.wellFormed vague) swept.boundary first

/-- Pieces that go on to an offset behind the position of a scan and are classified. -/
structure Passed (structural : Scope → Bool) (line : List Char) (scan : Scan) (stop : Nat)
    (pieces : Pieces) : Prop where
  advances : scan.position < stop
  boundary : Boundary line stop
  tiled : pieces.Tiled
  classified : Classified structural line pieces.tokens
  coveredEq : pieces.covered = stop

theorem Passed.swept {stop : Nat} {next : Scan}
    (passed : Passed structural line scan stop next.pieces)
    (wellFormed : grammar.WellFormed (next.stack.map OpenFrame.frame))
    (positionEq : next.position = stop) :
    Swept structural grammar line next ∧ scan.position < next.position := by
  subst positionEq
  exact ⟨⟨wellFormed, passed.tiled, passed.classified, passed.coveredEq, passed.boundary⟩,
    passed.advances⟩

/-- The match of a plan passes its text. -/
theorem Swept.passed (swept : Swept structural grammar line scan) {plan : Plan}
    {names : List Scope} {captures : Captures}
    (finds : plan.Finds line scan.position found)
    (checked : plan.classifies structural names captures = true)
    (gap : Vague structural (grammar.scopesAround scan) →
      BlankBetween line scan.pieces.covered found.start) (around : List Scope) :
    Passed structural line scan found.stop
      (scan.pieces.layMatch (grammar.scopesAround scan) (around ++ names) captures found) := by
  have proper := finds.proper ((Bool.and_eq_true _ _).mp checked).1
  have startGe := finds.start_ge
  obtain ⟨classified, coveredEq⟩ := Pieces.layMatch_classified swept.classified
    (finds.lays checked around) proper (swept.coveredEq ▸ startGe) gap
  exact ⟨startGe.trans_lt proper, finds.boundary,
    Pieces.layMatch_tiled swept.tiled _ _ _ _, classified, coveredEq⟩

theorem Swept.start_gap (classifying : Classifying structural grammar)
    (swept : Swept structural grammar line scan)
    (upcoming : grammar.upcomingIn? line scan = some (.start id found)) :
    grammar.MayStart (grammar.contextOf scan.stack) line scan.position scan.anchor id found ∧
      (Vague structural (grammar.scopesAround scan) →
        BlankBetween line scan.pieces.covered found.start) := by
  have priority := swept.priority classifying
  rw [upcoming] at priority
  cases priority with
  | start mayStart _ first =>
      exact ⟨mayStart, swept.gap classifying fun _ _ starts => (first _ _ starts).start_le⟩

theorem Swept.single_passed (classifying : Classifying structural grammar)
    (swept : Swept structural grammar line scan) {rule : SingleRule}
    (upcoming : grammar.upcomingIn? line scan = some (.start id found))
    (ruleEq : grammar.rule? id = some (.single rule)) :
    Passed structural line scan found.stop (grammar.passedPieces scan rule found) := by
  obtain ⟨mayStart, gap⟩ := swept.start_gap classifying upcoming
  obtain ⟨plan, compiled, checked⟩ := classifying.classifies.single ruleEq
  have finds := start_finds mayStart ruleEq (by simp +contextual [Rule.startPattern?]) compiled
  exact swept.passed finds checked gap _

theorem Swept.opening_passed (classifying : Classifying structural grammar)
    (swept : Swept structural grammar line scan) {rule : SpanRule}
    (upcoming : grammar.upcomingIn? line scan = some (.start id found))
    (ruleEq : grammar.rule? id = some (.span rule)) :
    Passed structural line scan found.stop
      (grammar.openedScan line scan id rule found).pieces := by
  obtain ⟨mayStart, gap⟩ := swept.start_gap classifying upcoming
  obtain ⟨-, ⟨plan, compiled, checked⟩, -⟩ := classifying.classifies.span ruleEq
  have finds := start_finds mayStart ruleEq (by simp +contextual [Rule.startPattern?]) compiled
  exact swept.passed finds checked gap _

theorem Swept.closing_passed (classifying : Classifying structural grammar)
    (swept : Swept structural grammar line scan)
    (upcoming : grammar.upcomingIn? line scan = some (.close found)) :
    found.start < found.stop ∧ ∃ top outer, scan.stack = top :: outer ∧
      grammar.WellFormed (outer.map OpenFrame.frame) ∧
      Passed structural line scan found.stop (grammar.closedPieces scan top found) := by
  have priority := swept.priority classifying
  rw [upcoming] at priority
  cases priority with
  | @close top _ topEq mayClose _ _ beforeStart =>
      obtain ⟨outer, stackEq⟩ := List.head?_eq_some_iff.mp topEq
      have gap := swept.gap classifying fun other started starts =>
        (beforeStart other started starts).elim Nat.le_of_lt fun same => same.1.le
      have wellFormed := swept.wellFormed
      rw [stackEq] at wellFormed
      cases wellFormed with
      | @cons _ _ rule fits outerFits =>
          obtain ⟨plan, finds, checked⟩ := closing_finds classifying.classifies fits mayClose
          have passed := swept.passed finds checked gap
            (grammar.scopesWithin (outer.map OpenFrame.frame))
          have aroundEq : grammar.scopesAround scan = top.frame.contentScopes := by
            rw [scopesAround, stackEq]
            rfl
          have capturesEq : grammar.closingCaptures top.frame.rule = rule.closingCaptures := by
            simp only [closingCaptures, fits.ruleEq]
          rw [aroundEq, ← fits.nameScopesEq, ← capturesEq] at passed
          exact ⟨finds.proper ((Bool.and_eq_true _ _).mp checked).1, top, outer, stackEq,
            outerFits, passed⟩

/-- If nothing comes next the rest of the line is classified. -/
theorem Swept.exhausted (classifying : Classifying structural grammar)
    (swept : Swept structural grammar line scan)
    (absent : grammar.upcomingIn? line scan = none) :
    EndsClassified structural grammar line (scan.stack.map OpenFrame.frame)
      (grammar.finalPieces line scan.stack scan.pieces).toList := by
  have priority := swept.priority classifying
  rw [absent] at priority
  cases priority with
  | nothing noStart =>
      have blank : Vague structural (grammar.scopesAround scan) →
          BlankBetween line scan.pieces.covered (Text.byteLength line) :=
        swept.gap classifying fun id started starts => absurd starts (noStart id started)
      have coveredEq := Pieces.covered_produce scan.pieces (Text.byteLength line)
        (grammar.scopesAround scan)
      rw [swept.coveredEq, Nat.max_eq_right swept.boundary.le_length] at coveredEq
      have tiling := swept.tiled.produce (Text.byteLength line) (grammar.scopesAround scan)
      rw [Pieces.Tiled, coveredEq] at tiling
      exact ⟨swept.wellFormed, tiling, fun token member =>
        Pieces.produce_classified swept.classified blank token (List.mem_reverse.mp member)⟩

/-- Every step classifies the text that it passes, and it passes some or comes to the end. -/
theorem step_sweeps (classifying : Classifying structural grammar)
    (swept : Swept structural grammar line scan) :
    (grammar.step line scan).Keeps
      (fun next => Swept structural grammar line next ∧ scan.position < next.position)
      (fun stack pieces => EndsClassified structural grammar line
        (stack.map OpenFrame.frame) pieces.toList) := by
  have turn : Turn grammar line scan (grammar.step line scan) := step_turn scan
  generalize grammar.step line scan = outcome at turn
  cases turn with
  | exhausted absent => exact swept.exhausted classifying absent
  | refused found upcoming reason =>
      obtain ⟨proper, top, outer, stackEq, -, -⟩ := swept.closing_passed classifying upcoming
      rcases reason with again | bottom
      · exact absurd again.1 proper.ne
      · cases stackEq.symm.trans bottom
  | stuckClose found top outer upcoming stackEq noProgress =>
      obtain ⟨-, _, _, -, -, passed⟩ := swept.closing_passed classifying upcoming
      exact absurd passed.advances (Nat.not_lt_of_le noProgress)
  | close found top outer upcoming stackEq =>
      obtain ⟨-, first, rest, same, outerFits, passed⟩ :=
        swept.closing_passed classifying upcoming
      obtain ⟨rfl, rfl⟩ := List.cons.inj (same.symm.trans stackEq)
      exact passed.swept outerFits (Nat.max_eq_right passed.advances.le)
  | stuckSingle found id rule upcoming ruleEq noProgress =>
      exact absurd (swept.single_passed classifying upcoming ruleEq).advances
        (Nat.not_lt_of_le noProgress)
  | pass found id rule upcoming ruleEq =>
      exact (swept.single_passed classifying upcoming ruleEq).swept swept.wellFormed rfl
  | reopened found id rule upcoming ruleEq noProgress =>
      exact absurd (swept.opening_passed classifying upcoming ruleEq).advances
        (Nat.not_lt_of_le noProgress)
  | opens found id rule upcoming ruleEq =>
      have passed := swept.opening_passed classifying upcoming ruleEq
      exact passed.swept (swept.wellFormed.opened upcoming ruleEq)
        (Nat.max_eq_right passed.advances.le)
  | unfit found id upcoming notSingle notSpan =>
      obtain ⟨⟨candidate, -⟩, -⟩ := swept.start_gap classifying upcoming
      obtain ⟨rule, text, ruleEq, textEq⟩ :=
        Rulebook.canStart_of_mem_candidates (List.mem_of_getElem? candidate)
      cases rule with
      | single rule => exact absurd ruleEq (notSingle rule)
      | span rule => exact absurd ruleEq (notSpan rule)
      | reference | group => cases textEq

/-- A run with enough steps comes to the end of the line. -/
theorem runSteps_classified (classifying : Classifying structural grammar) (fuel : Nat)
    (swept : Swept structural grammar line scan)
    (enough : Text.byteLength line < scan.position + fuel) :
    EndsClassified structural grammar line
      ((grammar.runSteps line fuel scan).1.map OpenFrame.frame)
      (grammar.runSteps line fuel scan).2.toList := by
  induction fuel generalizing scan with
  | zero =>
      have := swept.boundary.le_length
      omega
  | succ fuel ih =>
      have kept := step_sweeps classifying swept
      unfold runSteps
      split
      · next stack pieces outcome => simpa [outcome, Step.Keeps] using kept
      · next next outcome =>
          rw [outcome] at kept
          exact ih kept.1 (by have := kept.2; omega)

/-- At the start of a line nothing is left to classify. -/
theorem Swept.start {state : State} (wellFormed : grammar.WellFormed state.stack) :
    Swept structural grammar line (Scan.start state) := by
  have framesEq : (Scan.start state).stack.map OpenFrame.frame = state.stack := by
    simp [Scan.start, Function.comp_def]
  exact ⟨framesEq ▸ wellFormed, Pieces.tiled_empty,
    fun _ member => absurd member List.not_mem_nil, rfl, ⟨[], line, rfl, rfl⟩⟩

/-- A line that starts inside well-formed frames is classified. -/
theorem tokenizeLine_classified (classifying : Classifying structural grammar)
    (line : List Char) {state : State} (wellFormed : grammar.WellFormed state.stack) :
    EndsClassified structural grammar line (grammar.tokenizeLine line state).endState.stack
      (grammar.tokenizeLine line state).tokens :=
  runSteps_classified classifying (stepLimit line state) (Swept.start wellFormed)
    (by simp only [stepLimit]; omega)

/-- Each of a list of lines that are tokenized in sequence is classified. -/
theorem tokenizeFrom_classified (classifying : Classifying structural grammar)
    (lines : List (List Char)) {state : State} (wellFormed : grammar.WellFormed state.stack)
    {index : Nat} {line : List Char} {result : LineTokens} (lineEq : lines[index]? = some line)
    (resultEq : (grammar.tokenizeFrom state lines)[index]? = some result) :
    EndsClassified structural grammar line result.endState.stack result.tokens := by
  induction lines generalizing state index with
  | nil => cases lineEq
  | cons first rest ih =>
      have ends := tokenizeLine_classified classifying first wellFormed
      cases index with
      | zero =>
          cases lineEq
          cases resultEq
          exact ends
      | succ index => exact ih ends.wellFormed lineEq resultEq

theorem tokenizeFrom_length (grammar : Grammar) (lines : List (List Char)) (state : State) :
    (grammar.tokenizeFrom state lines).length = lines.length := by
  induction lines generalizing state with
  | nil => rfl
  | cons first rest ih => exact congrArg (· + 1) (ih _)

end Grammar

end Scopelight
