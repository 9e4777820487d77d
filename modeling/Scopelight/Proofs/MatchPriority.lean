import Scopelight.Proofs.CandidateRules
import Scopelight.Proofs.ClosingSearch
import Scopelight.Proofs.LoadedGrammar
import Scopelight.Proofs.StandardEngine
import Scopelight.Proofs.UpcomingMatch

/-!
# Which match comes next

What may come next is said here of each pattern by itself: the pattern of a candidate may
start its rule where it admits a match, and the pattern of the innermost span may end the
span where it admits a match that may end it.  In a loaded grammar the match that comes
next is the one of these with the least start.  Of those that start together the end is
preferred, unless its rule says otherwise, and then the first candidate.
-/

namespace Scopelight

namespace Grammar

open Pattern

variable (grammar : Grammar)

/-- The pattern by which a rule starts, compiled by itself. -/
def startPattern? (id : RuleId) : Option Compiled :=
  ((grammar.rule? id).bind Rule.startPattern?).bind compile?

/-- The pattern that closes a frame, compiled by itself: the one that the frame carries, or
else that of its rule. -/
def closingPattern? (frame : Frame) : Option Compiled :=
  match grammar.rule? frame.rule with
  | some (.span rule) => compile? (frame.closing.getD rule.closing)
  | _ => none

/-- A match by which a candidate of a context may start, reported with the place of the
candidate. -/
def MayStart (context : RuleId) (line : List Char) (position : Nat) (anchor : Option Nat)
    (id : RuleId) (found : Match) : Prop :=
  (grammar.candidates context)[found.index]? = some id ∧
    ∃ pattern accepted, grammar.startPattern? id = some pattern ∧
      pattern.Admits line position anchor accepted ∧
      found = pattern.report found.index accepted

/-- A match that may close the innermost span. -/
def MayClose (top : OpenFrame) (line : List Char) (position : Nat) (anchor : Option Nat)
    (found : Match) : Prop :=
  ∃ rule pattern accepted, grammar.rule? top.frame.rule = some (.span rule) ∧
    grammar.closingPattern? top.frame = some pattern ∧
    pattern.Admits line position anchor accepted ∧
    MayEnd rule.allowEmptySpan (top.opening.map Opening.contentStart) accepted ∧
    found = pattern.report 0 accepted

/-- A search with one pattern alone has the span and the groups of a match. -/
def FoundAlone (pattern : Compiled) (line : List Char) (origin : Nat) (anchor : Option Nat)
    (found : Match) : Prop :=
  (scanner [pattern]).find line origin anchor = some { found with index := 0 }

variable {grammar} {line : List Char} {position : Nat} {anchor : Option Nat}

theorem standard_compile_singleton (text : String) :
    (Engine.standard.compile [text]).toOption =
      (compile? text).map fun pattern => scanner [pattern] := by
  change ((compileAll [text]).map scanner).toOption = _
  unfold compileAll
  cases compile? text <;> rfl

/-- The patterns of the candidates of a loaded grammar compile together, in their order. -/
theorem candidatePatterns_compile
    (compiles : ∀ id rule, grammar.rule? id = some rule → rule.Compiles .standard)
    (context : RuleId) :
    ∃ patterns, compileAll (grammar.startPatterns (grammar.candidates context)) = .ok patterns ∧
      ∀ index : Nat, patterns[index]? =
        (grammar.candidates context)[index]?.bind grammar.startPattern? := by
  have allStart : ∀ id ∈ grammar.candidates context, grammar.CanStart id :=
    fun _ member => Rulebook.canStart_of_mem_candidates member
  have eachCompiles : ∀ text ∈ grammar.startPatterns (grammar.candidates context),
      (compile? text).isSome = true := by
    intro text member
    obtain ⟨id, -, textEq⟩ := List.mem_filterMap.mp member
    obtain ⟨rule, ruleEq, startEq⟩ := Option.bind_eq_some_iff.mp textEq
    obtain ⟨scanner, compiled⟩ := compiles id rule ruleEq text startEq
    have single := standard_compile_singleton text
    rw [compiled] at single
    rw [← Option.isSome_map, ← single]
    rfl
  obtain ⟨patterns, patternsEq⟩ := compileAll_ok eachCompiles
  refine ⟨patterns, patternsEq, fun index => ?_⟩
  rw [compileAll_getElem? patternsEq, Rulebook.startPatterns_getElem? allStart]
  cases (grammar.candidates context)[index]? <;> rfl

theorem nextStart?_eq_some_iff_find (engineEq : grammar.engine = .standard)
    {context id : RuleId} {patterns : List Compiled}
    (compiled : compileAll (grammar.startPatterns (grammar.candidates context)) = .ok patterns)
    {found : Match} :
    grammar.nextStart? context line position anchor = some (id, found) ↔
      (scanner patterns).find line position anchor = some found ∧
        (grammar.candidates context)[found.index]? = some id := by
  rw [nextStart?_eq_some_iff]
  constructor
  · rintro ⟨-, own, ownEq, foundEq, candidate⟩
    have ownCompiles := candidateScanner?_compiles ownEq
    rw [engineEq] at ownCompiles
    obtain ⟨ownPatterns, patternsEq, rfl⟩ := Engine.standard_compile ownCompiles
    obtain rfl := Except.ok.inj (compiled.symm.trans patternsEq)
    exact ⟨foundEq, candidate⟩
  · rintro ⟨foundEq, candidate⟩
    have inside : context < grammar.rules.size := by
      by_contra outside
      have noRule : grammar.rule? context = none :=
        Array.getElem?_eq_none (Nat.le_of_not_lt outside)
      simp [Rulebook.candidates, noRule] at candidate
    refine ⟨inside, scanner patterns, ?_, foundEq, candidate⟩
    unfold Rulebook.candidateScanner?
    split
    · next noTexts =>
        rw [noTexts] at compiled
        obtain rfl := Except.ok.inj compiled
        cases foundEq
    · rw [toOption_eq_some_iff, engineEq]
      change (compileAll _).map scanner = _
      rw [compiled]
      rfl

/-- The next start is the first match by which a candidate may start. -/
theorem nextStart?_first (engineEq : grammar.engine = .standard)
    (compiles : ∀ id rule, grammar.rule? id = some rule → rule.Compiles .standard)
    (context : RuleId) (line : List Char) (position : Nat) (anchor : Option Nat) :
    (grammar.nextStart? context line position anchor = none ∧
        ∀ id found, ¬ grammar.MayStart context line position anchor id found) ∨
      ∃ id found, grammar.nextStart? context line position anchor = some (id, found) ∧
        grammar.MayStart context line position anchor id found ∧
        ∀ other started, grammar.MayStart context line position anchor other started →
          Precedes found started := by
  obtain ⟨patterns, patternsEq, places⟩ :=
    candidatePatterns_compile compiles context
  have wins := scanner_wins patterns line position anchor
  have reportsIff : ∀ found, Reports line position anchor patterns found ↔
      ∃ id, grammar.MayStart context line position anchor id found := by
    intro found
    constructor
    · rintro ⟨pattern, accepted, patternEq, admits, foundEq⟩
      rw [places] at patternEq
      obtain ⟨id, idEq, startEq⟩ := Option.bind_eq_some_iff.mp patternEq
      exact ⟨id, idEq, pattern, accepted, startEq, admits, foundEq⟩
    · rintro ⟨id, idEq, pattern, accepted, startEq, admits, foundEq⟩
      refine ⟨pattern, accepted, ?_, admits, foundEq⟩
      rw [places, idEq, Option.bind_some, startEq]
  cases foundEq : (scanner patterns).find line position anchor with
  | none =>
      refine .inl ⟨?_, fun id started mayStart => ?_⟩
      · rw [Option.eq_none_iff_forall_not_mem]
        rintro ⟨id, found⟩ nextEq
        rw [Option.mem_def, nextStart?_eq_some_iff_find engineEq patternsEq, foundEq] at nextEq
        cases nextEq.1
      · have reports := (reportsIff started).mpr ⟨id, mayStart⟩
        have := wins.absent foundEq started reports
        have := reports.start_le_length
        omega
  | some found =>
      obtain ⟨id, mayStart⟩ := (reportsIff found).mp (wins.reports found foundEq)
      refine .inr ⟨id, found, ?_, mayStart, fun other started otherStart => ?_⟩
      · exact (nextStart?_eq_some_iff_find engineEq patternsEq).mpr ⟨foundEq, mayStart.1⟩
      · exact wins.precedes found foundEq started
          ((reportsIff started).mpr ⟨other, otherStart⟩)

/-- The scanner for the end of a frame of a span that can start searches its pattern. -/
theorem closingScanner?_eq (engineEq : grammar.engine = .standard) {frame : Frame}
    {rule : SpanRule} (ruleEq : grammar.rule? frame.rule = some (.span rule))
    (notInert : rule.inert = false) :
    grammar.closingScanner? frame =
      (grammar.closingPattern? frame).map fun pattern => scanner [pattern] := by
  unfold closingScanner? closingPattern?
  rw [ruleEq]
  cases frame.closing with
  | some text =>
      change (grammar.engine.compile [text]).toOption = _
      rw [engineEq, standard_compile_singleton]
      rfl
  | none =>
      have inside : frame.rule < grammar.rules.size :=
        (Array.getElem?_eq_some_iff.mp ruleEq).1
      simp only [context?_eq, if_pos inside, Option.bind_some, Rulebook.context,
        Rulebook.closingScanner?, ruleEq, notInert]
      change (grammar.engine.compile [rule.closing]).toOption = _
      rw [engineEq, standard_compile_singleton]
      rfl

/-- The next end is the first match that may close the innermost span. -/
theorem nextClose?_first (engineEq : grammar.engine = .standard) {top : OpenFrame}
    {rule : SpanRule} (ruleEq : grammar.rule? top.frame.rule = some (.span rule))
    (notInert : rule.inert = false) (line : List Char) (position : Nat)
    (anchor : Option Nat) :
    (grammar.nextClose? top line position anchor = none ∧
        ∀ found, ¬ grammar.MayClose top line position anchor found) ∨
      ∃ found, grammar.nextClose? top line position anchor = some found ∧
        grammar.MayClose top line position anchor found ∧
        (∃ pattern origin, grammar.closingPattern? top.frame = some pattern ∧
          position ≤ origin ∧ FoundAlone pattern line origin anchor found) ∧
        ∀ other, grammar.MayClose top line position anchor other →
          found.start ≤ other.start := by
  unfold nextClose?
  rw [ruleEq]
  simp only [closingScanner?_eq engineEq ruleEq notInert]
  cases patternEq : grammar.closingPattern? top.frame with
  | none =>
      refine .inl ⟨rfl, ?_⟩
      rintro found ⟨_, _, _, -, absurd, -⟩
      rw [patternEq] at absurd
      cases absurd
  | some pattern =>
      simp only [Option.map_some]
      have mayClose : ∀ found, grammar.MayClose top line position anchor found ↔
          ∃ accepted, pattern.Admits line position anchor accepted ∧
            MayEnd rule.allowEmptySpan (top.opening.map Opening.contentStart) accepted ∧
            found = pattern.report 0 accepted := by
        intro found
        constructor
        · rintro ⟨own, ownPattern, accepted, ownEq, ownPatternEq, admits, ends, foundEq⟩
          cases ruleEq.symm.trans ownEq
          cases patternEq.symm.trans ownPatternEq
          exact ⟨accepted, admits, ends, foundEq⟩
        · rintro ⟨accepted, admits, ends, foundEq⟩
          exact ⟨rule, pattern, accepted, ruleEq, patternEq, admits, ends, foundEq⟩
      have outcome := searchClose?_outcome pattern rule.allowEmptySpan
        (top.opening.map Opening.contentStart) line position anchor line.length
      generalize searchClose? _ _ _ _ _ _ _ = next at outcome
      cases outcome with
      | absent noneEnds =>
          refine .inl ⟨rfl, fun found closes => ?_⟩
          obtain ⟨accepted, admits, ends, -⟩ := (mayClose found).mp closes
          exact noneEnds accepted admits ends
      | @found accepted origin reached alone admits ends first =>
          refine .inr ⟨_, rfl, (mayClose _).mpr ⟨accepted, admits, ends, rfl⟩,
            ⟨pattern, origin, rfl, reached, alone⟩, fun other closes => ?_⟩
          obtain ⟨other, otherAdmits, otherEnds, rfl⟩ := (mayClose other).mp closes
          exact first other otherAdmits otherEnds

/-- What may come next in a line inside the innermost of some spans, and which of it does. -/
inductive Priority (grammar : Grammar) (stack : List OpenFrame) (line : List Char)
    (position : Nat) (anchor : Option Nat) : Option Upcoming → Prop
  | nothing
      (noStart : ∀ id found,
        ¬ grammar.MayStart (grammar.contextOf stack) line position anchor id found)
      (noClose : ∀ top ∈ stack.head?, ∀ found,
        ¬ grammar.MayClose top line position anchor found) :
      Priority grammar stack line position anchor none
  /-- A rule starts before the others, and before the end unless that is preferred less. -/
  | start {id : RuleId} {found : Match}
      (mayStart : grammar.MayStart (grammar.contextOf stack) line position anchor id found)
      (alone : ∃ pattern, grammar.startPattern? id = some pattern ∧
        FoundAlone pattern line position anchor found)
      (first : ∀ other started,
        grammar.MayStart (grammar.contextOf stack) line position anchor other started →
        Precedes found started)
      (beforeClose : ∀ top ∈ stack.head?, ∀ closed,
        grammar.MayClose top line position anchor closed →
        found.start < closed.start ∨
          (found.start = closed.start ∧ grammar.closesLast (grammar.contextOf stack) = true)) :
      Priority grammar stack line position anchor (some (.start id found))
  /-- The innermost span ends before anything starts that is not preferred to the end. -/
  | close {top : OpenFrame} {found : Match} (topEq : stack.head? = some top)
      (mayClose : grammar.MayClose top line position anchor found)
      (alone : ∃ pattern origin, grammar.closingPattern? top.frame = some pattern ∧
        position ≤ origin ∧ FoundAlone pattern line origin anchor found)
      (first : ∀ other, grammar.MayClose top line position anchor other →
        found.start ≤ other.start)
      (beforeStart : ∀ other started,
        grammar.MayStart (grammar.contextOf stack) line position anchor other started →
        found.start < started.start ∨
          (found.start = started.start ∧
            grammar.closesLast (grammar.contextOf stack) = false)) :
      Priority grammar stack line position anchor (some (.close found))

/-- The first start of a candidate is found by its pattern alone. -/
theorem MayStart.alone {context id : RuleId} {found : Match}
    (mayStart : grammar.MayStart context line position anchor id found)
    (first : ∀ other started, grammar.MayStart context line position anchor other started →
      Precedes found started) :
    ∃ pattern, grammar.startPattern? id = some pattern ∧
      FoundAlone pattern line position anchor found := by
  obtain ⟨candidate, pattern, accepted, patternEq, admits, foundEq⟩ := mayStart
  refine ⟨pattern, patternEq, ?_⟩
  rcases scanner_singleton pattern line position anchor with
    ⟨-, noneAdmitted⟩ | ⟨own, ownEq, ownAdmits, ownFirst⟩
  · exact absurd admits (noneAdmitted accepted)
  · -- The own first match of the pattern is one of those that precede, so both start together.
    have foundLe := (first id (pattern.report found.index own)
      ⟨candidate, pattern, own, patternEq, ownAdmits, rfl⟩).start_le
    have startEq : found.start = accepted.start := foundEq ▸ rfl
    have ownLe : own.start ≤ accepted.start := ownFirst accepted admits
    obtain rfl := ownAdmits.unique admits
      (Nat.le_antisymm ownLe (startEq ▸ foundLe))
    rw [FoundAlone, ownEq, foundEq]
    rfl

theorem innermostClose?_first (engineEq : grammar.engine = .standard) {stack : List OpenFrame}
    (spans : ∀ top ∈ stack, ∃ rule, grammar.rule? top.frame.rule = some (.span rule) ∧
      rule.inert = false) (line : List Char) (position : Nat) (anchor : Option Nat) :
    (stack.head?.bind (fun top => grammar.nextClose? top line position anchor) = none ∧
        ∀ top ∈ stack.head?, ∀ found,
          ¬ grammar.MayClose top line position anchor found) ∨
      ∃ top found, stack.head? = some top ∧
        stack.head?.bind (fun top => grammar.nextClose? top line position anchor) =
          some found ∧
        grammar.MayClose top line position anchor found ∧
        (∃ pattern origin, grammar.closingPattern? top.frame = some pattern ∧
          position ≤ origin ∧ FoundAlone pattern line origin anchor found) ∧
        ∀ other, grammar.MayClose top line position anchor other →
          found.start ≤ other.start := by
  cases stack with
  | nil => exact .inl ⟨rfl, by simp⟩
  | cons top outer =>
      obtain ⟨rule, ruleEq, notInert⟩ := spans top List.mem_cons_self
      rcases nextClose?_first engineEq ruleEq notInert line position anchor with
        ⟨closeEq, noClose⟩ | ⟨found, closeEq, rest⟩
      · refine .inl ⟨closeEq, ?_⟩
        rintro _ ⟨⟩
        exact noClose
      · exact .inr ⟨top, found, rfl, closeEq, rest⟩

/-- Where a rule may start and the span may end, the choice between the two respects the
priority. -/
theorem choice_priority {stack : List OpenFrame} {id : RuleId} {started closed : Match}
    {top : OpenFrame}
    (mayStart : grammar.MayStart (grammar.contextOf stack) line position anchor id started)
    (startFirst : ∀ other later,
      grammar.MayStart (grammar.contextOf stack) line position anchor other later →
      Precedes started later)
    (topEq : stack.head? = some top)
    (mayClose : grammar.MayClose top line position anchor closed)
    (alone : ∃ pattern origin, grammar.closingPattern? top.frame = some pattern ∧
      position ≤ origin ∧ FoundAlone pattern line origin anchor closed)
    (closeFirst : ∀ other, grammar.MayClose top line position anchor other →
      closed.start ≤ other.start) :
    Priority grammar stack line position anchor
      (if closed.start < started.start ∨ (closed.start = started.start ∧
          grammar.closesLast (grammar.contextOf stack) = false) then
        some (.close closed)
      else some (.start id started)) := by
  split
  case isTrue preferred =>
    refine .close topEq mayClose alone closeFirst ?_
    intro other later laterStart
    have startedLe := (startFirst other later laterStart).start_le
    rcases preferred with lt | ⟨eq, notLast⟩
    · exact .inl (lt.trans_le startedLe)
    · rcases Nat.lt_or_eq_of_le (eq ▸ startedLe) with lt | same
      · exact .inl lt
      · exact .inr ⟨same, notLast⟩
  case isFalse notPreferred =>
    refine .start mayStart (mayStart.alone startFirst) startFirst ?_
    intro other member later closes
    obtain rfl := Option.some.inj (topEq.symm.trans member)
    have closedLe := closeFirst later closes
    have startedLe : started.start ≤ closed.start :=
      Nat.le_of_not_lt fun lt => notPreferred (.inl lt)
    rcases Nat.lt_or_eq_of_le (startedLe.trans closedLe) with lt | same
    · exact .inl lt
    · have lastCloses : grammar.closesLast (grammar.contextOf stack) = true := by
        by_contra notLast
        apply notPreferred
        exact .inr ⟨by omega, Bool.eq_false_iff.mpr notLast⟩
      exact .inr ⟨same, lastCloses⟩

theorem upcoming?_hasPriority (engineEq : grammar.engine = .standard)
    (compiles : ∀ id rule, grammar.rule? id = some rule → rule.Compiles .standard)
    {stack : List OpenFrame}
    (spans : ∀ top ∈ stack, ∃ rule, grammar.rule? top.frame.rule = some (.span rule) ∧
      rule.inert = false) (line : List Char) (position : Nat) (anchor : Option Nat) :
    Priority grammar stack line position anchor
      (grammar.upcoming? stack line position anchor) := by
  have starts :=
    nextStart?_first engineEq compiles (grammar.contextOf stack) line position anchor
  have closes := innermostClose?_first engineEq spans line position anchor
  unfold upcoming?
  simp only
  rcases starts with ⟨startEq, noStart⟩ | ⟨id, started, startEq, mayStart, startFirst⟩
  · rw [startEq]
    rcases closes with ⟨closeEq, noClose⟩ |
      ⟨top, closed, topEq, closeEq, mayClose, alone, closeFirst⟩
    · rw [closeEq]
      exact .nothing noStart noClose
    · rw [closeEq]
      apply Priority.close topEq mayClose alone closeFirst
      intro other started mayStart
      exact absurd mayStart (noStart other started)
  · rw [startEq]
    rcases closes with ⟨closeEq, noClose⟩ |
      ⟨top, closed, topEq, closeEq, mayClose, alone, closeFirst⟩
    · rw [closeEq]
      apply Priority.start mayStart (mayStart.alone startFirst) startFirst
      intro top member closed mayClose
      exact absurd mayClose (noClose top member closed)
    · rw [closeEq]
      exact choice_priority mayStart startFirst topEq mayClose alone closeFirst

/-- In a loaded grammar, inside spans that can start, the match that comes next is the one
that has priority; there is none exactly if nothing may start or close. -/
theorem upcoming?_priority {strict : Bool} {document : GrammarDocument}
    (loaded : ofDocument .standard strict document = .ok grammar) {stack : List OpenFrame}
    (spans : ∀ top ∈ stack, ∃ rule, grammar.rule? top.frame.rule = some (.span rule) ∧
      rule.inert = false) (line : List Char) (position : Nat) (anchor : Option Nat) :
    Priority grammar stack line position anchor
        (grammar.upcoming? stack line position anchor) ∧
      (grammar.upcoming? stack line position anchor = none ↔
        (∀ id found,
          ¬ grammar.MayStart (grammar.contextOf stack) line position anchor id found) ∧
        ∀ top ∈ stack.head?, ∀ found,
          ¬ grammar.MayClose top line position anchor found) := by
  obtain ⟨engineEq, compiles⟩ := ofDocument_compiles loaded
  have priority := upcoming?_hasPriority engineEq compiles spans line position anchor
  refine ⟨priority, ?_⟩
  constructor
  · intro absent
    rw [absent] at priority
    cases priority with
    | nothing noStart noClose => exact ⟨noStart, noClose⟩
  · rintro ⟨noStart, noClose⟩
    cases outcome : grammar.upcoming? stack line position anchor with
    | none => rfl
    | some upcoming =>
        rw [outcome] at priority
        cases priority with
        | start mayStart => exact absurd mayStart (noStart _ _)
        | close topEq mayClose => exact absurd mayClose (noClose _ topEq _)

/-- Inside a span of a small grammar that was opened at the start of the line. -/
theorem markDocument_priority :
    ∃ grammar, Grammar.ofDocument .standard true markDocument = .ok grammar ∧
      ∃ top : OpenFrame, top.opening = some ⟨none, 0, 1⟩ ∧
        (∃ rule, grammar.rule? top.frame.rule = some (.span rule) ∧ rule.inert = false) ∧
        Priority grammar [top] ['<', 'a', '>'] 1 (some 1)
          (grammar.upcoming? [top] ['<', 'a', '>'] 1 (some 1)) := by
  obtain ⟨grammar, loaded, rulesEq, -⟩ := markDocument_loads
  let top : OpenFrame := ⟨⟨1, [], [], none, false⟩, some ⟨none, 0, 1⟩⟩
  have ruleEq : grammar.rule? 1 = markRules[1]? := congrArg (·[1]?) rulesEq
  have topSpan : ∃ rule, grammar.rule? top.frame.rule = some (.span rule) ∧
      rule.inert = false := ⟨_, ruleEq, rfl⟩
  have spans : ∀ other ∈ [top], ∃ rule, grammar.rule? other.frame.rule = some (.span rule) ∧
      rule.inert = false := by
    intro other member
    rwa [List.mem_singleton.mp member]
  exact ⟨grammar, loaded, top, rfl, topSpan,
    (upcoming?_priority loaded spans ['<', 'a', '>'] 1 (some 1)).1⟩

end Grammar

end Scopelight
