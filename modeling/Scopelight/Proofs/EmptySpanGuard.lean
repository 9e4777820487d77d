import Scopelight.Proofs.LineSlices
import Scopelight.Proofs.PlannedSteps
import Scopelight.Proofs.SavedAnchors
import Scopelight.Proofs.StandardEngine

/-!
# Spans that may not be empty

A rule may forbid that its span ends with an empty match right where its interior starts.
The loop that looks for the end passes over such a match and searches from the next
character.  What an engine finds from there starts further on, so the loop makes no third
search, and at the end of a line it makes no second one.
-/

namespace Scopelight

/-- A match takes no character and lies where the interior of a span starts. -/
def Match.EmptyAt (found : Match) (contentStart : Option Nat) : Prop :=
  found.start = found.stop ∧ some found.start = contentStart

instance (found : Match) (contentStart : Option Nat) :
    Decidable (found.EmptyAt contentStart) :=
  inferInstanceAs (Decidable (_ ∧ _))

/-- What a scanner finds starts between characters, and not before its search. -/
def Scanner.SearchesOnward (scanner : Scanner) : Prop :=
  ∀ {line position anchor found}, scanner.find line position anchor = some found →
    position ≤ found.start ∧ Boundary line found.start

def Engine.SearchesOnward (engine : Engine) : Prop :=
  ∀ {patterns scanner}, engine.compile patterns = .ok scanner → scanner.SearchesOnward

theorem Engine.standard_searchesOnward : standard.SearchesOnward := by
  intro texts scanner compiled line position anchor found foundEq
  refine ⟨(standard_withinLine compiled).startGe foundEq, ?_⟩
  obtain ⟨patterns, -, rfl⟩ := standard_compile compiled
  obtain ⟨pattern, accepted, -, admits, matchEq⟩ :=
    (Pattern.scanner_wins patterns line position anchor).reports found foundEq
  obtain ⟨here, member, startEq⟩ := admits.exists_position
  have boundary := (Pattern.in_of_mem_positions member).boundary
  rw [startEq] at boundary
  rw [matchEq]
  exact boundary

namespace Grammar

theorem nextBoundary?_append (before rest : List Char) :
    nextBoundary? (before ++ rest) (Text.byteLength before) =
      rest.head?.map fun c => Text.byteLength (before ++ [c]) := by
  have dropped := Text.dropBytes_append before rest 0
  rw [Nat.add_zero, Text.dropBytes_zero] at dropped
  rw [nextBoundary?, dropped]
  cases rest <;> simp [Text.byteLength_append]

theorem lt_of_nextBoundary? {line : List Char} {offset next : Nat}
    (nextEq : nextBoundary? line offset = some next) : offset < next := by
  unfold nextBoundary? at nextEq
  split at nextEq
  · cases nextEq
  · next c _ _ =>
      have := c.utf8Size_pos
      cases nextEq
      omega

section Loop

variable (find : Nat → Option Match)

/-- What the search for an end should find from a position on: the first match, unless it is
empty where the interior starts; then the first one from the next character on, or none at the
end of the line. -/
inductive GuardedEnd (contentStart : Option Nat) (line : List Char) (position : Nat) :
    Option Match → Prop
  | absent (foundEq : find position = none) : GuardedEnd contentStart line position none
  | first {found : Match} (foundEq : find position = some found)
      (fits : ¬ found.EmptyAt contentStart) :
      GuardedEnd contentStart line position (some found)
  | beyond {found : Match} {before after : List Char} {c : Char}
      (foundEq : find position = some found) (empty : found.EmptyAt contentStart)
      (lineEq : line = before ++ c :: after)
      (startEq : found.start = Text.byteLength before) :
      GuardedEnd contentStart line position (find (Text.byteLength (before ++ [c])))
  | atLineEnd {found : Match} (foundEq : find position = some found)
      (empty : found.EmptyAt contentStart) (startEq : found.start = Text.byteLength line) :
      GuardedEnd contentStart line position none

/-- The loop without a bound on its turns: from a position it makes searches that start at
certain places, and comes out with a match or without one. -/
inductive EndSearch (allowEmpty : Bool) (contentStart : Option Nat) (line : List Char) :
    Nat → List Nat → Option Match → Prop
  | absent {position : Nat} (foundEq : find position = none) :
      EndSearch allowEmpty contentStart line position [position] none
  | taken {position : Nat} {found : Match} (foundEq : find position = some found)
      (fits : allowEmpty = true ∨ ¬ found.EmptyAt contentStart) :
      EndSearch allowEmpty contentStart line position [position] (some found)
  | stopped {position : Nat} {found : Match} (foundEq : find position = some found)
      (forbids : allowEmpty = false) (empty : found.EmptyAt contentStart)
      (atEnd : nextBoundary? line found.start = none) :
      EndSearch allowEmpty contentStart line position [position] none
  | passed {position next : Nat} {found : Match} {origins : List Nat}
      {outcome : Option Match} (foundEq : find position = some found)
      (forbids : allowEmpty = false) (empty : found.EmptyAt contentStart)
      (nextEq : nextBoundary? line found.start = some next)
      (later : EndSearch allowEmpty contentStart line next origins outcome) :
      EndSearch allowEmpty contentStart line position (position :: origins) outcome

variable {find} {allowEmpty : Bool} {contentStart : Option Nat} {line : List Char}
  {position : Nat} {origins : List Nat} {outcome : Option Match}

/-- The loop comes out in one way. -/
theorem EndSearch.unique {others : List Nat} {other : Option Match}
    (search : EndSearch find allowEmpty contentStart line position origins outcome)
    (again : EndSearch find allowEmpty contentStart line position others other) :
    others = origins ∧ other = outcome := by
  induction search generalizing others other with
  -- A search from one place finds one thing, which tells the constructors apart.
  | absent foundEq => cases again <;> simp_all
  | taken foundEq fits => cases again <;> simp_all
  | stopped foundEq forbids empty atEnd => cases again <;> simp_all
  | passed foundEq forbids empty nextEq later ih =>
      cases again with
      | passed foundEq' _ _ nextEq' later' =>
          obtain rfl := Option.some.inj (foundEq.symm.trans foundEq')
          obtain rfl := Option.some.inj (nextEq.symm.trans nextEq')
          obtain ⟨rfl, rfl⟩ := ih later'
          exact ⟨rfl, rfl⟩
      | _ => simp_all

/-- The loop ends with its second search at the latest. -/
theorem exists_endSearch (contentStart : Option Nat)
    (onward : ∀ {position found}, find position = some found →
      position ≤ found.start ∧ Boundary line found.start) (position : Nat) :
    ∃ origins outcome, EndSearch find false contentStart line position origins outcome ∧
      origins.length ≤ 2 ∧ GuardedEnd find contentStart line position outcome := by
  cases foundEq : find position with
  | none => exact ⟨[position], none, .absent foundEq, by simp, .absent foundEq⟩
  | some found =>
      by_cases empty : found.EmptyAt contentStart
      case neg =>
        exact ⟨[position], some found, .taken foundEq (.inr empty), by simp,
          .first foundEq empty⟩
      obtain ⟨before, rest, rfl, startEq⟩ := (onward foundEq).2
      have nextEq := nextBoundary?_append before rest
      rw [startEq] at nextEq
      cases rest with
      | nil =>
          refine ⟨[position], none, .stopped foundEq rfl empty nextEq, by simp,
            .atLineEnd foundEq empty ?_⟩
          rw [List.append_nil, startEq]
      | cons c after =>
          refine ⟨[position, Text.byteLength (before ++ [c])], _,
            .passed foundEq rfl empty nextEq ?_, Nat.le_refl 2,
            .beyond foundEq empty rfl startEq.symm⟩
          -- A match behind the start of the interior is not forbidden.
          cases laterEq : find (Text.byteLength (before ++ [c])) with
          | none => exact .absent laterEq
          | some later =>
              refine .taken laterEq (.inr fun laterEmpty => ?_)
              have further : found.start < Text.byteLength (before ++ [c]) :=
                lt_of_nextBoundary? nextEq
              have reached := (onward laterEq).1
              have same := Option.some.inj (empty.2.trans laterEmpty.2.symm)
              omega

/-- One turn of the loop. -/
theorem searchClose?_succ (scanner : Scanner) (allowEmpty : Bool) (contentStart : Option Nat)
    (line : List Char) (anchor : Option Nat) (fuel position : Nat) :
    searchClose? scanner allowEmpty contentStart line anchor (fuel + 1) position =
      (scanner.find line position anchor).bind fun found =>
        if allowEmpty = false ∧ found.EmptyAt contentStart then
          (nextBoundary? line found.start).bind
            (searchClose? scanner allowEmpty contentStart line anchor fuel)
        else some found := by
  rw [searchClose?]
  cases scanner.find line position anchor with
  | none => rfl
  | some found =>
      simp only [Option.bind_some, Match.EmptyAt, Bool.and_eq_true, Bool.not_eq_true',
        beq_iff_eq, and_assoc]
      cases nextBoundary? line found.start <;> rfl

/-- Fuel for as many searches as the loop makes leaves its outcome as it is. -/
theorem EndSearch.searchClose?_eq {scanner : Scanner} {anchor : Option Nat}
    (search : EndSearch (fun position => scanner.find line position anchor) allowEmpty
      contentStart line position origins outcome) (spare : Nat) :
    searchClose? scanner allowEmpty contentStart line anchor (spare + origins.length)
      position = outcome := by
  induction search with
  | absent foundEq => exact (searchClose?_succ ..).trans (by rw [foundEq]; rfl)
  | taken foundEq fits =>
      refine (searchClose?_succ ..).trans ?_
      rw [foundEq, Option.bind_some, if_neg]
      simpa [imp_iff_or_not, or_comm] using fits
  | stopped foundEq forbids empty atEnd =>
      refine (searchClose?_succ ..).trans ?_
      rw [foundEq, Option.bind_some, if_pos ⟨forbids, empty⟩, atEnd, Option.bind_none]
  | passed foundEq forbids empty nextEq _ ih =>
      refine (searchClose?_succ ..).trans ?_
      rw [foundEq, Option.bind_some, if_pos ⟨forbids, empty⟩, nextEq, Option.bind_some]
      exact ih

/-- The loop never comes out with a match that the rule forbids. -/
theorem not_emptyAt_of_searchClose? {scanner : Scanner} {anchor : Option Nat} {fuel : Nat}
    {found : Match}
    (foundEq : searchClose? scanner false contentStart line anchor fuel position =
      some found) : ¬ found.EmptyAt contentStart := by
  induction fuel generalizing position with
  | zero => cases foundEq
  | succ fuel ih =>
      rw [searchClose?_succ] at foundEq
      obtain ⟨other, -, turn⟩ := Option.bind_eq_some_iff.mp foundEq
      split at turn
      case isTrue =>
        obtain ⟨next, -, later⟩ := Option.bind_eq_some_iff.mp turn
        exact ih later
      case isFalse fits =>
        obtain rfl := Option.some.inj turn
        exact fun empty => fits ⟨rfl, empty⟩

end Loop

/-- The first match of the pattern that ends a frame's span. -/
def closingMatch? (grammar : Grammar) (frame : Frame) (line : List Char)
    (anchor : Option Nat) (position : Nat) : Option Match :=
  (grammar.closingScanner? frame).bind fun scanner => scanner.find line position anchor

variable {grammar : Grammar} {line : List Char}

theorem closingMatch?_eq {frame : Frame} {scanner : Scanner}
    (scannerEq : grammar.closingScanner? frame = some scanner) (line : List Char)
    (anchor : Option Nat) :
    grammar.closingMatch? frame line anchor =
      fun position => scanner.find line position anchor := by
  funext position
  rw [closingMatch?, scannerEq, Option.bind_some]

/-- The search for the end of an innermost span of a rule is the loop, with more fuel than it
needs. -/
theorem nextClose?_eq_searchClose? {top : OpenFrame} {rule : SpanRule}
    (ruleEq : grammar.rule? top.frame.rule = some (.span rule)) (line : List Char)
    (position : Nat) (anchor : Option Nat) :
    grammar.nextClose? top line position anchor =
      (grammar.closingScanner? top.frame).bind fun scanner =>
        searchClose? scanner rule.allowEmptySpan (top.opening.map Opening.contentStart) line
          anchor (line.length + 2) position := by
  rw [nextClose?, ruleEq]
  cases grammar.closingScanner? top.frame <;> rfl

/-- A step that takes the innermost frame away closes it by a match. -/
theorem exists_close_of_pops {scan next : Scan} {top : OpenFrame} {outer : List OpenFrame}
    (stackEq : scan.stack = top :: outer) (stepEq : grammar.step line scan = .more next)
    (pops : next.stack = outer) :
    ∃ found, grammar.upcomingIn? line scan = some (.close found) ∧
      next = grammar.closedScan scan top outer found := by
  have turn : Turn grammar line scan (.more next) := stepEq ▸ step_turn scan
  have keptOn (added : List OpenFrame) (kept : added ++ scan.stack = outer) : False := by
    have := congrArg List.length kept
    rw [stackEq, List.length_append, List.length_cons] at this
    omega
  cases turn with
  | close found other below upcoming otherEq =>
      obtain ⟨rfl, rfl⟩ := List.cons.inj (stackEq.symm.trans otherEq)
      exact ⟨found, upcoming, rfl⟩
  | pass => exact (keptOn [] pops).elim
  | opens found id rule =>
      exact (keptOn [grammar.openFrame line scan id rule found] pops).elim

/-- Where an engine's searches go onward, the end of a span that may not be empty is the first
match of its pattern, unless this is empty where the interior starts.  Then it is the first
match from the next character on, and there is none at the end of the line.  The loop comes
out with it after two searches at most.  A span that was opened on a line is never closed on
it by an empty match where the match that opened it ended, and this with every engine. -/
theorem empty_span_guard (grammar : Grammar) :
    (grammar.engine.SearchesOnward → ∀ (top : OpenFrame) (rule : SpanRule),
      grammar.rule? top.frame.rule = some (.span rule) → rule.allowEmptySpan = false →
      ∀ (line : List Char) (position : Nat) (anchor : Option Nat),
        GuardedEnd (grammar.closingMatch? top.frame line anchor)
            (top.opening.map Opening.contentStart) line position
            (grammar.nextClose? top line position anchor) ∧
          ∀ scanner, grammar.closingScanner? top.frame = some scanner →
            ∃ origins, origins.length ≤ 2 ∧ ∀ searched outcome,
              EndSearch (fun place => scanner.find line place anchor) rule.allowEmptySpan
                  (top.opening.map Opening.contentStart) line position searched outcome ↔
                searched = origins ∧
                  outcome = grammar.nextClose? top line position anchor) ∧
    ∀ (line : List Char) (state : State) (opened : OpenFrame) (outer : List OpenFrame)
      (rule : SpanRule) (began : Match) (scan next : Scan),
      grammar.OpensBy line state opened rule began → rule.allowEmptySpan = false →
      scan.stack = opened :: outer → grammar.step line scan = .more next →
      next.stack = outer →
      ∃ found, grammar.upcomingIn? line scan = some (.close found) ∧
        next = grammar.closedScan scan opened outer found ∧
        ¬ (found.start = found.stop ∧ found.start = began.stop) := by
  refine ⟨fun onward top rule ruleEq forbids line position anchor => ?search,
    fun line state opened outer rule began scan next opens forbids stackEq stepEq pops =>
      ?run⟩
  case search =>
    rw [nextClose?_eq_searchClose? ruleEq, forbids]
    cases scannerEq : grammar.closingScanner? top.frame with
    | none => exact ⟨.absent (by rw [closingMatch?, scannerEq]; rfl), by simp⟩
    | some scanner =>
        obtain ⟨pattern, compiled⟩ := closingScanner?_compiles scannerEq
        rw [closingMatch?_eq scannerEq, Option.bind_some]
        have findsOnward : ∀ {place found}, scanner.find line place anchor = some found →
            place ≤ found.start ∧ Boundary line found.start := onward compiled
        obtain ⟨origins, outcome, search, few, guarded⟩ :=
          exists_endSearch (top.opening.map Opening.contentStart) findsOnward position
        have outcomeEq := search.searchClose?_eq (line.length + 2 - origins.length)
        rw [Nat.sub_add_cancel (by omega)] at outcomeEq
        rw [outcomeEq]
        refine ⟨guarded, fun other same => ⟨origins, few, fun searched otherOutcome => ?_⟩⟩
        obtain rfl := Option.some.inj same
        exact ⟨search.unique, by rintro ⟨rfl, rfl⟩; exact search⟩
  case run =>
    obtain ⟨found, upcoming, nextEq⟩ := exists_close_of_pops stackEq stepEq pops
    refine ⟨found, upcoming, nextEq, fun ⟨noCharacter, atStart⟩ => ?_⟩
    rcases upcoming?_cases upcoming with ⟨_, _, starts, -⟩ | ⟨_, top, same, topEq, closeEq⟩
    · cases starts
    · cases same
      rw [stackEq] at topEq
      obtain rfl := Option.some.inj topEq
      rw [nextClose?_eq_searchClose? opens.rule_eq, forbids, opens.contentStart_eq] at closeEq
      obtain ⟨scanner, -, searchEq⟩ := Option.bind_eq_some_iff.mp closeEq
      exact not_emptyAt_of_searchClose? searchEq ⟨noCharacter, congrArg some atStart⟩

/-- Comments that end with an `x`, or nowhere, after a number sign. -/
def guardDocument : GrammarDocument where
  scopeName := some "source.guard"
  name := none
  fileTypes := []
  patterns := some [{
    name := some "comment"
    opening := some "#"
    closing := some "x*"
    allowEmptySpan := some false
  }]
  repository := []

/-- In the line `#éx` the end matches without a character behind the number sign.  The search
goes on behind the letter, which takes two bytes, and the span is closed by the `x`. -/
theorem guardDocument_guards :
    ∃ grammar, ofDocument .standard true guardDocument = .ok grammar ∧
      ∃ (scan : Scan) (opened : OpenFrame) (rule : SpanRule) (began : Match)
        (scanner : Scanner) (origins : List Nat),
        grammar.OpensBy ['#', 'é', 'x'] .initial opened rule began ∧ began.stop = 1 ∧
        rule.allowEmptySpan = false ∧ scan.stack = [opened] ∧
        (scanner.find ['#', 'é', 'x'] 1 (some 1)).map Match.stop = some 1 ∧
        (grammar.nextClose? opened ['#', 'é', 'x'] 1 (some 1)).map Match.start = some 3 ∧
        GuardedEnd (grammar.closingMatch? opened.frame ['#', 'é', 'x'] (some 1)) (some 1)
          ['#', 'é', 'x'] 1 (grammar.nextClose? opened ['#', 'é', 'x'] 1 (some 1)) ∧
        EndSearch (fun place => scanner.find ['#', 'é', 'x'] place (some 1)) false (some 1)
          ['#', 'é', 'x'] 1 origins (grammar.nextClose? opened ['#', 'é', 'x'] 1 (some 1)) ∧
        origins.length ≤ 2 ∧
        ∃ found, grammar.upcomingIn? ['#', 'é', 'x'] scan = some (.close found) ∧
          grammar.step ['#', 'é', 'x'] scan = .more (grammar.closedScan scan opened [] found) ∧
          ¬ (found.start = found.stop ∧ found.start = 1) := by
  let line := ['#', 'é', 'x']
  let first := Scan.start .initial
  have evaluated : ((ofDocument .standard true guardDocument).toOption.any fun grammar =>
      (grammar.step line first).next?.any fun scan =>
        scan.stack.head?.any fun opened =>
          (grammar.closingScanner? opened.frame).any fun scanner =>
            (grammar.step line scan).next?.any fun closed =>
              ((grammar.span? opened.frame.rule).any fun rule => !rule.allowEmptySpan) &&
              decide (scan.stack = [opened] ∧ closed.stack = [] ∧
                opened.opening.map Opening.contentStart = some 1 ∧
                (scanner.find line 1 (some 1)).map Match.stop = some 1 ∧
                (grammar.nextClose? opened line 1 (some 1)).map Match.start = some 3)) =
        true := by
    decide +kernel
  obtain ⟨grammar, loaded, checked⟩ := exists_ok_of_any evaluated
  obtain ⟨scan, scanEq, checked⟩ := (Option.any_eq_true _ _).mp checked
  obtain ⟨opened, -, checked⟩ := (Option.any_eq_true _ _).mp checked
  obtain ⟨scanner, scannerEq, checked⟩ := (Option.any_eq_true _ _).mp checked
  obtain ⟨closed, closedEq, checked⟩ := (Option.any_eq_true _ _).mp checked
  obtain ⟨forbids, checked⟩ := (Bool.and_eq_true _ _).mp checked
  obtain ⟨stackEq, allClosed, contentEq, passedOver, further⟩ := of_decide_eq_true checked
  have closes : grammar.step line scan = .more closed := Step.next?_eq_some.mp closedEq
  have reached : grammar.Reaches line first scan := .single (Step.next?_eq_some.mp scanEq)
  obtain ⟨rule, began, opens⟩ :=
    exists_opensBy_of_initial reached (stackEq ▸ List.mem_singleton_self opened)
  have beganEq : began.stop = 1 :=
    Option.some.inj (opens.contentStart_eq.symm.trans contentEq)
  have ruleEq := opens.rule_eq
  rw [Rulebook.span?_eq_some.mpr ruleEq, Option.any_some, Bool.not_eq_true'] at forbids
  have onward : grammar.engine.SearchesOnward := by
    rw [(ofDocument_compiles loaded).1]
    exact Engine.standard_searchesOnward
  obtain ⟨guarded, loops⟩ :=
    (empty_span_guard grammar).1 onward opened rule ruleEq forbids line 1 (some 1)
  obtain ⟨origins, few, runs⟩ := loops scanner scannerEq
  have search := (runs _ _).mpr ⟨rfl, rfl⟩
  rw [contentEq] at guarded search
  rw [forbids] at search
  obtain ⟨found, upcoming, closedBy, notEmpty⟩ := (empty_span_guard grammar).2 line .initial
    opened [] rule began scan closed opens forbids stackEq closes allClosed
  rw [beganEq] at notEmpty
  exact ⟨grammar, loaded, scan, opened, rule, began, scanner, origins, opens, beganEq, forbids,
    stackEq, passedOver, further, guarded, search, few, found, upcoming,
    closes.trans (congrArg _ closedBy), notEmpty⟩

end Grammar

end Scopelight
