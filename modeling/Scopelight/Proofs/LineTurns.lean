import Scopelight.Line.Tokenize

/-!
# The turns of a scan

A step of the tokenizer either ends the line or goes on in one of three ways: it closes the
innermost span, passes a match of a single pattern, or opens a span.  The relation `Turn`
lists all ways in which a step can come out, each with the reason for it.  An invariant of
a scan needs one case for each, and a run then keeps it.
-/

namespace Scopelight

/-- A step that goes on keeps an invariant, and one that ends the line has a good end. -/
def Step.Keeps (invariant : Scan → Prop) (good : List OpenFrame → Pieces → Prop) :
    Step → Prop
  | .done stack pieces => good stack pieces
  | .more next => invariant next

namespace Grammar

variable (grammar : Grammar) (line : List Char)

/-- Whether an empty closing match was already taken at the same place and depth. -/
def Repeated (scan : Scan) (found : Match) : Prop :=
  found.start = found.stop ∧ scan.emptyClose = some (found.start, scan.stack.length)

def upcomingIn? (scan : Scan) : Option Upcoming :=
  grammar.upcoming? scan.stack line scan.position scan.anchor

/-- The ways in which a step can come out. -/
inductive Turn (scan : Scan) : Step → Prop
  | exhausted (absent : grammar.upcomingIn? line scan = none) :
      Turn scan (grammar.giveUp line scan.stack scan.pieces)
  /-- The same empty closing match comes again, or there is no span to close. -/
  | refused (found : Match)
      (upcoming : grammar.upcomingIn? line scan = some (.close found))
      (reason : Repeated scan found ∨ scan.stack = []) :
      Turn scan (grammar.giveUp line scan.stack scan.pieces)
  /-- The span was opened and would be closed without any progress. -/
  | stuckClose (found : Match) (top : OpenFrame) (outer : List OpenFrame)
      (upcoming : grammar.upcomingIn? line scan = some (.close found))
      (stackEq : scan.stack = top :: outer)
      (noProgress : found.stop ≤ scan.position)
      (entered : top.opening.map Opening.entered = some scan.position) :
      Turn scan (grammar.giveUp line scan.stack (grammar.closedPieces scan top found))
  | close (found : Match) (top : OpenFrame) (outer : List OpenFrame)
      (upcoming : grammar.upcomingIn? line scan = some (.close found))
      (stackEq : scan.stack = top :: outer) (fresh : ¬ Repeated scan found)
      (progress : found.stop ≤ scan.position →
        top.opening.map Opening.entered ≠ some scan.position) :
      Turn scan (.more (grammar.closedScan scan top outer found))
  | stuckSingle (found : Match) (id : RuleId) (rule : SingleRule)
      (upcoming : grammar.upcomingIn? line scan = some (.start id found))
      (ruleEq : grammar.rule? id = some (.single rule))
      (noProgress : found.stop ≤ scan.position) :
      Turn scan (grammar.giveUp line scan.stack (grammar.passedPieces scan rule found))
  | pass (found : Match) (id : RuleId) (rule : SingleRule)
      (upcoming : grammar.upcomingIn? line scan = some (.start id found))
      (ruleEq : grammar.rule? id = some (.single rule))
      (progress : scan.position < found.stop) :
      Turn scan (.more (grammar.passedScan scan rule found))
  /-- The span was opened at this position before. -/
  | reopened (found : Match) (id : RuleId) (rule : SpanRule)
      (upcoming : grammar.upcomingIn? line scan = some (.start id found))
      (ruleEq : grammar.rule? id = some (.span rule))
      (noProgress : found.stop ≤ scan.position)
      (entered : reentered scan.stack id scan.position = true) :
      Turn scan (grammar.giveUp line scan.stack (grammar.skippedPieces scan found))
  | opens (found : Match) (id : RuleId) (rule : SpanRule)
      (upcoming : grammar.upcomingIn? line scan = some (.start id found))
      (ruleEq : grammar.rule? id = some (.span rule))
      (progress : found.stop ≤ scan.position →
        reentered scan.stack id scan.position = false) :
      Turn scan (.more (grammar.openedScan line scan id rule found))
  /-- The rule that starts cannot match on its own. -/
  | unfit (found : Match) (id : RuleId)
      (upcoming : grammar.upcomingIn? line scan = some (.start id found))
      (notSingle : ∀ rule, grammar.rule? id ≠ some (.single rule))
      (notSpan : ∀ rule, grammar.rule? id ≠ some (.span rule)) :
      Turn scan (grammar.giveUp line scan.stack (grammar.skippedPieces scan found))

variable {grammar line}

private theorem takeClose_turn {scan : Scan} {found : Match}
    (upcoming : grammar.upcomingIn? line scan = some (.close found)) :
    Turn grammar line scan (grammar.takeClose line scan found) := by
  unfold takeClose
  split
  case isTrue again => exact .refused found upcoming (.inl again)
  case isFalse fresh =>
    split
    case h_1 bottom =>
      rw [← bottom]
      exact .refused found upcoming (.inr bottom)
    case h_2 top outer stackEq =>
      split
      case isTrue stuck =>
        rw [← stackEq]
        exact .stuckClose found top outer upcoming stackEq stuck.1 stuck.2
      case isFalse moving =>
        exact .close found top outer upcoming stackEq fresh
          fun noProgress entered => moving ⟨noProgress, entered⟩

private theorem takeSingle_turn {scan : Scan} {found : Match} {id : RuleId}
    {rule : SingleRule}
    (upcoming : grammar.upcomingIn? line scan = some (.start id found))
    (ruleEq : grammar.rule? id = some (.single rule)) :
    Turn grammar line scan (grammar.takeSingle line scan rule found) := by
  unfold takeSingle
  split
  case isTrue stuck => exact .stuckSingle found id rule upcoming ruleEq stuck
  case isFalse moving =>
    exact .pass found id rule upcoming ruleEq (Nat.lt_of_not_le moving)

private theorem takeOpen_turn {scan : Scan} {found : Match} {id : RuleId} {rule : SpanRule}
    (upcoming : grammar.upcomingIn? line scan = some (.start id found))
    (ruleEq : grammar.rule? id = some (.span rule)) :
    Turn grammar line scan (grammar.takeOpen line scan id rule found) := by
  unfold takeOpen
  split
  case isTrue stuck => exact .reopened found id rule upcoming ruleEq stuck.1 stuck.2
  case isFalse moving =>
    refine .opens found id rule upcoming ruleEq fun noProgress => ?_
    exact Bool.eq_false_iff.mpr fun entered => moving ⟨noProgress, entered⟩

/-- Every step comes out in one of the listed ways. -/
theorem step_turn (scan : Scan) : Turn grammar line scan (grammar.step line scan) := by
  unfold step
  split
  case h_1 absent => exact .exhausted absent
  case h_2 found upcoming => exact takeClose_turn upcoming
  case h_3 id found upcoming =>
    split
    case h_1 rule ruleEq => exact takeSingle_turn upcoming ruleEq
    case h_2 rule ruleEq => exact takeOpen_turn upcoming ruleEq
    case h_3 notSingle notSpan =>
      exact .unfit found id upcoming notSingle notSpan

/-- What every step keeps, a run keeps: it ends well, also if it is cut short. -/
theorem runSteps_keeps {invariant : Scan → Prop} {good : List OpenFrame → Pieces → Prop}
    (step : ∀ scan, invariant scan → (grammar.step line scan).Keeps invariant good)
    (cut : ∀ scan, invariant scan →
      good scan.stack (grammar.finalPieces line scan.stack scan.pieces))
    (fuel : Nat) {scan : Scan} (holds : invariant scan) :
    good (grammar.runSteps line fuel scan).1 (grammar.runSteps line fuel scan).2 := by
  induction fuel generalizing scan with
  | zero => exact cut scan holds
  | succ fuel ih =>
      have kept := step scan holds
      unfold runSteps
      split
      case h_1 stack pieces outcome => simpa [outcome, Step.Keeps] using kept
      case h_2 next outcome =>
        rw [outcome] at kept
        exact ih kept

end Grammar

end Scopelight
