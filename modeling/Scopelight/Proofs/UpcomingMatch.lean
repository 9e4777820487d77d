import Scopelight.Line.Candidate

/-!
# What can come next in a line

The next match is a match of a candidate of the innermost context, found by the scanner of
the candidates, or a match of the pattern that closes the innermost span, found by its
scanner.  These are the facts about the choice between the two that do not depend on what a
scanner finds.
-/

namespace Scopelight

/-- The match that comes next, of whatever it is one. -/
def Upcoming.found : Upcoming → Match
  | .start _ found => found
  | .close found => found

theorem toOption_eq_some_iff {Error Value : Type} {result : Except Error Value}
    {value : Value} : result.toOption = some value ↔ result = .ok value := by
  cases result with
  | error error => simp [Except.toOption]
  | ok other => simp [Except.toOption]

namespace Grammar

variable {grammar : Grammar} {line : List Char} {position : Nat} {anchor : Option Nat}

theorem candidateScanner?_compiles {id : RuleId} {scanner : Scanner}
    (scannerEq : grammar.candidateScanner? id = some scanner) :
    grammar.engine.compile (grammar.startPatterns (grammar.candidates id)) = .ok scanner := by
  unfold Rulebook.candidateScanner? at scannerEq
  split at scannerEq
  · cases scannerEq
  · exact toOption_eq_some_iff.mp scannerEq

theorem nextStart?_eq_some_iff {context id : RuleId} {found : Match} :
    grammar.nextStart? context line position anchor = some (id, found) ↔
      context < grammar.rules.size ∧
        ∃ scanner, grammar.candidateScanner? context = some scanner ∧
          scanner.find line position anchor = some found ∧
          (grammar.candidates context)[found.index]? = some id := by
  unfold nextStart?
  rw [context?_eq]
  by_cases inside : context < grammar.rules.size
  · simp only [inside, if_true, true_and, Option.bind_eq_bind, Option.bind_some,
      Rulebook.context, Option.bind_eq_some_iff]
    constructor
    · rintro ⟨scanner, scannerEq, other, foundEq, rule, ruleEq, same⟩
      cases same
      exact ⟨scanner, scannerEq, foundEq, ruleEq⟩
    · rintro ⟨scanner, scannerEq, foundEq, ruleEq⟩
      exact ⟨scanner, scannerEq, found, foundEq, id, ruleEq, rfl⟩
  · simp [inside]

theorem closingScanner?_compiles {frame : Frame} {scanner : Scanner}
    (scannerEq : grammar.closingScanner? frame = some scanner) :
    ∃ pattern, grammar.engine.compile [pattern] = .ok scanner := by
  unfold closingScanner? at scannerEq
  split at scannerEq
  · exact ⟨_, toOption_eq_some_iff.mp scannerEq⟩
  · obtain ⟨context, contextEq, closingEq⟩ := Option.bind_eq_some_iff.mp scannerEq
    rw [context?_eq] at contextEq
    split at contextEq
    · obtain rfl := Option.some.inj contextEq
      simp only [Rulebook.context, Rulebook.closingScanner?] at closingEq
      split at closingEq
      · split at closingEq
        · cases closingEq
        · exact ⟨_, toOption_eq_some_iff.mp closingEq⟩
      · cases closingEq
    · cases contextEq

/-- The closing match is one that the scanner finds, from the position or a later one. -/
theorem searchClose?_found {scanner : Scanner} {allowEmpty : Bool}
    {contentStart : Option Nat} {fuel : Nat} {found : Match}
    (foundEq :
      searchClose? scanner allowEmpty contentStart line anchor fuel position = some found) :
    ∃ origin, scanner.find line origin anchor = some found := by
  induction fuel generalizing position with
  | zero => cases foundEq
  | succ fuel ih =>
      unfold searchClose? at foundEq
      split at foundEq
      · cases foundEq
      · next other otherEq =>
          split at foundEq
          · split at foundEq
            · cases foundEq
            · exact ih foundEq
          · cases foundEq
            exact ⟨position, otherEq⟩

theorem nextClose?_found {top : OpenFrame} {found : Match}
    (foundEq : grammar.nextClose? top line position anchor = some found) :
    ∃ pattern scanner origin, grammar.engine.compile [pattern] = .ok scanner ∧
      scanner.find line origin anchor = some found := by
  unfold nextClose? at foundEq
  split at foundEq
  · split at foundEq
    · cases foundEq
    · next scanner scannerEq =>
        obtain ⟨pattern, compiled⟩ := closingScanner?_compiles scannerEq
        obtain ⟨origin, foundHere⟩ := searchClose?_found foundEq
        exact ⟨pattern, scanner, origin, compiled, foundHere⟩
  · cases foundEq

/-- What comes next is the next start or the next end. -/
theorem upcoming?_cases {stack : List OpenFrame} {upcoming : Upcoming}
    (upcomingEq : grammar.upcoming? stack line position anchor = some upcoming) :
    (∃ id found, upcoming = .start id found ∧
        grammar.nextStart? (grammar.contextOf stack) line position anchor =
          some (id, found)) ∨
      ∃ found top, upcoming = .close found ∧ stack.head? = some top ∧
        grammar.nextClose? top line position anchor = some found := by
  unfold upcoming? at upcomingEq
  simp only at upcomingEq
  split at upcomingEq
  case h_1 => cases upcomingEq
  case h_2 id found startEq closeEq =>
    cases upcomingEq
    exact .inl ⟨id, found, rfl, startEq⟩
  case h_3 found startEq closeEq =>
    cases upcomingEq
    obtain ⟨top, topEq, foundEq⟩ := Option.bind_eq_some_iff.mp closeEq
    exact .inr ⟨found, top, rfl, topEq, foundEq⟩
  case h_4 id started closed startEq closeEq =>
    split at upcomingEq
    · cases upcomingEq
      obtain ⟨top, topEq, foundEq⟩ := Option.bind_eq_some_iff.mp closeEq
      exact .inr ⟨closed, top, rfl, topEq, foundEq⟩
    · cases upcomingEq
      exact .inl ⟨id, started, rfl, startEq⟩

end Grammar

end Scopelight
