import Scopelight.Pattern.Engine
import Scopelight.Proofs.ScannerPriority

/-!
# The standard engine

A list of patterns compiles if each of them does, and the scanner has their programs in the
same order.  What its scanners find lies in the line that is searched.
-/

namespace Scopelight

/-- All offsets that a scanner reports lie in the line, and no match starts before the
search. -/
structure Scanner.WithinLine (scanner : Scanner) : Prop where
  startGe : ∀ {line position anchor found},
    scanner.find line position anchor = some found → position ≤ found.start
  startLeStop : ∀ {line position anchor found},
    scanner.find line position anchor = some found → found.start ≤ found.stop
  stopLe : ∀ {line position anchor found},
    scanner.find line position anchor = some found → found.stop ≤ Text.byteLength line
  capturesLe : ∀ {line position anchor found start stop},
    scanner.find line position anchor = some found → some (start, stop) ∈ found.captures →
    start ≤ Text.byteLength line ∧ stop ≤ Text.byteLength line

/-- All scanners of an engine report offsets in the line. -/
def Engine.WithinLine (engine : Engine) : Prop :=
  ∀ {patterns scanner}, engine.compile patterns = .ok scanner → scanner.WithinLine

namespace Pattern

theorem compileAll_getElem? {texts : List String} {patterns : List Compiled}
    (compiled : compileAll texts = .ok patterns) (index : Nat) :
    patterns[index]? = texts[index]?.bind compile? := by
  induction texts generalizing patterns index with
  | nil =>
      obtain rfl := Except.ok.inj compiled
      rfl
  | cons text texts ih =>
      unfold compileAll at compiled
      split at compiled
      · cases compiled
      · next pattern patternEq =>
          cases restEq : compileAll texts with
          | error error =>
              rw [restEq] at compiled
              cases compiled
          | ok rest =>
              rw [restEq] at compiled
              obtain rfl := Except.ok.inj compiled
              cases index with
              | zero => simp [patternEq]
              | succ index => simpa using ih restEq index

theorem compileAll_ok {texts : List String}
    (each : ∀ text ∈ texts, (compile? text).isSome = true) :
    ∃ patterns, compileAll texts = .ok patterns := by
  induction texts with
  | nil => exact ⟨[], rfl⟩
  | cons text texts ih =>
      obtain ⟨pattern, patternEq⟩ := Option.isSome_iff_exists.mp (each text (by simp))
      obtain ⟨patterns, patternsEq⟩ := ih fun other member => each other (by simp [member])
      exact ⟨pattern :: patterns, by simp [compileAll, patternEq, patternsEq, Except.map]⟩

end Pattern

namespace Engine

/-- A scanner of the standard engine searches the programs of its patterns. -/
theorem standard_compile {texts : List String} {scanner : Scanner}
    (compiled : standard.compile texts = .ok scanner) :
    ∃ patterns, Pattern.compileAll texts = .ok patterns ∧
      scanner = Pattern.scanner patterns := by
  change (Pattern.compileAll texts).map Pattern.scanner = .ok scanner at compiled
  cases patternsEq : Pattern.compileAll texts with
  | error error =>
      rw [patternsEq] at compiled
      cases compiled
  | ok patterns =>
      rw [patternsEq] at compiled
      exact ⟨patterns, rfl, (Except.ok.inj compiled).symm⟩

/-- The standard engine compiles a pattern if the pattern has a compiled form. -/
theorem standard_compiles_iff {text : String} :
    (∃ scanner, standard.compile [text] = .ok scanner) ↔
      ∃ compiled, Pattern.compile? text = some compiled := by
  change (∃ scanner, (Pattern.compileAll [text]).map Pattern.scanner = .ok scanner) ↔ _
  rw [Pattern.compileAll]
  cases Pattern.compile? text with
  | none => simp [Except.map]
  | some compiled => simp [Pattern.compileAll, Except.map]

theorem standard_withinLine : standard.WithinLine := by
  intro texts scanner compiled
  obtain ⟨patterns, -, rfl⟩ := standard_compile compiled
  have admitted : ∀ {line position anchor found},
      (Pattern.scanner patterns).find line position anchor = some found →
      Pattern.Reports line position anchor patterns found :=
    fun found => (Pattern.scanner_wins patterns _ _ _).reports _ found
  refine ⟨fun found => (admitted found).start_le, ?_, ?_, ?_⟩
  all_goals
    intro line position anchor found
  · intro foundEq
    obtain ⟨pattern, accepted, -, admits, matchEq⟩ := admitted foundEq
    rw [matchEq]
    exact admits.noted.2.startLeStop
  · intro foundEq
    obtain ⟨pattern, accepted, -, admits, matchEq⟩ := admitted foundEq
    rw [matchEq]
    exact admits.noted.2.stopLe
  · intro start stop foundEq member
    obtain ⟨pattern, accepted, -, admits, matchEq⟩ := admitted foundEq
    rw [matchEq] at member
    exact admits.noted.2.captures_le member

end Engine

end Scopelight
