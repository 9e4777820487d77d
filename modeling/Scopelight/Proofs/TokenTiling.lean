import Scopelight.Proofs.LaidPieces
import Scopelight.Proofs.LineTurns
import Scopelight.Proofs.LoadedGrammar
import Scopelight.Proofs.StandardEngine
import Scopelight.Proofs.UpcomingMatch

/-!
# The tokens of a line tile the line

Whatever the rules and the states say, every step of a scan lays down pieces that end
within the line, and every way to end the line covers the rest of it.  Nothing is assumed
of a scanner but that what it reports lies in the line.
-/

namespace Scopelight

/-- The offsets of a match at which pieces may end lie in a line of some length. -/
structure Match.Within (length : Nat) (found : Match) : Prop where
  startLe : found.start ≤ length
  stopLe : found.stop ≤ length
  capturesLe : ∀ start stop, some (start, stop) ∈ found.captures → stop ≤ length

theorem Scanner.WithinLine.found_within {scanner : Scanner} (within : scanner.WithinLine)
    {line : List Char} {position : Nat} {anchor : Option Nat} {found : Match}
    (foundEq : scanner.find line position anchor = some found) :
    found.Within (Text.byteLength line) where
  startLe := (within.startLeStop foundEq).trans (within.stopLe foundEq)
  stopLe := within.stopLe foundEq
  capturesLe := fun _ _ member => (within.capturesLe foundEq member).2

theorem Pieces.lower_le (length : Nat) : Pieces.Lower (· ≤ length) :=
  fun lowLe highLe => lowLe.trans highLe

theorem Match.Within.layMatch {length : Nat} {found : Match} (within : found.Within length)
    (pieces : Pieces) (before scopes : List Scope) (captures : Captures) :
    Pieces.Extends (· ≤ length) [] pieces (pieces.layMatch before scopes captures found) :=
  Pieces.layMatch_extends (Pieces.lower_le length) List.nil_prefix List.nil_prefix captures
    within.startLe within.stopLe within.capturesLe pieces

/-- Pieces that tile what they cover of a line. -/
structure Pieces.Fits (length : Nat) (pieces : Pieces) : Prop where
  tiled : pieces.Tiled
  coveredLe : pieces.covered ≤ length

theorem Pieces.Fits.extends {length : Nat} {before after : Pieces} (fits : before.Fits length)
    (extended : Extends (· ≤ length) [] before after) : after.Fits length :=
  ⟨extended.tiled fits.tiled, extended.covered_le fits.coveredLe⟩

namespace Grammar

variable {grammar : Grammar} {line : List Char}

theorem upcoming?_within (within : grammar.engine.WithinLine) {stack : List OpenFrame}
    {position : Nat} {anchor : Option Nat} {upcoming : Upcoming}
    (upcomingEq : grammar.upcoming? stack line position anchor = some upcoming) :
    upcoming.found.Within (Text.byteLength line) := by
  rcases upcoming?_cases upcomingEq with ⟨id, found, rfl, startEq⟩ |
    ⟨found, top, rfl, -, closeEq⟩
  · obtain ⟨-, scanner, scannerEq, foundEq, -⟩ := nextStart?_eq_some_iff.mp startEq
    exact (within (candidateScanner?_compiles scannerEq)).found_within foundEq
  · obtain ⟨_, _, _, compiled, foundEq⟩ := nextClose?_found closeEq
    exact (within compiled).found_within foundEq

theorem finalPieces_tiling {pieces : Pieces} (fits : pieces.Fits (Text.byteLength line))
    (stack : List OpenFrame) :
    Tiling (grammar.finalPieces line stack pieces).toList (Text.byteLength line) := by
  have tiled := fits.tiled.produce (Text.byteLength line)
    (Scan.scopesInside grammar.rootScopes stack)
  have covered : (grammar.finalPieces line stack pieces).covered = Text.byteLength line := by
    rw [finalPieces, Pieces.covered_produce, Nat.max_eq_right fits.coveredLe]
  exact covered ▸ tiled

theorem giveUp_fits {pieces : Pieces} {invariant : Scan → Prop} {stack : List OpenFrame}
    (fits : pieces.Fits (Text.byteLength line)) :
    (grammar.giveUp line stack pieces).Keeps invariant
      fun _ pieces => Tiling pieces.toList (Text.byteLength line) :=
  finalPieces_tiling fits stack

/-- Every turn lays down pieces that fit the line, and those at the end cover it. -/
theorem turn_fits (within : grammar.engine.WithinLine) {scan : Scan} {outcome : Step}
    (fits : scan.pieces.Fits (Text.byteLength line))
    (turn : Turn grammar line scan outcome) :
    outcome.Keeps (fun next => next.pieces.Fits (Text.byteLength line))
      fun _ pieces => Tiling pieces.toList (Text.byteLength line) := by
  cases turn with
  | exhausted => exact giveUp_fits fits
  | refused => exact giveUp_fits fits
  | stuckClose found top _ upcoming =>
      have foundWithin := upcoming?_within within upcoming
      exact giveUp_fits (fits.extends (foundWithin.layMatch _ _ _ _))
  | close found top _ upcoming =>
      have foundWithin := upcoming?_within within upcoming
      exact fits.extends (foundWithin.layMatch _ _ _ _)
  | stuckSingle found _ _ upcoming =>
      have foundWithin := upcoming?_within within upcoming
      exact giveUp_fits (fits.extends (foundWithin.layMatch _ _ _ _))
  | pass found _ _ upcoming =>
      have foundWithin := upcoming?_within within upcoming
      exact fits.extends (foundWithin.layMatch _ _ _ _)
  | reopened found _ _ upcoming =>
      have foundWithin := upcoming?_within within upcoming
      exact giveUp_fits (fits.extends (.produce (.refl _) foundWithin.startLe List.nil_prefix))
  | opens found _ _ upcoming =>
      have foundWithin := upcoming?_within within upcoming
      exact fits.extends (foundWithin.layMatch _ _ _ _)
  | unfit found _ upcoming =>
      have foundWithin := upcoming?_within within upcoming
      exact giveUp_fits (fits.extends (.produce (.refl _) foundWithin.startLe List.nil_prefix))

/-- The tokens of a line tile the line, from any state, and so does the one token of a line
that is too long to be scanned.  A line without characters has no tokens. -/
theorem tokenizeLine_tiling (within : grammar.engine.WithinLine) (limit : Nat)
    (line : List Char) (state : State) :
    Tiling (grammar.tokenizeLine line state).tokens (Text.byteLength line) ∧
      Tiling (grammar.tokenizeLineLimited limit line state).tokens (Text.byteLength line) ∧
      (line = [] → (grammar.tokenizeLine line state).tokens = [] ∧
        (grammar.tokenizeLineLimited limit line state).tokens = []) := by
  have started : (Scan.start state).pieces.Fits (Text.byteLength line) :=
    ⟨Pieces.tiled_empty, Nat.zero_le _⟩
  have whole : Tiling (grammar.tokenizeLine line state).tokens (Text.byteLength line) :=
    runSteps_keeps (fun scan fits => turn_fits within fits (step_turn scan))
      (fun scan fits => finalPieces_tiling fits scan.stack) (stepLimit line state) started
  have limited :
      Tiling (grammar.tokenizeLineLimited limit line state).tokens (Text.byteLength line) := by
    unfold tokenizeLineLimited
    split
    case isTrue => exact whole
    case isFalse tooLong =>
      -- A line over its limit has at least one byte, so its one token is not empty.
      have nonempty : 0 < Text.byteLength line := by omega
      exact ⟨by simpa using nonempty, List.isChain_singleton _, by simp, rfl⟩
  refine ⟨whole, limited, ?_⟩
  rintro rfl
  exact ⟨whole.eq_nil, limited.eq_nil⟩

/-- The tokens of a small grammar tile a line, also from a state whose frame names no rule
and has an end that does not compile. -/
theorem markDocument_tiling :
    ∃ grammar, Grammar.ofDocument .standard true markDocument = .ok grammar ∧
      grammar.engine.WithinLine ∧
      Tiling (grammar.tokenizeLine ['a', '<', 'a'] ⟨[⟨7, [], [], some "(", true⟩]⟩).tokens 3 ∧
      Tiling (grammar.tokenizeLineLimited 2 ['a', '<', 'a'] .initial).tokens 3 := by
  obtain ⟨grammar, loaded, -⟩ := markDocument_loads
  have within : grammar.engine.WithinLine := by
    rw [(ofDocument_compiles loaded).1]
    exact Engine.standard_withinLine
  exact ⟨grammar, loaded, within, (tokenizeLine_tiling within 2 _ _).1,
    (tokenizeLine_tiling within 2 _ _).2.1⟩

end Grammar

end Scopelight
