import Scopelight.Proofs.ClassifiedText
import Scopelight.Proofs.PlanBeginnings

/-!
# The plan that matches next

Which match comes next can be told from the plans of the patterns.  Text at which no plan
matches is passed over.  Where some plan matches a text and nothing else, and the plans of
the candidates before it match nothing, its rule starts with this text; and where the plan
of the innermost span matches, the span ends, unless its rule prefers what is inside it.
-/

namespace Scopelight

/-- An offset between characters lies behind a text if it lies at none of its characters. -/
theorem Boundary.le_of_not_at {line before skipped rest : List Char} {offset : Nat}
    (boundary : Boundary line offset) (reached : Text.byteLength before ≤ offset)
    (lineEq : line = before ++ (skipped ++ rest))
    (notAt : ∀ c ∈ skipped, ∀ left right, line = left ++ c :: right →
      offset ≠ Text.byteLength left) :
    Text.byteLength before + Text.byteLength skipped ≤ offset := by
  induction skipped generalizing before with
  | nil => exact reached
  | cons c skipped ih =>
      have notHere := notAt c List.mem_cons_self before (skipped ++ rest) lineEq
      have hereEq : line = before ++ c :: (skipped ++ rest) := lineEq
      have apart := boundary.apart hereEq
      have behind : Text.byteLength (before ++ [c]) ≤ offset := by
        rw [Text.byteLength_append, Text.byteLength_cons, Text.byteLength_nil]
        omega
      have skippedLe := ih behind (by simpa using lineEq)
        fun d member => notAt d (List.mem_cons_of_mem _ member)
      rw [Text.byteLength_append, Text.byteLength_cons, Text.byteLength_nil] at skippedLe
      rw [Text.byteLength_cons]
      omega

namespace Pattern

variable {pattern : Option Compiled} {line before skipped text after rest : List Char}
  {position offset : Nat} {anchor : Option Nat}

/-- The match of a whole text that has no groups. -/
def wholeMatch (index start : Nat) (text : List Char) : Match :=
  ⟨index, start, start + Text.byteLength text,
    [some (start, start + Text.byteLength text)]⟩

/-- A pattern has a plan that matches nothing where a rest of a text begins. -/
def SilentAt (pattern : Option Compiled) (rest : List Char) : Prop :=
  ∃ plan, pattern = some (.ofPlan plan false) ∧ plan.Silent rest

/-- A pattern has a plan that matches a text, and nothing else, where this text comes next. -/
def OnlyMatches (pattern : Option Compiled) (text : List Char) : Prop :=
  ∃ plan, pattern = some (.ofPlan plan false) ∧ plan.matchesOnly text = true

/-- A pattern admits a match that starts at an offset. -/
def AdmitsAt (pattern : Option Compiled) (line : List Char) (position : Nat)
    (anchor : Option Nat) (offset : Nat) : Prop :=
  ∃ compiled accepted, pattern = some compiled ∧
    compiled.Admits line position anchor accepted ∧ accepted.start = offset

namespace AdmitsAt

theorem position_le (admits : AdmitsAt pattern line position anchor offset) :
    position ≤ offset := by
  obtain ⟨_, accepted, -, admitted, rfl⟩ := admits
  exact admitted.noted.1

theorem boundary (admits : AdmitsAt pattern line position anchor offset) :
    Boundary line offset := by
  obtain ⟨_, accepted, -, admitted, rfl⟩ := admits
  obtain ⟨origin, member, offsetEq⟩ := admitted.exists_position
  exact offsetEq ▸ (in_of_mem_positions member).boundary

theorem ne_of_silentAt (admits : AdmitsAt pattern line position anchor offset)
    (silent : SilentAt pattern rest) (lineEq : line = before ++ rest) :
    offset ≠ Text.byteLength before := by
  rintro rfl
  obtain ⟨_, accepted, ownEq, admitted, startEq⟩ := admits
  obtain ⟨plan, patternEq, nothing⟩ := silent
  obtain rfl := Option.some.inj (ownEq.symm.trans patternEq)
  obtain ⟨origin, member, -, spot, takes, rfl⟩ := admitted.takes
  obtain ⟨other, otherMember, restEq, offsetEq⟩ := exists_mem_positions lineEq
  obtain rfl := Cursor.eq_of_mem_onward member otherMember (startEq.trans offsetEq.symm)
  exact nothing ⟨origin, []⟩ spot restEq takes

/-- A match starts behind the text at whose characters its pattern matches nothing. -/
theorem le_of_silentAt (admits : AdmitsAt pattern line (Text.byteLength before) anchor offset)
    (silent : ∀ c ∈ skipped, ∀ rest, SilentAt pattern (c :: rest))
    (lineEq : line = before ++ (skipped ++ rest)) :
    Text.byteLength before + Text.byteLength skipped ≤ offset :=
  admits.boundary.le_of_not_at admits.position_le lineEq fun c member _ right split =>
    admits.ne_of_silentAt (silent c member right) split

end AdmitsAt

/-- Where a plan matches a text, and nothing else, its pattern admits the match of the whole
text. -/
theorem OnlyMatches.exists_admits (only : OnlyMatches pattern text)
    (lineEq : line = before ++ (text ++ after)) (reached : position ≤ Text.byteLength before)
    (anchor : Option Nat) (index : Nat) :
    ∃ compiled accepted, pattern = some compiled ∧
      compiled.Admits line position anchor accepted ∧
      accepted.stop = accepted.start + Text.byteLength text ∧
      wholeMatch index (Text.byteLength before) text = compiled.report index accepted := by
  obtain ⟨plan, patternEq, matching⟩ := only
  obtain ⟨origin, member, restEq, offsetEq⟩ := exists_mem_positions lineEq
  obtain ⟨last, passes⟩ := Cursor.exists_passes restEq
  have takes : plan.Takes ⟨origin, []⟩ ⟨last, []⟩ :=
    Plan.takes_of_matchesOnly matching passes rfl
  obtain ⟨accepted, startEq, admits⟩ : ∃ accepted, accepted.start = origin.offset ∧
      (Compiled.ofPlan plan false).Admits line position anchor accepted :=
    Compiled.exists_admits_of_takes member (offsetEq ▸ reached) takes
  refine ⟨_, accepted, patternEq, admits, ?_⟩
  obtain ⟨other, otherMember, -, spot, otherTakes, rfl⟩ := admits.takes
  obtain rfl := Cursor.eq_of_mem_onward otherMember member startEq
  have spotPasses := (Plan.passes_of_matchesOnly matching restEq otherTakes).1
  have stopEq := spotPasses.rest_eq.2
  refine ⟨stopEq, ?_⟩
  simp only [wholeMatch, Compiled.report, Compiled.ofPlan, Acceptance.captures, stopEq, offsetEq,
    Plan.captureCount_of_matchesOnly matching]
  rfl

end Pattern

namespace Grammar

open Pattern

variable (grammar : Grammar)

/-- The first candidate of a context that matches where a rest of a text begins matches the
text with which this rest begins, and nothing else. -/
def StartsFirst (context : RuleId) (text after : List Char) (id : RuleId) : Prop :=
  ∃ earlier later, grammar.candidates context = earlier ++ id :: later ∧
    OnlyMatches (grammar.startPattern? id) text ∧
    ∀ other ∈ earlier, SilentAt (grammar.startPattern? other) (text ++ after)

/-- Nothing starts or ends at the characters of a text. -/
structure Skips (stack : List OpenFrame) (skipped : List Char) : Prop where
  starts : ∀ id ∈ grammar.candidates (grammar.contextOf stack), ∀ c ∈ skipped, ∀ rest,
    SilentAt (grammar.startPattern? id) (c :: rest)
  closes : ∀ top ∈ stack.head?, ∀ c ∈ skipped, ∀ rest,
    SilentAt (grammar.closingPattern? top.frame) (c :: rest)

variable {grammar} {stack : List OpenFrame} {line before skipped text after : List Char}
  {position : Nat} {anchor : Option Nat} {outcome : Option Upcoming} {context id other : RuleId}
  {found started closed : Match} {top : OpenFrame}

theorem Skips.nil (grammar : Grammar) (stack : List OpenFrame) : grammar.Skips stack [] where
  starts := fun _ _ _ member => absurd member List.not_mem_nil
  closes := fun _ _ _ member => absurd member List.not_mem_nil

theorem MayStart.admitsAt (mayStart : grammar.MayStart context line position anchor id found) :
    AdmitsAt (grammar.startPattern? id) line position anchor found.start := by
  obtain ⟨-, pattern, accepted, patternEq, admits, foundEq⟩ := mayStart
  exact ⟨pattern, accepted, patternEq, admits, foundEq ▸ rfl⟩

theorem MayClose.admitsAt (mayClose : grammar.MayClose top line position anchor found) :
    AdmitsAt (grammar.closingPattern? top.frame) line position anchor found.start := by
  obtain ⟨_, pattern, accepted, -, patternEq, admits, -, foundEq⟩ := mayClose
  exact ⟨pattern, accepted, patternEq, admits, foundEq ▸ rfl⟩

theorem MayStart.eq_of_start (mayStart : grammar.MayStart context line position anchor id found)
    (otherStart : grammar.MayStart context line position anchor other started)
    (startEq : found.start = started.start) (indexEq : found.index = started.index) :
    other = id ∧ started = found := by
  obtain ⟨candidate, pattern, accepted, patternEq, admits, foundEq⟩ := mayStart
  obtain ⟨otherCandidate, own, ownAccepted, ownEq, ownAdmits, startedEq⟩ := otherStart
  rw [indexEq] at candidate foundEq
  obtain rfl := Option.some.inj (candidate.symm.trans otherCandidate)
  obtain rfl := Option.some.inj (patternEq.symm.trans ownEq)
  have acceptedStart : accepted.start = ownAccepted.start := by
    rw [foundEq, startedEq] at startEq
    exact startEq
  rw [admits.unique ownAdmits acceptedStart, ← startedEq] at foundEq
  exact ⟨rfl, foundEq.symm⟩

theorem MayClose.eq_of_start (mayClose : grammar.MayClose top line position anchor found)
    (otherClose : grammar.MayClose top line position anchor closed)
    (startEq : found.start = closed.start) : closed = found := by
  obtain ⟨_, pattern, accepted, -, patternEq, admits, -, rfl⟩ := mayClose
  obtain ⟨_, own, ownAccepted, -, ownEq, ownAdmits, -, rfl⟩ := otherClose
  obtain rfl := Option.some.inj (patternEq.symm.trans ownEq)
  rw [admits.unique ownAdmits startEq]

namespace Skips

theorem start_ge (skips : grammar.Skips stack skipped)
    (lineEq : line = before ++ (skipped ++ after))
    (mayStart : grammar.MayStart (grammar.contextOf stack) line (Text.byteLength before) anchor id
      found) : Text.byteLength (before ++ skipped) ≤ found.start := by
  have member : id ∈ grammar.candidates (grammar.contextOf stack) :=
    List.mem_of_getElem? mayStart.1
  rw [Text.byteLength_append]
  exact mayStart.admitsAt.le_of_silentAt (skips.starts id member) lineEq

theorem close_ge (skips : grammar.Skips stack skipped)
    (lineEq : line = before ++ (skipped ++ after)) (topEq : stack.head? = some top)
    (mayClose : grammar.MayClose top line (Text.byteLength before) anchor found) :
    Text.byteLength (before ++ skipped) ≤ found.start := by
  rw [Text.byteLength_append]
  exact mayClose.admitsAt.le_of_silentAt (skips.closes top topEq) lineEq

end Skips

namespace Priority

/-- A start that precedes the others, and what may close, comes next. -/
theorem eq_start (priority : Priority grammar stack line position anchor outcome)
    (mayStart : grammar.MayStart (grammar.contextOf stack) line position anchor id found)
    (first : ∀ other started,
      grammar.MayStart (grammar.contextOf stack) line position anchor other started →
      Precedes found started)
    (beforeClose : ∀ top ∈ stack.head?, ∀ closed,
      grammar.MayClose top line position anchor closed → found.start < closed.start) :
    outcome = some (.start id found) := by
  cases priority with
  | nothing noStart => exact absurd mayStart (noStart id found)
  | @start other started otherStart _ otherFirst =>
      have before := first other started otherStart
      have behind := otherFirst id found mayStart
      unfold Precedes at before behind
      obtain ⟨rfl, rfl⟩ := mayStart.eq_of_start otherStart (by omega) (by omega)
      rfl
  | @close top closed topEq mayClose _ _ beforeStart =>
      have before := beforeClose top topEq closed mayClose
      have behind := beforeStart id found mayStart
      omega

/-- An end that comes before what may start, and before other ends, comes next. -/
theorem eq_close (priority : Priority grammar stack line position anchor outcome)
    (topEq : stack.head? = some top)
    (mayClose : grammar.MayClose top line position anchor found)
    (first : ∀ closed, grammar.MayClose top line position anchor closed →
      found.start ≤ closed.start)
    (beforeStart : ∀ other started,
      grammar.MayStart (grammar.contextOf stack) line position anchor other started →
      found.start ≤ started.start)
    (preferred : grammar.closesLast (grammar.contextOf stack) = false) :
    outcome = some (.close found) := by
  cases priority with
  | nothing _ noClose => exact absurd mayClose (noClose top topEq found)
  | @start other started otherStart _ _ beforeClose =>
      have behind := beforeStart other started otherStart
      have before := beforeClose top topEq found mayClose
      simp only [preferred, Bool.false_eq_true, and_false, or_false] at before
      omega
  | @close own closed ownEq ownClose _ ownFirst =>
      obtain rfl := Option.some.inj (topEq.symm.trans ownEq)
      have before := first closed ownClose
      have behind := ownFirst found mayClose
      obtain rfl := mayClose.eq_of_start ownClose (by omega)
      rfl

/-- Behind the text that is passed over, the first candidate starts that matches there. -/
theorem starts_first (priority : Priority grammar stack line position anchor outcome)
    (positionEq : Text.byteLength before = position)
    (lineEq : line = before ++ (skipped ++ (text ++ after)))
    (skips : grammar.Skips stack skipped)
    (starts : grammar.StartsFirst (grammar.contextOf stack) text after id)
    (staysOpen : ∀ top ∈ stack.head?,
      SilentAt (grammar.closingPattern? top.frame) (text ++ after)) :
    ∃ index, outcome =
      some (.start id (wholeMatch index (position + Text.byteLength skipped) text)) := by
  subst positionEq
  have splitEq : line = (before ++ skipped) ++ (text ++ after) := by
    rw [lineEq, List.append_assoc]
  have offsetEq := Text.byteLength_append before skipped
  have reached : Text.byteLength before ≤ Text.byteLength (before ++ skipped) := by omega
  obtain ⟨earlier, later, candidatesEq, only, silent⟩ := starts
  have candidate : (grammar.candidates (grammar.contextOf stack))[earlier.length]? = some id := by
    rw [candidatesEq]
    simp
  obtain ⟨pattern, accepted, patternEq, admits, -, foundEq⟩ :=
    only.exists_admits splitEq reached anchor earlier.length
  have mayStart : grammar.MayStart (grammar.contextOf stack) line (Text.byteLength before)
      anchor id (wholeMatch earlier.length (Text.byteLength (before ++ skipped)) text) :=
    ⟨candidate, pattern, accepted, patternEq, admits, foundEq⟩
  rw [← offsetEq]
  refine ⟨earlier.length, priority.eq_start mayStart ?_ ?_⟩
  · intro other started otherStart
    rcases Nat.lt_or_eq_of_le (skips.start_ge lineEq otherStart) with behind | here
    · exact .inl behind
    · refine .inr ⟨here, ?_⟩
      -- A candidate before the first one would match where the text begins.
      by_contra beforeIt
      have isEarlier : other ∈ earlier := by
        have atPlace := otherStart.1
        rw [candidatesEq, List.getElem?_append_left (Nat.lt_of_not_le beforeIt)] at atPlace
        exact List.mem_of_getElem? atPlace
      exact otherStart.admitsAt.ne_of_silentAt (silent other isEarlier) splitEq here.symm
  · intro top topEq closed mayClose
    have notHere := mayClose.admitsAt.ne_of_silentAt (staysOpen top topEq) splitEq
    exact Nat.lt_of_le_of_ne (skips.close_ge lineEq topEq mayClose) notHere.symm

/-- Behind the text that is passed over, the innermost span ends where its plan matches. -/
theorem closes_first (priority : Priority grammar stack line position anchor outcome)
    (positionEq : Text.byteLength before = position)
    (lineEq : line = before ++ (skipped ++ (text ++ after)))
    (skips : grammar.Skips stack skipped) (topEq : stack.head? = some top)
    (only : OnlyMatches (grammar.closingPattern? top.frame) text)
    (nonempty : 0 < Text.byteLength text)
    (preferred : grammar.closesLast (grammar.contextOf stack) = false) :
    outcome = some (.close (wholeMatch 0 (position + Text.byteLength skipped) text)) := by
  subst positionEq
  have splitEq : line = (before ++ skipped) ++ (text ++ after) := by
    rw [lineEq, List.append_assoc]
  have offsetEq := Text.byteLength_append before skipped
  have reached : Text.byteLength before ≤ Text.byteLength (before ++ skipped) := by omega
  obtain ⟨pattern, accepted, patternEq, admits, stopEq, foundEq⟩ :=
    only.exists_admits splitEq reached anchor 0
  have isSpan : ∃ rule, grammar.rule? top.frame.rule = some (.span rule) := by
    unfold closingPattern? at patternEq
    split at patternEq
    · next rule ruleEq => exact ⟨rule, ruleEq⟩
    · cases patternEq
  obtain ⟨rule, ruleEq⟩ := isSpan
  have mayEnd : MayEnd rule.allowEmptySpan (top.opening.map Opening.contentStart) accepted := by
    rintro ⟨-, empty, -⟩
    omega
  rw [← offsetEq]
  exact priority.eq_close topEq
    ⟨rule, pattern, accepted, ruleEq, patternEq, admits, mayEnd, foundEq⟩
    (fun _ mayClose => skips.close_ge lineEq topEq mayClose)
    (fun _ _ otherStart => skips.start_ge lineEq otherStart) preferred

theorem starts_here (priority : Priority grammar stack line position anchor outcome)
    (positionEq : Text.byteLength before = position)
    (lineEq : line = before ++ (text ++ after))
    (starts : grammar.StartsFirst (grammar.contextOf stack) text after id)
    (staysOpen : ∀ top ∈ stack.head?,
      SilentAt (grammar.closingPattern? top.frame) (text ++ after)) :
    ∃ index, outcome = some (.start id (wholeMatch index position text)) := by
  have nothingSkipped : line = before ++ ([] ++ (text ++ after)) := lineEq
  exact priority.starts_first positionEq nothingSkipped (.nil grammar stack) starts staysOpen

theorem closes_here (priority : Priority grammar stack line position anchor outcome)
    (positionEq : Text.byteLength before = position)
    (lineEq : line = before ++ (text ++ after)) (topEq : stack.head? = some top)
    (only : OnlyMatches (grammar.closingPattern? top.frame) text)
    (nonempty : 0 < Text.byteLength text)
    (preferred : grammar.closesLast (grammar.contextOf stack) = false) :
    outcome = some (.close (wholeMatch 0 position text)) := by
  have nothingSkipped : line = before ++ ([] ++ (text ++ after)) := lineEq
  exact priority.closes_first positionEq nothingSkipped (.nil grammar stack) topEq only
    nonempty preferred

end Priority

end Grammar

end Scopelight
