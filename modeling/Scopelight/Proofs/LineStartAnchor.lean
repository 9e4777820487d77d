import Scopelight.Proofs.ClosingSearch
import Scopelight.Proofs.OpenSpans

/-!
# The anchor at the start of a line

At the start of a line `\G` holds if the innermost open span was opened by a match that ran
to the end of its line.  The frame of the span remembers this for as long as the span is
open, so the anchor holds on every later line that starts inside the span and not only on
the next one.  It holds until a span is opened or closed on the line.
-/

namespace Scopelight

namespace Grammar

variable (grammar : Grammar)

/-- The state after some lines, the first of which starts in a state. -/
def stateFrom (state : State) (lines : List (List Char)) : State :=
  lines.foldl (fun state line => (grammar.tokenizeLine line state).endState) state

/-- The match that comes next in a scan opens a span. -/
def OpensNext (line : List Char) (scan : Scan) : Prop :=
  ∃ id rule found, grammar.upcomingIn? line scan = some (.start id found) ∧
    grammar.rule? id = some (.span rule)

/-- One scan of a line leads to another, and no span is opened on the way. -/
def ReachesUnopened (line : List Char) : Scan → Scan → Prop :=
  Relation.ReflTransGen fun before after =>
    grammar.step line before = .more after ∧ ¬ grammar.OpensNext line before

/-- Frames, innermost first, of which the innermost was pushed on one of some lines.  They
have all been open since. -/
def PushedOn (lines : List (List Char)) (pushes : List Char → Scan → Frame → Prop)
    (top : Frame) (outer : List Frame) : Prop :=
  ∃ earlier line later, lines = earlier ++ line :: later ∧
    pushes line (Scan.start (grammar.stateFrom .initial earlier)) top ∧
    ∀ between, between <+: later →
      top :: outer <:+ (grammar.stateFrom .initial (earlier ++ line :: between)).stack

/-- A frame that some step of a scan pushes for a match that ends where the line ends. -/
def PushesAtEnd (line : List Char) (first : Scan) (frame : Frame) : Prop :=
  ∃ scan id rule found, grammar.Reaches line first scan ∧
    grammar.rule? id = some (.span rule) ∧
    grammar.step line scan = .more (grammar.openedScan line scan id rule found) ∧
    found.stop = Text.byteLength line ∧
    frame = (grammar.openFrame line scan id rule found).frame

/-- The innermost open span after some lines was opened on one of them by a match that ended
where the line ends. -/
def OpenedAtLineEnd (lines : List (List Char)) : Prop :=
  ∃ top outer, (grammar.stateFrom .initial lines).stack = top :: outer ∧
    grammar.PushedOn lines grammar.PushesAtEnd top outer

variable {grammar} {line : List Char} {state : State} {lines : List (List Char)}
  {scan : Scan}

theorem stateFrom_concat (state : State) (lines : List (List Char)) (line : List Char) :
    grammar.stateFrom state (lines ++ [line]) =
      (grammar.tokenizeLine line (grammar.stateFrom state lines)).endState := by
  simp [stateFrom]

/-- Lines start in the state after the lines before them. -/
theorem tokenizeFrom_append (state : State) (lines later : List (List Char)) :
    grammar.tokenizeFrom state (lines ++ later) =
      grammar.tokenizeFrom state lines ++
        grammar.tokenizeFrom (grammar.stateFrom state lines) later := by
  induction lines generalizing state with
  | nil => rfl
  | cons line lines ih =>
      rw [List.cons_append, tokenizeFrom, tokenizeFrom, ih, List.cons_append]
      rfl

theorem pushesAtEnd_iff {first : Scan} {frame : Frame} :
    grammar.PushesAtEnd line first frame ↔
      grammar.Pushes line first frame ∧ frame.openedAtLineEnd = true := by
  constructor
  · rintro ⟨scan, id, rule, found, reached, ruleEq, stepEq, atEnd, rfl⟩
    exact ⟨⟨scan, id, rule, found, reached, ruleEq, stepEq, rfl⟩, decide_eq_true atEnd⟩
  · rintro ⟨⟨scan, id, rule, found, reached, ruleEq, stepEq, rfl⟩, atEnd⟩
    exact ⟨scan, id, rule, found, reached, ruleEq, stepEq, of_decide_eq_true atEnd, rfl⟩

/-- A line keeps the frames well formed, and those after it go on from those before it. -/
theorem endState_fits (wellFormed : grammar.WellFormed state.stack) :
    grammar.WellFormed (grammar.tokenizeLine line state).endState.stack ∧
      grammar.Continues line state (grammar.tokenizeLine line state).endState.stack := by
  have framesEq : (Scan.start state).stack.map OpenFrame.frame = state.stack := by
    simp [Scan.start, Function.comp_def]
  have started : StackFits grammar line state (Scan.start state).stack
      (Scan.start state).pieces :=
    ⟨framesEq ▸ wellFormed, framesEq ▸ .start line state, by simp [Scan.start, Pieces.empty]⟩
  have ended := runSteps_keeps (fun scan holds => step_keepsSpans holds.1 holds.2)
    (fun scan holds => holds.2.final) (stepLimit line state) ⟨.refl, started⟩
  exact ⟨ended.wellFormed, ended.continues⟩

theorem stateFrom_wellFormed (lines : List (List Char)) :
    grammar.WellFormed (grammar.stateFrom .initial lines).stack := by
  induction lines using List.reverseRecOn with
  | nil => exact .nil
  | append_singleton lines line ih =>
      rw [stateFrom_concat]
      exact (endState_fits ih).1

/-- Frames that are open after a line were open before it, or the innermost of them was
pushed on the line. -/
theorem Continues.suffix_cases {frames outer : List Frame} {top : Frame}
    (continues : grammar.Continues line state frames) (inside : top :: outer <:+ frames) :
    top :: outer <:+ state.stack ∨ grammar.Pushes line (Scan.start state) top := by
  obtain ⟨pushed, kept, rfl, keptSuffix, allPushed⟩ := continues
  rcases List.suffix_or_suffix_of_suffix inside (List.suffix_append pushed kept) with
    old | ⟨front, frontEq⟩
  · exact .inl (old.trans keptSuffix)
  · cases front with
    | nil => exact .inl (frontEq ▸ keptSuffix)
    | cons first front =>
        obtain ⟨rfl, rfl⟩ := List.cons.inj frontEq
        obtain ⟨above, aboveEq⟩ := inside
        have pushedEq : above ++ first :: front = pushed := by
          rw [← List.append_cancel_right_eq _ kept, List.append_assoc]
          exact aboveEq
        exact .inr (allPushed first (pushedEq ▸ by simp))

/-- Every open span was opened on some line. -/
theorem pushedOn_of_suffix {top : Frame} {outer : List Frame} (lines : List (List Char))
    (inside : top :: outer <:+ (grammar.stateFrom .initial lines).stack) :
    grammar.PushedOn lines grammar.Pushes top outer := by
  induction lines using List.reverseRecOn with
  | nil =>
      cases List.suffix_nil.mp inside
  | append_singleton lines line ih =>
      rw [stateFrom_concat] at inside
      have wellFormed : grammar.WellFormed (grammar.stateFrom .initial lines).stack :=
        stateFrom_wellFormed lines
      rcases (endState_fits wellFormed).2.suffix_cases inside with old | pushes
      · obtain ⟨earlier, opened, later, rfl, pushes, stays⟩ := ih old
        refine ⟨earlier, opened, later ++ [line], by simp, pushes, fun between part => ?_⟩
        rcases List.prefix_concat_iff.mp part with rfl | part
        · rw [← List.cons_append, ← List.append_assoc, stateFrom_concat]
          exact inside
        · exact stays between part
      · refine ⟨lines, line, [], rfl, pushes, fun between part => ?_⟩
        rw [List.prefix_nil.mp part, stateFrom_concat]
        exact inside

theorem start_anchor_iff :
    (Scan.start state).anchor = some 0 ↔
      ∃ top outer, state.stack = top :: outer ∧ top.openedAtLineEnd = true := by
  cases stackEq : state.stack with
  | nil => simp [Scan.start, stackEq]
  | cons top outer => simp [Scan.start, stackEq]

/-- The anchor holds at the start of a line exactly if the innermost open span was opened by
a match that ended at the end of some line before. -/
theorem start_anchor_iff_openedAtLineEnd (lines : List (List Char)) :
    (Scan.start (grammar.stateFrom .initial lines)).anchor = some 0 ↔
      grammar.OpenedAtLineEnd lines := by
  rw [start_anchor_iff]
  constructor
  · rintro ⟨top, outer, stackEq, atEnd⟩
    have allOpen : top :: outer <:+ (grammar.stateFrom .initial lines).stack :=
      stackEq ▸ List.suffix_refl _
    obtain ⟨earlier, line, later, linesEq, pushes, stays⟩ := pushedOn_of_suffix lines allOpen
    exact ⟨top, outer, stackEq, earlier, line, later, linesEq,
      pushesAtEnd_iff.mpr ⟨pushes, atEnd⟩, stays⟩
  · rintro ⟨top, outer, stackEq, earlier, line, later, linesEq, pushes, stays⟩
    exact ⟨top, outer, stackEq, (pushesAtEnd_iff.mp pushes).2⟩

/-- What a scan keeps as long as it opens no span: some of the frames that it started with
are left, and the anchor with all of them. -/
structure Unopened (state : State) (scan : Scan) : Prop where
  suffix : scan.stack <:+ (Scan.start state).stack
  anchorEq : scan.anchor =
    if scan.stack.length = state.depth then (Scan.start state).anchor else none

theorem Unopened.start (state : State) : Unopened state (Scan.start state) :=
  ⟨List.suffix_refl _, by simp [Scan.start, State.depth]⟩

theorem Unopened.closed {top : OpenFrame} {outer : List OpenFrame}
    (unopened : Unopened state scan) (stackEq : scan.stack = top :: outer) (found : Match) :
    Unopened state (grammar.closedScan scan top outer found) := by
  have suffix := unopened.suffix
  rw [stackEq] at suffix
  have fromBefore : top.opening = none := by
    obtain ⟨frame, -, rfl⟩ := List.mem_map.mp (suffix.subset List.mem_cons_self)
    rfl
  have shorter : outer.length < state.depth := by
    have := suffix.length_le
    simp only [List.length_cons, Scan.start, List.length_map] at this
    exact this
  refine ⟨(List.suffix_cons top outer).trans suffix, ?_⟩
  change top.opening.bind Opening.outerAnchor = if outer.length = state.depth then _ else none
  rw [fromBefore, if_neg (Nat.ne_of_lt shorter)]
  rfl

theorem Unopened.of_reaches
    (reaches : grammar.ReachesUnopened line (Scan.start state) scan) :
    Unopened state scan := by
  induction reaches with
  | refl => exact .start state
  | @tail before after _ step unopened =>
      obtain ⟨stepEq, notOpens⟩ := step
      have turn : Turn grammar line before (.more after) := stepEq ▸ step_turn before
      cases turn with
      | close found top outer _ stackEq => exact unopened.closed stackEq found
      | pass => exact ⟨unopened.suffix, unopened.anchorEq⟩
      | opens found id rule upcoming ruleEq =>
          exact absurd ⟨id, rule, found, upcoming, ruleEq⟩ notOpens

/-- As long as no span has been opened on a line, `\G` holds at its start exactly if none has
been closed either and the innermost span was opened by a match that ended at the end of
some line before, and has been open since.  Only then does a pattern with `\G` match at the
start of the line. -/
theorem anchor_at_lineStart (lines : List (List Char)) (line : List Char) {scan : Scan}
    (reaches : grammar.ReachesUnopened line
      (Scan.start (grammar.stateFrom .initial lines)) scan) :
    (scan.anchor = some 0 ↔
        scan.stack = (Scan.start (grammar.stateFrom .initial lines)).stack ∧
          grammar.OpenedAtLineEnd lines) ∧
      ∀ (pattern : Pattern.Compiled) (accepted : Pattern.Acceptance),
        pattern.anchored = true →
        pattern.Admits line scan.position scan.anchor accepted → accepted.start = 0 →
        scan.stack = (Scan.start (grammar.stateFrom .initial lines)).stack ∧
          grammar.OpenedAtLineEnd lines := by
  have unopened := Unopened.of_reaches reaches
  have allLeft : scan.stack.length = (grammar.stateFrom .initial lines).depth ↔
      scan.stack = (Scan.start (grammar.stateFrom .initial lines)).stack := by
    constructor
    · intro sameLength
      refine unopened.suffix.eq_of_length ?_
      simpa [Scan.start, State.depth] using sameLength
    · intro same
      simp [same, Scan.start, State.depth]
  have anchorIff : scan.anchor = some 0 ↔
      scan.stack = (Scan.start (grammar.stateFrom .initial lines)).stack ∧
        grammar.OpenedAtLineEnd lines := by
    rw [← allLeft, ← start_anchor_iff_openedAtLineEnd, unopened.anchorEq]
    split
    · next all => exact ⟨fun holds => ⟨all, holds⟩, fun both => both.2⟩
    · next fewer =>
        exact ⟨fun absent => absurd absent (by simp), fun both => absurd both.1 fewer⟩
  refine ⟨anchorIff, fun pattern accepted anchored admits atStart => ?_⟩
  have reached : scan.position = 0 := by
    have := admits.noted.1
    omega
  obtain ⟨_, _, _, atAnchor, _⟩ := admits
  have holds : scan.anchor = some 0 := reached ▸ (atAnchor anchored).1
  exact anchorIff.mp holds

/-- A list in which a letter counts only where `\G` holds. -/
def listDocument : GrammarDocument where
  scopeName := some "source.list"
  name := none
  fileTypes := []
  patterns := some [{
    name := some "list"
    opening := some "\\["
    closing := some "\\]"
    members := [{ name := some "first", pattern := some "\\Gx" }]
  }]
  repository := []

/-- The frame of a list that was opened at the end of a line. -/
def listFrame : Frame where
  rule := 1
  nameScopes := [⟨"source.list"⟩, ⟨"list"⟩]
  contentScopes := [⟨"source.list"⟩, ⟨"list"⟩]
  closing := none
  openedAtLineEnd := true

/-- The list stays open over a line on which nothing matches, and the letter on the line
after it is taken. -/
theorem listDocument_runs :
    ∃ grammar, Grammar.ofDocument .standard true listDocument = .ok grammar ∧
      grammar.stateFrom .initial [['[']] = ⟨[listFrame]⟩ ∧
      grammar.upcomingIn? ['y'] (Scan.start ⟨[listFrame]⟩) = none ∧
      grammar.stateFrom .initial [['['], ['y']] = ⟨[listFrame]⟩ ∧
      (grammar.tokenizeLine ['x'] ⟨[listFrame]⟩).tokens =
        [⟨0, 1, listFrame.contentScopes ++ [⟨"first"⟩]⟩] := by
  have evaluated : ((Grammar.ofDocument .standard true listDocument).toOption.any fun grammar =>
      decide (grammar.stateFrom .initial [['[']] = ⟨[listFrame]⟩ ∧
        grammar.upcomingIn? ['y'] (Scan.start ⟨[listFrame]⟩) = none ∧
        grammar.stateFrom .initial [['['], ['y']] = ⟨[listFrame]⟩ ∧
        (grammar.tokenizeLine ['x'] ⟨[listFrame]⟩).tokens =
          [⟨0, 1, listFrame.contentScopes ++ [⟨"first"⟩]⟩])) = true := by
    decide +kernel
  obtain ⟨grammar, loaded, checked⟩ := exists_ok_of_any evaluated
  exact ⟨grammar, loaded, of_decide_eq_true checked⟩

theorem anchored_letter_admits :
    ∃ pattern accepted, Pattern.compile? "\\Gx" = some pattern ∧ pattern.anchored = true ∧
      pattern.Admits ['x'] 0 (some 0) accepted ∧ accepted.start = 0 :=
  Pattern.exists_admits_of_anchored (by decide +kernel)

/-- On the second line after the one on which the list was opened, the anchor holds, and the
pattern with it matches. -/
theorem listDocument_anchor :
    ∃ grammar, Grammar.ofDocument .standard true listDocument = .ok grammar ∧
      (Scan.start (grammar.stateFrom .initial [['['], ['y']])).anchor = some 0 ∧
      grammar.OpenedAtLineEnd [['['], ['y']] := by
  obtain ⟨grammar, loaded, -, -, stateEq, -⟩ := listDocument_runs
  have holds : (Scan.start (grammar.stateFrom .initial [['['], ['y']])).anchor = some 0 := by
    rw [stateEq]
    rfl
  obtain ⟨pattern, accepted, -, anchored, admits, atStart⟩ := anchored_letter_admits
  have startReached : grammar.ReachesUnopened ['x']
      (Scan.start (grammar.stateFrom .initial [['['], ['y']])) _ := .refl
  obtain ⟨-, onlyThen⟩ := anchor_at_lineStart [['['], ['y']] ['x'] startReached
  exact ⟨grammar, loaded, holds,
    (onlyThen pattern accepted anchored (holds ▸ admits) atStart).2⟩

/-- The list was opened before the last line and not on it, and still the anchor holds and
the letter is taken for the first one. -/
theorem anchor_past_next_line :
    ∃ grammar, Grammar.ofDocument .standard true listDocument = .ok grammar ∧
      ∃ before after, grammar.stateFrom .initial [['[']] = before ∧
        grammar.stateFrom .initial [['['], ['y']] = after ∧
        ∃ top, after.stack = [top] ∧ ¬ grammar.Pushes ['y'] (Scan.start before) top ∧
          (Scan.start after).anchor = some 0 ∧
          (grammar.tokenizeLine ['x'] after).tokens =
            [⟨0, 1, [⟨"source.list"⟩, ⟨"list"⟩, ⟨"first"⟩]⟩] := by
  obtain ⟨grammar, loaded, firstEq, nothing, secondEq, thirdEq⟩ := listDocument_runs
  have ends : ∀ next, grammar.step ['y'] (Scan.start ⟨[listFrame]⟩) ≠ .more next := by
    intro next more
    have turn : Turn grammar ['y'] (Scan.start ⟨[listFrame]⟩) (.more next) :=
      more ▸ step_turn _
    cases turn with
    | close _ _ _ upcoming => cases nothing.symm.trans upcoming
    | pass _ _ _ upcoming => cases nothing.symm.trans upcoming
    | opens _ _ _ upcoming => cases nothing.symm.trans upcoming
  refine ⟨grammar, loaded, _, _, firstEq, secondEq, listFrame, rfl, ?_, rfl, thirdEq⟩
  rintro ⟨scan, id, rule, found, reached, -, stepEq, -⟩
  rcases Relation.ReflTransGen.cases_head reached with rfl | ⟨next, more, -⟩
  · exact ends _ stepEq
  · exact ends next more

end Grammar

end Scopelight
