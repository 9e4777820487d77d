import Scopelight.Proofs.GroupBounds
import Scopelight.Proofs.InertSpans
import Scopelight.Proofs.LineStartAnchor
import Scopelight.Proofs.NextPlan
import Scopelight.Proofs.QuotedTexts
import Scopelight.Proofs.ScanProgress

/-!
# Literal closing texts

A closing pattern that is only a back-reference stands for the text of a group, taken
literally.  If nothing can start inside the span, then the span ends where this text comes
next, be it on the line on which the span begins or on a later one, and stays open as long
as the text does not come.
-/

namespace Scopelight

namespace Text

/-- A text stands in a line at an offset. -/
def Occurs (text line : List Char) (offset : Nat) : Prop :=
  ∃ before after, line = before ++ (text ++ after) ∧ byteLength before = offset

/-- The first place of a text in a line from an offset on. -/
structure FirstOccurrence (text line : List Char) (origin offset : Nat) : Prop where
  occurs : Occurs text line offset
  reached : origin ≤ offset
  first : ∀ other, origin ≤ other → Occurs text line other → offset ≤ other

theorem Occurs.le_length {text line : List Char} {offset : Nat}
    (occurs : Occurs text line offset) : offset + byteLength text ≤ byteLength line := by
  obtain ⟨before, after, rfl, rfl⟩ := occurs
  rw [byteLength_append, byteLength_append]
  omega

theorem FirstOccurrence.unique {text line : List Char} {origin offset other : Nat}
    (here : FirstOccurrence text line origin offset)
    (there : FirstOccurrence text line origin other) : offset = other :=
  Nat.le_antisymm (here.first other there.reached there.occurs)
    (there.first offset here.reached here.occurs)

theorem byteLength_pos {text : List Char} (nonempty : text ≠ []) : 0 < byteLength text := by
  obtain ⟨c, rest, rfl⟩ := List.exists_cons_of_ne_nil nonempty
  have sizePos := c.utf8Size_pos
  rw [byteLength_cons]
  omega

theorem lt_of_slice_ne_nil {start stop : Nat} {line : List Char}
    (nonempty : slice start stop line ≠ []) : start < stop := by
  refine Nat.lt_of_not_le fun stopLe => nonempty ?_
  rw [slice, Nat.sub_eq_zero_of_le stopLe]
  cases dropBytes start line <;> rfl

end Text

namespace Pattern

open Text (Occurs)

variable {text line : List Char} {position : Nat} {anchor : Option Nat} {pattern : Compiled}

theorem Plan.matchesOnly_ofText (nonempty : text ≠ []) :
    (Plan.ofText text).matchesOnly text = true := by
  obtain ⟨c, rest, rfl⟩ := List.exists_cons_of_ne_nil nonempty
  exact beq_self_eq_true (c :: rest)

theorem Compiled.Admits.occurs {accepted : Acceptance} (nonempty : text ≠ [])
    (admits : (Compiled.ofPlan (.ofText text) false).Admits line position anchor accepted) :
    position ≤ accepted.start ∧ Occurs text line accepted.start := by
  obtain ⟨c, rest, rfl⟩ := List.exists_cons_of_ne_nil nonempty
  obtain ⟨origin, member, reached, spot, takes, rfl⟩ := admits.takes
  obtain ⟨before, lineEq, offsetEq⟩ := in_of_mem_positions member
  have restEq : origin.rest = c :: rest ++ spot.cursor.rest := takes.1.rest_eq.1
  exact ⟨reached, before, spot.cursor.rest, by rw [lineEq, restEq], offsetEq⟩

theorem compile?_eq_ofPlan {source : String} (compiled : compile? source = some pattern) :
    ∃ plan anchored, pattern = .ofPlan plan anchored := by
  unfold compile? at compiled
  simp only [Option.bind_eq_bind, Option.bind_eq_some_iff] at compiled
  obtain ⟨expr, -, plan, -, compiled⟩ := compiled
  split at compiled
  · exact ⟨plan, _, (Option.some.inj compiled).symm⟩
  · cases compiled

end Pattern

namespace Grammar

open Pattern
open Text (Occurs FirstOccurrence)

variable (grammar : Grammar)

/-- An open span in which nothing can start, and which a text closes. -/
structure Awaits (frame : Frame) (text : List Char) : Prop where
  nonempty : text ≠ []
  span : ∃ rule, grammar.rule? frame.rule = some (.span rule) ∧ rule.inert = false
  noCandidates : grammar.candidates frame.rule = []
  closingEq : grammar.closingPattern? frame = some (.ofPlan (.ofText text) false)

/-- A step of a scan closes the innermost span by the first place of a text, or ends the
line with all spans open if there is none. -/
inductive ClosesBy (text line : List Char) (scan : Scan) (top : OpenFrame)
    (outer : List OpenFrame) : Step → Prop
  | occurs {offset : Nat} (first : FirstOccurrence text line scan.position offset) :
      ClosesBy text line scan top outer
        (.more (grammar.closedScan scan top outer (wholeMatch 0 offset text)))
  | absent (nowhere : ∀ offset, scan.position ≤ offset → ¬Occurs text line offset) :
      ClosesBy text line scan top outer (grammar.giveUp line (top :: outer) scan.pieces)

/-- The limit on the number of steps does not cut a line short. -/
def WithinLimit (line : List Char) (state : State) : Prop :=
  ∃ stack pieces, Step.done stack pieces ∈
    grammar.outcomes line (stepLimit line state) (Scan.start state)

variable {grammar} {strict : Bool} {document : GrammarDocument} {text line : List Char}
  {scan : Scan} {top : OpenFrame} {outer : List OpenFrame} {frame : Frame}

namespace Awaits

theorem mayClose_iff (awaits : grammar.Awaits frame text) {opening : Option Opening}
    {position : Nat} {anchor : Option Nat} {found : Match} :
    grammar.MayClose ⟨frame, opening⟩ line position anchor found ↔
      ∃ offset, position ≤ offset ∧ Occurs text line offset ∧ found = wholeMatch 0 offset text := by
  have only : OnlyMatches (grammar.closingPattern? frame) text :=
    ⟨_, awaits.closingEq, Plan.matchesOnly_ofText awaits.nonempty⟩
  constructor
  · rintro ⟨_, pattern, accepted, -, patternEq, admits, -, rfl⟩
    obtain rfl := Option.some.inj (awaits.closingEq.symm.trans patternEq)
    obtain ⟨reached, before, after, lineEq, offsetEq⟩ := admits.occurs awaits.nonempty
    -- The match of the whole text is admitted too, and no other one starts there.
    obtain ⟨other, whole, otherEq, wholeAdmits, -, wholeEq⟩ :=
      only.exists_admits lineEq (offsetEq ▸ reached) anchor 0
    obtain rfl := Option.some.inj (awaits.closingEq.symm.trans otherEq)
    refine ⟨accepted.start, reached, ⟨before, after, lineEq, offsetEq⟩, ?_⟩
    have startEq : accepted.start = whole.start :=
      offsetEq.symm.trans (congrArg Match.start wholeEq)
    rw [admits.unique wholeAdmits startEq, ← wholeEq, offsetEq, startEq]
  · rintro ⟨_, reached, ⟨before, after, lineEq, rfl⟩, rfl⟩
    obtain ⟨rule, ruleEq, -⟩ := awaits.span
    obtain ⟨pattern, accepted, patternEq, admits, stopEq, foundEq⟩ :=
      only.exists_admits lineEq reached anchor 0
    refine ⟨rule, pattern, accepted, ruleEq, patternEq, admits, ?_, foundEq⟩
    rintro ⟨-, empty, -⟩
    have lengthPos := Text.byteLength_pos awaits.nonempty
    omega

theorem not_mayStart (awaits : grammar.Awaits frame text) {position : Nat}
    {anchor : Option Nat} (id : RuleId) (found : Match) :
    ¬grammar.MayStart frame.rule line position anchor id found := by
  rintro ⟨candidate, -⟩
  rw [awaits.noCandidates] at candidate
  cases candidate

end Awaits

/-- A match that takes something behind the position closes the span. -/
theorem takeClose_of_moves {found : Match} (stackEq : scan.stack = top :: outer)
    (reached : scan.position ≤ found.start) (takes : found.start < found.stop) :
    grammar.takeClose line scan found = .more (grammar.closedScan scan top outer found) := by
  have notEmpty : ¬(found.start = found.stop ∧
      scan.emptyClose = some (found.start, scan.stack.length)) := fun same => by omega
  have moves : ¬(found.stop ≤ scan.position ∧
      top.opening.map Opening.entered = some scan.position) := fun stays => by omega
  rw [takeClose, if_neg notEmpty, stackEq]
  exact if_neg moves

/-- The innermost span ends where its closing text comes first. -/
theorem Awaits.step_closesBy (loaded : ofDocument .standard strict document = .ok grammar)
    (awaits : grammar.Awaits frame text) {opening : Option Opening}
    (stackEq : scan.stack = ⟨frame, opening⟩ :: outer) (line : List Char) :
    grammar.ClosesBy text line scan ⟨frame, opening⟩ outer (grammar.step line scan) := by
  have spans : ∀ other ∈ [OpenFrame.mk frame opening],
      ∃ rule, grammar.rule? other.frame.rule = some (.span rule) ∧ rule.inert = false := by
    intro other member
    rw [List.mem_singleton.mp member]
    exact awaits.span
  have priority := (upcoming?_priority loaded spans line scan.position scan.anchor).1
  -- What comes next depends on the innermost span only.
  have upcomingEq : grammar.upcoming? scan.stack line scan.position scan.anchor =
      grammar.upcoming? [⟨frame, opening⟩] line scan.position scan.anchor := by
    rw [stackEq]
    rfl
  rw [step, upcomingEq]
  generalize grammar.upcoming? [⟨frame, opening⟩] line scan.position scan.anchor = outcome
    at priority
  cases priority with
  | nothing noStart noClose =>
      change grammar.ClosesBy _ _ _ _ _ (grammar.giveUp line scan.stack scan.pieces)
      rw [stackEq]
      refine .absent fun offset reached occurs => ?_
      exact noClose _ rfl _ (awaits.mayClose_iff.mpr ⟨offset, reached, occurs, rfl⟩)
  | start mayStart => exact absurd mayStart (awaits.not_mayStart _ _)
  | @close own found topEq mayClose _ first _ =>
      obtain rfl := Option.some.inj topEq
      obtain ⟨offset, reached, occurs, rfl⟩ := awaits.mayClose_iff.mp mayClose
      have lengthPos := Text.byteLength_pos awaits.nonempty
      have takes : (wholeMatch 0 offset text).start < (wholeMatch 0 offset text).stop :=
        Nat.lt_add_of_pos_right lengthPos
      change grammar.ClosesBy _ _ _ _ _ (grammar.takeClose line scan _)
      rw [takeClose_of_moves stackEq reached takes]
      refine .occurs ⟨occurs, reached, fun other otherReached otherOccurs => ?_⟩
      exact first _ (awaits.mayClose_iff.mpr ⟨other, otherReached, otherOccurs, rfl⟩)

/-- A line without the closing text leaves the state as it is. -/
theorem Awaits.endState_eq (loaded : ofDocument .standard strict document = .ok grammar)
    (awaits : grammar.Awaits frame text) {frames : List Frame}
    (absent : ∀ offset, ¬Occurs text line offset) :
    (grammar.tokenizeLine line ⟨frame :: frames⟩).endState = ⟨frame :: frames⟩ := by
  have closes : grammar.ClosesBy text line (Scan.start ⟨frame :: frames⟩) ⟨frame, none⟩
      (frames.map fun outer => ⟨outer, none⟩)
      (grammar.step line (Scan.start ⟨frame :: frames⟩)) :=
    Awaits.step_closesBy loaded awaits rfl line
  generalize stepEq : grammar.step line (Scan.start ⟨frame :: frames⟩) = outcome at closes
  cases closes with
  | occurs first => exact absurd first.occurs (absent _)
  | absent nowhere =>
      have limitPos : stepLimit line ⟨frame :: frames⟩ ≠ 0 := by
        rw [stepLimit]
        omega
      obtain ⟨fuel, fuelEq⟩ := Nat.exists_eq_add_one_of_ne_zero limitPos
      rw [tokenizeLine, fuelEq, runSteps, stepEq]
      simp [giveUp, Scan.finish, Function.comp_def]

theorem Awaits.stateFrom_eq (loaded : ofDocument .standard strict document = .ok grammar)
    (awaits : grammar.Awaits frame text) {frames : List Frame} {lines : List (List Char)}
    (absent : ∀ other ∈ lines, ∀ offset, ¬Occurs text other offset) :
    grammar.stateFrom ⟨frame :: frames⟩ lines = ⟨frame :: frames⟩ := by
  induction lines with
  | nil => rfl
  | cons line lines ih =>
      rw [List.forall_mem_cons] at absent
      rw [stateFrom, List.foldl_cons, awaits.endState_eq loaded absent.1]
      exact ih absent.2

/-! ### The line on which the span begins -/

theorem Reaches.ends {first : Scan} {result : List OpenFrame × Pieces}
    (reached : grammar.Reaches line first scan) (ends : grammar.Ends line scan result) :
    grammar.Ends line first result := by
  induction reached using Relation.ReflTransGen.head_induction_on with
  | refl => exact ends
  | head stepEq _ ih => exact .more stepEq ih

/-- A scan that is not cut short comes to its own end. -/
theorem Ends.runSteps_eq {result : List OpenFrame × Pieces}
    (ends : grammar.Ends line scan result) {fuel : Nat}
    (within : ∃ stack pieces, Step.done stack pieces ∈ grammar.outcomes line fuel scan) :
    grammar.runSteps line fuel scan = result := by
  induction ends generalizing fuel with
  | done stepEq =>
      obtain ⟨stack, pieces, member⟩ := within
      cases fuel with
      | zero => cases member
      | succ fuel => rw [runSteps, stepEq]
  | more stepEq _ ih =>
      obtain ⟨stack, pieces, member⟩ := within
      cases fuel with
      | zero => cases member
      | succ fuel =>
          rw [outcomes, stepEq] at member
          rw [runSteps, stepEq]
          rcases List.mem_cons.mp member with absurd | later
          · cases absurd
          · exact ih ⟨stack, pieces, later⟩

section

variable {id : RuleId} {rule : SpanRule} {found : Match} {start stop : Nat}

/-- A match with a group that is not empty moves on. -/
theorem moves_of_group (loaded : ofDocument .standard strict document = .ok grammar)
    (upcoming : grammar.upcomingIn? line scan = some (.start id found))
    (captured : some (start, stop) ∈ found.captures) (nonempty : start < stop) :
    scan.position < found.stop := by
  obtain ⟨engineEq, compiles⟩ := ofDocument_compiles loaded
  rcases upcoming?_cases upcoming with ⟨_, _, same, startEq⟩ | ⟨_, _, absurd, -⟩
  · cases same
    rcases nextStart?_first engineEq compiles (grammar.contextOf scan.stack) line scan.position
      scan.anchor with ⟨noneStarts, -⟩ | ⟨_, _, ownEq, mayStart, -⟩
    · rw [startEq] at noneStarts
      cases noneStarts
    · cases startEq.symm.trans ownEq
      have reached := mayStart.admitsAt.position_le
      obtain ⟨-, pattern, accepted, patternEq, admits, foundEq⟩ := mayStart
      obtain ⟨source, -, compiled⟩ := Option.bind_eq_some_iff.mp patternEq
      obtain ⟨plan, anchored, rfl⟩ := compile?_eq_ofPlan compiled
      rw [foundEq] at captured reached ⊢
      have inside := admits.captures_between captured
      exact reached.trans_lt (inside.1.trans_lt (nonempty.trans_le inside.2))
  · cases absurd

theorem step_opens (upcoming : grammar.upcomingIn? line scan = some (.start id found))
    (ruleEq : grammar.rule? id = some (.span rule)) (moves : scan.position < found.stop) :
    grammar.step line scan = .more (grammar.openedScan line scan id rule found) := by
  have progress : ¬(found.stop ≤ scan.position ∧
      reentered scan.stack id scan.position = true) := fun stays => by omega
  rw [upcomingIn?] at upcoming
  simp only [step, upcoming, ruleEq]
  rw [takeOpen, if_neg progress]

/-- A span that is closed by a back-reference, and has nothing inside, awaits the text of the
group. -/
theorem awaits_openFrame (loaded : ofDocument .standard strict document = .ok grammar)
    (ruleEq : grammar.rule? id = some (.span rule)) (notInert : rule.inert = false)
    (childless : rule.members = []) (closingEq : rule.closing = "\\1")
    (captured : found.captures[1]? = some (some (start, stop)))
    (nonempty : Text.slice start stop line ≠ [])
    (fits : (Plan.ofText (Text.slice start stop line)).fits = true) :
    grammar.Awaits (grammar.openFrame line scan id rule found).frame
      (Text.slice start stop line) where
  nonempty := nonempty
  span := ⟨rule, ruleEq, notInert⟩
  noCandidates := by
    have membersEq : (Rule.span rule).members = [] := childless
    change grammar.candidates id = []
    simp [Rulebook.candidates, ruleEq, membersEq]
  closingEq := by
    have checked : rule.Checked .standard :=
      (followsShape_checked .standard).forall_ofDocument loaded ruleEq rule rfl
    have refers : rule.hasReferences = true := by
      rw [checked.hasReferencesEq, closingEq]
      decide
    have filled : fillReferences line found.captures rule.closing.toList =
        quote (Text.slice start stop line) := by
      have groupEq : groupText line found.captures 1 = Text.slice start stop line := by
        rw [groupText, captured]
      rw [closingEq, ← groupEq]
      exact (fillReferences_reference rfl).trans (List.append_nil _)
    have frameClosing : (grammar.openFrame line scan id rule found).frame.closing =
        some (String.ofList (quote (Text.slice start stop line))) := by
      rw [← filled]
      exact if_pos refers
    have frameRule : grammar.rule? (grammar.openFrame line scan id rule found).frame.rule =
        some (.span rule) := ruleEq
    simp only [closingPattern?, frameRule, frameClosing, Option.getD_some, compile?_quote fits]

/-- A span without members whose closing pattern is a back-reference to the first group ends
with the text of this group, taken literally.  The frame that its opening match pushes is
closed by the first place of the text at or behind the end of the match on the same line.
If there is none, the frame is the innermost one after this line, as long as the limit on
the number of steps does not cut the line short.  Lines without the text change nothing, and
the first step of a line with the text closes the frame by the first place of the text. -/
theorem closes_literally (loaded : ofDocument .standard strict document = .ok grammar)
    (ruleEq : grammar.rule? id = some (.span rule)) (childless : rule.members = [])
    (closingEq : rule.closing = "\\1") {state : State}
    (reached : grammar.Reaches line (Scan.start state) scan)
    (upcoming : grammar.upcomingIn? line scan = some (.start id found))
    (captured : found.captures[1]? = some (some (start, stop)))
    (nonempty : Text.slice start stop line ≠ [])
    (fits : (Plan.ofText (Text.slice start stop line)).fits = true) :
    let text := Text.slice start stop line
    let top := grammar.openFrame line scan id rule found
    let opened := grammar.openedScan line scan id rule found
    grammar.step line scan = .more opened ∧ opened.stack = top :: scan.stack ∧
      opened.position = found.stop ∧
      grammar.ClosesBy text line opened top scan.stack (grammar.step line opened) ∧
      ((∀ offset, found.stop ≤ offset → ¬Occurs text line offset) →
        grammar.WithinLimit line state →
        ∀ later, (∀ other ∈ later, ∀ offset, ¬Occurs text other offset) →
          let carried := Scan.finish (top :: scan.stack)
          grammar.stateFrom state (line :: later) = carried ∧
          ∀ next, grammar.ClosesBy text next (Scan.start carried) ⟨top.frame, none⟩
            (scan.stack.map fun outer => ⟨outer.frame, none⟩)
            (grammar.step next (Scan.start carried))) := by
  intro text top opened
  have moves : scan.position < found.stop :=
    moves_of_group loaded upcoming (List.mem_of_getElem? captured)
      (Text.lt_of_slice_ne_nil nonempty)
  have opens := step_opens upcoming ruleEq moves
  have positionEq : opened.position = found.stop := Nat.max_eq_right moves.le
  have awaits : grammar.Awaits top.frame text :=
    awaits_openFrame loaded ruleEq (not_inert_of_upcoming upcoming ruleEq) childless closingEq
      captured nonempty fits
  have closes : grammar.ClosesBy text line opened top scan.stack (grammar.step line opened) :=
    awaits.step_closesBy loaded rfl line
  refine ⟨opens, rfl, positionEq, closes, fun absent within later laterAbsent => ?_⟩
  intro carried
  have ended : ∃ pieces, grammar.step line opened = .done (top :: scan.stack) pieces := by
    generalize grammar.step line opened = outcome at closes
    cases closes with
    | occurs first =>
        exact absurd first.occurs (absent _ (positionEq ▸ first.reached))
    | absent => exact ⟨_, rfl⟩
  obtain ⟨pieces, stepEq⟩ := ended
  have ends : grammar.Ends line (Scan.start state) (top :: scan.stack, pieces) :=
    reached.ends (.more opens (.done stepEq))
  have endStateEq : (grammar.tokenizeLine line state).endState = carried := by
    rw [tokenizeLine, ends.runSteps_eq within]
  constructor
  · rw [stateFrom, List.foldl_cons, endStateEq]
    exact awaits.stateFrom_eq loaded laterAbsent
  · have carriedEq : (Scan.start carried).stack =
        ⟨top.frame, none⟩ :: scan.stack.map fun outer => ⟨outer.frame, none⟩ := by
      simp [carried, Scan.start, Scan.finish, Function.comp_def]
    exact fun next => Awaits.step_closesBy loaded awaits carriedEq next

end

/-- The text `.*` is captured on one line.  The next line would match it as a pattern and
leaves the span open, and the line after that contains it. -/
theorem spanDocument_closes_literally :
    ∃ grammar frame, ofDocument .standard true (spanDocument "<([!-~]+)" "\\1") = .ok grammar ∧
      grammar.stateFrom .initial [['<', '.', '*'], ['a', 'b']] = ⟨[frame]⟩ ∧
      grammar.step ['a', '.', '*'] (Scan.start ⟨[frame]⟩) =
        .more (grammar.closedScan (Scan.start ⟨[frame]⟩) ⟨frame, none⟩ []
          (wholeMatch 0 1 ['.', '*'])) := by
  let line := ['<', '.', '*']
  let found : Match := ⟨0, 0, 3, [some (0, 3), some (1, 3)]⟩
  have evaluated : ((ofDocument .standard true (spanDocument "<([!-~]+)" "\\1")).toOption.any
      fun grammar =>
        decide (grammar.upcomingIn? line (Scan.start .initial) = some (.start 0 found)) &&
          (grammar.outcomes line (stepLimit line .initial) (Scan.start .initial)).any
            (· matches .done _ _)) = true := by
    decide +kernel
  obtain ⟨grammar, inert, loaded, ruleEq⟩ :=
    spanDocument_loads "<([!-~]+)" "\\1" true rfl rfl
  rw [loaded] at evaluated
  obtain ⟨nextEq, ends⟩ := (Bool.and_eq_true _ _).mp evaluated
  have upcoming := of_decide_eq_true nextEq
  have within : grammar.WithinLimit line .initial := by
    obtain ⟨outcome, member, isDone⟩ := List.any_eq_true.mp ends
    cases outcome with
    | done stack pieces => exact ⟨stack, pieces, member⟩
    | more => cases isDone
  have textEq : Text.slice 1 3 line = ['.', '*'] := by decide
  have noRoom (offset : Nat) (behind : 3 ≤ offset) : ¬Occurs ['.', '*'] line offset := by
    intro occurs
    have room : offset + 2 ≤ 3 := occurs.le_length
    omega
  have noDot : ∀ other ∈ [['a', 'b']], ∀ offset, ¬Occurs ['.', '*'] other offset := by
    intro other member offset occurs
    rw [List.mem_singleton.mp member] at occurs
    obtain ⟨before, after, lineEq, -⟩ := occurs
    have dot : '.' ∈ ['a', 'b'] := by
      rw [lineEq]
      simp
    exact absurd dot (by decide)
  have first : FirstOccurrence ['.', '*'] ['a', '.', '*'] 0 1 := by
    refine ⟨⟨['a'], [], rfl, rfl⟩, Nat.zero_le 1, ?_⟩
    rintro _ - ⟨before, after, lineEq, rfl⟩
    cases before with
    | nil => cases lineEq
    | cons c rest => exact Nat.le_add_right_of_le c.utf8Size_pos
  obtain ⟨-, -, -, -, carries⟩ := closes_literally loaded ruleEq rfl rfl .refl upcoming rfl
    (by decide) (by decide +kernel)
  rw [textEq] at carries
  obtain ⟨stateEq, closes⟩ := carries noRoom within [['a', 'b']] noDot
  refine ⟨grammar, _, loaded, stateEq, ?_⟩
  have stepCloses := closes ['a', '.', '*']
  generalize stepEq : grammar.step ['a', '.', '*'] _ = outcome at stepCloses
  cases stepCloses with
  | occurs other =>
      obtain rfl := first.unique other
      exact stepEq
  | absent nowhere => exact absurd first.occurs (nowhere 1 (Nat.zero_le 1))

end Grammar

end Scopelight
