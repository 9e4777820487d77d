import Scopelight.Line.Tokenize
import Scopelight.Proofs.RuleGaps

/-!
# Lines under renumbered rules

Two grammars whose rulebooks differ by a gap take the same turns in every line: what comes
next is the same match of the same rule, under its other number, and the frames that a step
pushes and pops differ in these numbers only.  So a line gets the same tokens, and the
states that it leaves are equal up to the numbers of the rules.
-/

namespace Scopelight

namespace Gap

variable (gap : Gap)

def renumberFrame (frame : Frame) : Frame :=
  { frame with rule := gap.skip frame.rule }

def renumberOpen (opened : OpenFrame) : OpenFrame :=
  { opened with frame := gap.renumberFrame opened.frame }

/-- A state with the numbers that its rules have if those in the gap are counted. -/
def renumberState (state : State) : State :=
  ⟨state.stack.map gap.renumberFrame⟩

def renumberScan (scan : Scan) : Scan :=
  { scan with stack := scan.stack.map gap.renumberOpen }

def renumberStep : Step → Step
  | .done stack pieces => .done (stack.map gap.renumberOpen) pieces
  | .more next => .more (gap.renumberScan next)

def renumberUpcoming : Upcoming → Upcoming
  | .start rule found => .start (gap.skip rule) found
  | .close found => .close found

/-- The same tokens, with the renumbered state after them. -/
def renumberLine (result : LineTokens) : LineTokens :=
  { result with endState := gap.renumberState result.endState }

/-- A grammar has the rules of another and those of a gap, of which the last is inert. -/
structure TrimsGrammar (fuller leaner : Grammar) : Prop
    extends gap.TrimsBook fuller.toRulebook leaner.toRulebook where
  scopeNameEq : fuller.scopeName = leaner.scopeName

namespace TrimsGrammar

variable {gap} {fuller leaner : Grammar} (trims : gap.TrimsGrammar fuller leaner)
include trims

theorem context?_eq (id : RuleId) :
    fuller.context? (gap.skip id) = (leaner.context? id).map fun context =>
      { context with candidates := context.candidates.map gap.skip } := by
  rw [Grammar.context?_eq, Grammar.context?_eq]
  by_cases inside : id < leaner.rules.size
  · rw [if_pos inside, if_pos ((trims.inside_iff id).mpr inside), trims.context_eq]
    rfl
  · rw [if_neg inside, if_neg (mt (trims.inside_iff id).mp inside)]
    rfl

theorem contextOf_eq (stack : List OpenFrame) :
    fuller.contextOf (stack.map gap.renumberOpen) = gap.skip (leaner.contextOf stack) := by
  cases stack with
  | nil => exact trims.rootEq
  | cons top outer => rfl

theorem nextStart?_eq (context : RuleId) (line : List Char) (position : Nat)
    (anchor : Option Nat) :
    fuller.nextStart? (gap.skip context) line position anchor =
      (leaner.nextStart? context line position anchor).map fun start =>
        (gap.skip start.1, start.2) := by
  unfold Grammar.nextStart?
  rw [trims.context?_eq]
  cases leaner.context? context with
  | none => rfl
  | some here =>
      simp only [Option.map_some, Option.bind_eq_bind, Option.bind_some]
      cases here.scanner? with
      | none => rfl
      | some scanner =>
          simp only [Option.bind_some]
          cases scanner.find line position anchor with
          | none => rfl
          | some found =>
              simp only [Option.bind_some, List.getElem?_map]
              cases here.candidates[found.index]? <;> rfl

theorem filledScanner?_eq (pattern : String) :
    fuller.filledScanner? pattern = leaner.filledScanner? pattern := by
  unfold Grammar.filledScanner?
  rw [trims.engineEq]

theorem closingScanner?_eq (frame : Frame) :
    fuller.closingScanner? (gap.renumberFrame frame) = leaner.closingScanner? frame := by
  unfold Grammar.closingScanner?
  cases closingEq : frame.closing with
  | some pattern => simp [renumberFrame, closingEq, trims.filledScanner?_eq]
  | none =>
      simp only [renumberFrame, closingEq, trims.context?_eq]
      cases leaner.context? frame.rule <;> rfl

theorem nextClose?_eq (top : OpenFrame) (line : List Char) (position : Nat)
    (anchor : Option Nat) :
    fuller.nextClose? (gap.renumberOpen top) line position anchor =
      leaner.nextClose? top line position anchor := by
  have ruleTrims := trims.rules top.frame.rule
  have scannerEq := trims.closingScanner?_eq top.frame
  unfold Grammar.nextClose?
  simp only [renumberOpen, scannerEq]
  simp only [renumberFrame]
  generalize fuller.rule? (gap.skip top.frame.rule) = rule? at ruleTrims
  generalize leaner.rule? top.frame.rule = other? at ruleTrims
  cases ruleTrims <;> rfl

theorem closesLast_eq (id : RuleId) :
    fuller.closesLast (gap.skip id) = leaner.closesLast id := by
  have ruleTrims := trims.rules id
  unfold Grammar.closesLast
  generalize fuller.rule? (gap.skip id) = rule? at ruleTrims
  generalize leaner.rule? id = other? at ruleTrims
  cases ruleTrims <;> rfl

theorem closingCaptures_eq (id : RuleId) :
    fuller.closingCaptures (gap.skip id) = leaner.closingCaptures id := by
  have ruleTrims := trims.rules id
  unfold Grammar.closingCaptures
  generalize fuller.rule? (gap.skip id) = rule? at ruleTrims
  generalize leaner.rule? id = other? at ruleTrims
  cases ruleTrims <;> rfl

/-- The same match comes next. -/
theorem upcoming?_eq (stack : List OpenFrame) (line : List Char) (position : Nat)
    (anchor : Option Nat) :
    fuller.upcoming? (stack.map gap.renumberOpen) line position anchor =
      (leaner.upcoming? stack line position anchor).map gap.renumberUpcoming := by
  have closeEq : ((stack.map gap.renumberOpen).head?.bind fun top =>
        fuller.nextClose? top line position anchor) =
      stack.head?.bind fun top => leaner.nextClose? top line position anchor := by
    rw [List.head?_map]
    cases stack.head? with
    | none => rfl
    | some top => exact trims.nextClose?_eq top line position anchor
  unfold Grammar.upcoming?
  simp only [closeEq, trims.contextOf_eq, trims.nextStart?_eq, trims.closesLast_eq]
  cases leaner.nextStart? (leaner.contextOf stack) line position anchor with
  | none =>
      cases stack.head?.bind fun top => leaner.nextClose? top line position anchor <;> rfl
  | some start =>
      cases stack.head?.bind fun top => leaner.nextClose? top line position anchor with
      | none => rfl
      | some closed =>
          simp only [Option.map_some]
          split <;> rfl

/-! ### One step -/

theorem rootScopes_eq : fuller.rootScopes = leaner.rootScopes := by
  rw [Grammar.rootScopes, Grammar.rootScopes, trims.scopeNameEq]

theorem scopesInside_eq (stack : List OpenFrame) :
    Scan.scopesInside fuller.rootScopes (stack.map gap.renumberOpen) =
      Scan.scopesInside leaner.rootScopes stack := by
  cases stack with
  | nil => exact trims.rootScopes_eq
  | cons top outer => rfl

theorem scopesAround_eq (scan : Scan) :
    fuller.scopesAround (gap.renumberScan scan) = leaner.scopesAround scan :=
  trims.scopesInside_eq scan.stack

theorem finalPieces_eq (line : List Char) (stack : List OpenFrame) (pieces : Pieces) :
    fuller.finalPieces line (stack.map gap.renumberOpen) pieces =
      leaner.finalPieces line stack pieces :=
  congrArg (pieces.produce (Text.byteLength line)) (trims.scopesInside_eq stack)

theorem giveUp_eq (line : List Char) (stack : List OpenFrame) (pieces : Pieces) :
    fuller.giveUp line (stack.map gap.renumberOpen) pieces =
      gap.renumberStep (leaner.giveUp line stack pieces) := by
  rw [Grammar.giveUp, trims.finalPieces_eq]
  rfl

theorem closedPieces_eq (scan : Scan) (top : OpenFrame) (found : Match) :
    fuller.closedPieces (gap.renumberScan scan) (gap.renumberOpen top) found =
      leaner.closedPieces scan top found :=
  congrArg (fun captures => scan.pieces.layMatch top.frame.contentScopes top.frame.nameScopes
    captures found) (trims.closingCaptures_eq top.frame.rule)

theorem closedScan_eq (scan : Scan) (top : OpenFrame) (outer : List OpenFrame)
    (found : Match) :
    fuller.closedScan (gap.renumberScan scan) (gap.renumberOpen top)
        (outer.map gap.renumberOpen) found =
      gap.renumberScan (leaner.closedScan scan top outer found) := by
  unfold Grammar.closedScan
  rw [trims.closedPieces_eq]
  simp [renumberScan, renumberOpen]

theorem takeClose_eq (line : List Char) (scan : Scan) (found : Match) :
    fuller.takeClose line (gap.renumberScan scan) found =
      gap.renumberStep (leaner.takeClose line scan found) := by
  have repeatedIff : (gap.renumberScan scan).emptyClose =
        some (found.start, (gap.renumberScan scan).stack.length) ↔
      scan.emptyClose = some (found.start, scan.stack.length) := by
    simp [renumberScan]
  unfold Grammar.takeClose
  simp only [repeatedIff]
  split
  case isTrue => exact trims.giveUp_eq line scan.stack scan.pieces
  case isFalse =>
    cases stackEq : scan.stack with
    | nil =>
        simp only [renumberScan, stackEq, List.map_nil]
        exact trims.giveUp_eq line [] scan.pieces
    | cons top outer =>
        have renumbered : (gap.renumberScan scan).stack =
            gap.renumberOpen top :: outer.map gap.renumberOpen := by
          simp [renumberScan, stackEq]
        simp only [renumbered, trims.closedPieces_eq, trims.closedScan_eq]
        change (if found.stop ≤ scan.position ∧
          top.opening.map Opening.entered = some scan.position then _ else _) = _
        split
        case isTrue => exact trims.giveUp_eq line (top :: outer) _
        case isFalse => rfl

theorem passedPieces_eq (scan : Scan) (rule : SingleRule) (found : Match) :
    fuller.passedPieces (gap.renumberScan scan) rule found =
      leaner.passedPieces scan rule found := by
  rw [Grammar.passedPieces, trims.scopesAround_eq]
  rfl

theorem takeSingle_eq (line : List Char) (scan : Scan) (rule : SingleRule) (found : Match) :
    fuller.takeSingle line (gap.renumberScan scan) rule found =
      gap.renumberStep (leaner.takeSingle line scan rule found) := by
  unfold Grammar.takeSingle Grammar.passedScan
  rw [trims.passedPieces_eq]
  change (if found.stop ≤ scan.position then _ else _) = _
  split
  case isTrue => exact trims.giveUp_eq line scan.stack _
  case isFalse => rfl

theorem openFrame_eq (line : List Char) (scan : Scan) (id : RuleId) (rule : SpanRule)
    (members : List RuleId) (found : Match) :
    fuller.openFrame line (gap.renumberScan scan) (gap.skip id) { rule with members } found =
      gap.renumberOpen (leaner.openFrame line scan id rule found) := by
  unfold Grammar.openFrame
  rw [trims.scopesAround_eq]
  rfl

theorem openedScan_eq (line : List Char) (scan : Scan) (id : RuleId) (rule : SpanRule)
    (members : List RuleId) (found : Match) :
    fuller.openedScan line (gap.renumberScan scan) (gap.skip id) { rule with members } found =
      gap.renumberScan (leaner.openedScan line scan id rule found) := by
  unfold Grammar.openedScan
  rw [trims.openFrame_eq, trims.scopesAround_eq]
  rfl

omit trims in
theorem reentered_eq (stack : List OpenFrame) (id : RuleId) (position : Nat) :
    Grammar.reentered (stack.map gap.renumberOpen) (gap.skip id) position =
      Grammar.reentered stack id position := by
  unfold Grammar.reentered
  rw [List.any_map]
  refine List.any_congr rfl fun opened => ?_
  have sameRule : (gap.skip opened.frame.rule == gap.skip id) = (opened.frame.rule == id) := by
    rw [Bool.eq_iff_iff, beq_iff_eq, beq_iff_eq, skip_inj]
  exact congrArg (· && _) sameRule

theorem skippedPieces_eq (scan : Scan) (found : Match) :
    fuller.skippedPieces (gap.renumberScan scan) found = leaner.skippedPieces scan found := by
  rw [Grammar.skippedPieces, trims.scopesAround_eq]
  rfl

theorem takeOpen_eq (line : List Char) (scan : Scan) (id : RuleId) (rule : SpanRule)
    (members : List RuleId) (found : Match) :
    fuller.takeOpen line (gap.renumberScan scan) (gap.skip id) { rule with members } found =
      gap.renumberStep (leaner.takeOpen line scan id rule found) := by
  unfold Grammar.takeOpen
  rw [trims.openedScan_eq, trims.skippedPieces_eq]
  change (if found.stop ≤ scan.position ∧ Grammar.reentered (scan.stack.map gap.renumberOpen)
    (gap.skip id) scan.position = true then _ else _) = _
  rw [reentered_eq]
  split
  case isTrue => exact trims.giveUp_eq line scan.stack _
  case isFalse => rfl

/-- Each step comes out the same way. -/
theorem step_eq (line : List Char) (scan : Scan) :
    fuller.step line (gap.renumberScan scan) = gap.renumberStep (leaner.step line scan) := by
  unfold Grammar.step
  have upcomingEq :
      fuller.upcoming? (gap.renumberScan scan).stack line (gap.renumberScan scan).position
          (gap.renumberScan scan).anchor =
        (leaner.upcoming? scan.stack line scan.position scan.anchor).map gap.renumberUpcoming :=
    trims.upcoming?_eq scan.stack line scan.position scan.anchor
  rw [upcomingEq]
  cases leaner.upcoming? scan.stack line scan.position scan.anchor with
  | none => exact trims.giveUp_eq line scan.stack scan.pieces
  | some upcoming =>
      cases upcoming with
      | close found => exact trims.takeClose_eq line scan found
      | start id found =>
          have ruleTrims := trims.rules id
          have givesUp : fuller.giveUp line (gap.renumberScan scan).stack
                (fuller.skippedPieces (gap.renumberScan scan) found) =
              gap.renumberStep
                (leaner.giveUp line scan.stack (leaner.skippedPieces scan found)) := by
            rw [trims.skippedPieces_eq]
            exact trims.giveUp_eq line scan.stack _
          simp only [Option.map_some, renumberUpcoming]
          generalize fuller.rule? (gap.skip id) = rule? at ruleTrims
          generalize leaner.rule? id = other? at ruleTrims
          cases ruleTrims with
          | absent => exact givesUp
          | single rule => exact trims.takeSingle_eq line scan rule found
          | span rule => exact trims.takeOpen_eq line scan id rule _ found
          | reference target => exact givesUp
          | group => exact givesUp

/-! ### Lines and texts -/

theorem runSteps_eq (line : List Char) (fuel : Nat) (scan : Scan) :
    fuller.runSteps line fuel (gap.renumberScan scan) =
      ((leaner.runSteps line fuel scan).1.map gap.renumberOpen,
        (leaner.runSteps line fuel scan).2) := by
  induction fuel generalizing scan with
  | zero => exact congrArg (Prod.mk _) (trims.finalPieces_eq line scan.stack scan.pieces)
  | succ fuel ih =>
      unfold Grammar.runSteps
      rw [trims.step_eq]
      cases leaner.step line scan with
      | done stack pieces => rfl
      | more next => exact ih next

omit trims in
theorem start_eq (state : State) :
    Scan.start (gap.renumberState state) = gap.renumberScan (Scan.start state) := by
  obtain ⟨stack⟩ := state
  cases stack with
  | nil => rfl
  | cons top outer => simp [Scan.start, renumberState, renumberScan, renumberOpen, renumberFrame]

/-- A line gets the same tokens. -/
theorem tokenizeLine_eq (line : List Char) (state : State) :
    fuller.tokenizeLine line (gap.renumberState state) =
      gap.renumberLine (leaner.tokenizeLine line state) := by
  have sameLimit : Grammar.stepLimit line (gap.renumberState state) =
      Grammar.stepLimit line state := by
    simp [Grammar.stepLimit, renumberState]
  unfold Grammar.tokenizeLine
  rw [start_eq, sameLimit, trims.runSteps_eq]
  simp [renumberLine, renumberState, Scan.finish, renumberOpen]

theorem tokenizeFrom_eq (lines : List (List Char)) (state : State) :
    fuller.tokenizeFrom (gap.renumberState state) lines =
      (leaner.tokenizeFrom state lines).map gap.renumberLine := by
  induction lines generalizing state with
  | nil => rfl
  | cons line lines ih =>
      simp only [Grammar.tokenizeFrom, trims.tokenizeLine_eq, List.map_cons]
      exact congrArg _ (ih (leaner.tokenizeLine line state).endState)

/-- Every text gets the same tokens, and the states between its lines are equal up to the
numbers of the rules. -/
theorem tokenizeLines_eq (lines : List (List Char)) :
    fuller.tokenizeLines lines = (leaner.tokenizeLines lines).map gap.renumberLine :=
  trims.tokenizeFrom_eq lines .initial

end TrimsGrammar

end Gap

end Scopelight
