import Scopelight.Proofs.ClosingSearch
import Scopelight.Proofs.OpenSpans

/-!
# Saved anchors

When a span is opened on a line, the anchor moves to where its interior starts, and the span
keeps the one that held before; when it is closed, this one holds again.  The frames of
earlier lines keep nothing, so closing one of them leaves no anchor.  By this the anchor
depends on the stack alone: each frame has an anchor of its own, which holds whenever the
frame is the innermost one.
-/

namespace Scopelight

/-- The anchor that belongs to a stack on a line that starts in a state.  For a span that was
opened on the line it is the start of the interior.  For one of an earlier line it is the
start of the line, if no span of the state has been closed and the innermost one was opened
at the end of its line. -/
def Scan.anchorOf (state : State) : List OpenFrame → Option Nat
  | [] => none
  | top :: outer =>
      match top.opening with
      | some opening => some opening.contentStart
      | none =>
          if top :: outer = (Scan.start state).stack ∧ top.frame.openedAtLineEnd = true then
            some 0
          else none

/-- The scan that a step goes on with, if it does. -/
def Step.next? : Step → Option Scan
  | .done _ _ => none
  | .more next => some next

theorem Step.next?_eq_some {step : Step} {next : Scan} :
    step.next? = some next ↔ step = .more next := by
  cases step <;> simp [Step.next?]

namespace Grammar

variable (grammar : Grammar) (line : List Char)

/-- A step of a line that starts in a state opens a span of a rule by a match. -/
def OpensBy (state : State) (opened : OpenFrame) (rule : SpanRule) (began : Match) : Prop :=
  ∃ scan id, grammar.Reaches line (Scan.start state) scan ∧
    grammar.rule? id = some (.span rule) ∧
    grammar.step line scan = .more (grammar.openedScan line scan id rule began) ∧
    opened = grammar.openFrame line scan id rule began

/-- One scan of a line leads to another, and on the way there are never fewer open spans than
so many. -/
def ReachesAbove (depth : Nat) : Scan → Scan → Prop :=
  Relation.ReflTransGen fun before after =>
    grammar.step line before = .more after ∧ depth ≤ after.stack.length

/-- A stack whose outer frames are left from the start of the line, while each of the others
was opened on the line and keeps the anchor of the stack around it. -/
inductive SavesAnchors (state : State) : List OpenFrame → Prop
  | carried {stack : List OpenFrame} (left : stack <:+ (Scan.start state).stack) :
      SavesAnchors state stack
  | opened {top : OpenFrame} {outer : List OpenFrame} {rule : SpanRule} {began : Match}
      (opens : grammar.OpensBy line state top rule began)
      (saved : top.opening.bind Opening.outerAnchor = Scan.anchorOf state outer)
      (around : SavesAnchors state outer) : SavesAnchors state (top :: outer)

/-- What holds wherever a scan of a line comes. -/
structure AnchorFits (state : State) (scan : Scan) : Prop where
  saves : grammar.SavesAnchors line state scan.stack
  anchorEq : scan.anchor = Scan.anchorOf state scan.stack

variable {grammar line} {state : State} {scan : Scan}

theorem opening_of_start {opened : OpenFrame} (member : opened ∈ (Scan.start state).stack) :
    opened.opening = none := by
  obtain ⟨frame, -, rfl⟩ := List.mem_map.mp member
  rfl

/-- A span that is opened on a line starts its interior where its match ends. -/
theorem OpensBy.contentStart_eq {opened : OpenFrame} {rule : SpanRule} {began : Match}
    (opens : grammar.OpensBy line state opened rule began) :
    opened.opening.map Opening.contentStart = some began.stop := by
  obtain ⟨scan, id, -, -, -, rfl⟩ := opens
  rfl

theorem OpensBy.rule_eq {opened : OpenFrame} {rule : SpanRule} {began : Match}
    (opens : grammar.OpensBy line state opened rule began) :
    grammar.rule? opened.frame.rule = some (.span rule) := by
  obtain ⟨scan, id, -, ruleEq, -, rfl⟩ := opens
  exact ruleEq

/-- Once a frame of the state is gone, no frame of the state has an anchor. -/
theorem anchorOf_closed {top : OpenFrame} {outer : List OpenFrame}
    (left : top :: outer <:+ (Scan.start state).stack) : Scan.anchorOf state outer = none := by
  cases outer with
  | nil => rfl
  | cons next outer =>
      have leftBehind : next :: outer <:+ (Scan.start state).stack :=
        (List.suffix_cons _ _).trans left
      have fromBefore : next.opening = none :=
        opening_of_start (leftBehind.subset List.mem_cons_self)
      have fewer : next :: outer ≠ (Scan.start state).stack := by
        intro all
        have := left.length_le
        rw [← all] at this
        simp only [List.length_cons] at this
        omega
      simp only [Scan.anchorOf, fromBefore]
      exact if_neg fun all => fewer all.1

namespace AnchorFits

theorem start (grammar : Grammar) (line : List Char) (state : State) :
    grammar.AnchorFits line state (Scan.start state) where
  saves := .carried (List.suffix_refl _)
  anchorEq := by
    obtain ⟨frames⟩ := state
    cases frames with
    | nil => rfl
    | cons top outer => simp [Scan.anchorOf, Scan.start]

/-- The frame that is closed gives back the anchor of the stack around it. -/
theorem closed {top : OpenFrame} {outer : List OpenFrame} {found : Match}
    (fits : grammar.AnchorFits line state scan) (stackEq : scan.stack = top :: outer) :
    grammar.AnchorFits line state (grammar.closedScan scan top outer found) := by
  have saves := fits.saves
  rw [stackEq] at saves
  cases saves with
  | carried left =>
      refine ⟨.carried ((List.suffix_cons _ _).trans left), ?_⟩
      change top.opening.bind Opening.outerAnchor = Scan.anchorOf state outer
      rw [opening_of_start (left.subset List.mem_cons_self), anchorOf_closed left]
      rfl
  | opened _ saved around => exact ⟨around, saved⟩

/-- The frame that is opened keeps the anchor of the stack around it. -/
theorem opened {id : RuleId} {rule : SpanRule} {found : Match}
    (fits : grammar.AnchorFits line state scan)
    (reached : grammar.Reaches line (Scan.start state) scan)
    (ruleEq : grammar.rule? id = some (.span rule))
    (stepEq : grammar.step line scan = .more (grammar.openedScan line scan id rule found)) :
    grammar.AnchorFits line state (grammar.openedScan line scan id rule found) where
  saves := .opened ⟨scan, id, reached, ruleEq, stepEq, rfl⟩ fits.anchorEq fits.saves
  anchorEq := rfl

theorem step {next : Scan} (fits : grammar.AnchorFits line state scan)
    (reached : grammar.Reaches line (Scan.start state) scan)
    (stepEq : grammar.step line scan = .more next) : grammar.AnchorFits line state next := by
  have turn : Turn grammar line scan (.more next) := stepEq ▸ step_turn scan
  cases turn with
  | close found top outer _ stackEq => exact fits.closed stackEq
  | pass => exact ⟨fits.saves, fits.anchorEq⟩
  | opens found id rule _ ruleEq => exact fits.opened reached ruleEq stepEq

theorem of_reaches (reached : grammar.Reaches line (Scan.start state) scan) :
    grammar.AnchorFits line state scan := by
  induction reached with
  | refl => exact .start grammar line state
  | tail reached stepEq fits => exact fits.step reached stepEq

end AnchorFits

/-- The frames that were opened on a line lie on top of those that are left from its start. -/
theorem SavesAnchors.exists_split {stack : List OpenFrame}
    (saves : grammar.SavesAnchors line state stack) :
    ∃ opened carried, stack = opened ++ carried ∧ carried <:+ (Scan.start state).stack ∧
      ∀ top ∈ opened, ∃ rule began, grammar.OpensBy line state top rule began := by
  induction saves with
  | @carried stack left => exact ⟨[], stack, rfl, left, by simp⟩
  | @opened top outer rule began opens _ _ ih =>
      obtain ⟨opened, carried, rfl, left, allOpened⟩ := ih
      refine ⟨top :: opened, carried, rfl, left, ?_⟩
      rw [List.forall_mem_cons]
      exact ⟨⟨rule, began, opens⟩, allOpened⟩

/-- On a line that starts without open spans, every open span was opened on it. -/
theorem exists_opensBy_of_initial (reached : grammar.Reaches line (Scan.start .initial) scan)
    {opened : OpenFrame} (member : opened ∈ scan.stack) :
    ∃ rule began, grammar.OpensBy line .initial opened rule began := by
  obtain ⟨here, carried, split, left, allOpened⟩ :=
    (AnchorFits.of_reaches reached).saves.exists_split
  obtain rfl : carried = [] := List.suffix_nil.mp left
  rw [split, List.append_nil] at member
  exact allOpened opened member

/-- Frames stay on the stack as long as there are never fewer of them. -/
theorem ReachesAbove.suffix {later : Scan}
    (above : grammar.ReachesAbove line scan.stack.length scan later) :
    scan.stack <:+ later.stack := by
  induction above with
  | refl => exact List.suffix_refl _
  | @tail before after _ step stillThere =>
      obtain ⟨stepEq, deep⟩ := step
      have turn : Turn grammar line before (.more after) := stepEq ▸ step_turn before
      cases turn with
      | close found top outer _ stackEq =>
          rw [stackEq] at stillThere
          rcases List.suffix_cons_iff.mp stillThere with all | around
          · -- The closed frame would be one of those that stay.
            have := congrArg List.length all
            rw [List.length_cons] at this
            change scan.stack.length ≤ outer.length at deep
            omega
          · exact around
      | pass => exact stillThere
      | opens => exact stillThere.trans (List.suffix_cons _ _)

/-- Wherever a scan of a line comes, the anchor is the one that belongs to the stack, on which
frames opened on the line lie above some that are left from its start.  When a frame is the
innermost one again, so are all frames around it the same, and so is the anchor.  A pattern
that needs the anchor matches only there. -/
theorem anchor_follows_stack (reached : grammar.Reaches line (Scan.start state) scan) :
    scan.anchor = Scan.anchorOf state scan.stack ∧
      (∃ opened carried, scan.stack = opened ++ carried ∧
        carried <:+ (Scan.start state).stack ∧
        ∀ top ∈ opened, ∃ rule began, grammar.OpensBy line state top rule began) ∧
      (∀ later, grammar.ReachesAbove line scan.stack.length scan later →
        later.stack.length = scan.stack.length →
        later.stack = scan.stack ∧ later.anchor = scan.anchor) ∧
      ∀ (pattern : Pattern.Compiled) (position : Nat) (accepted : Pattern.Acceptance),
        pattern.anchored = true → pattern.Admits line position scan.anchor accepted →
        Scan.anchorOf state scan.stack = some accepted.start := by
  have fits := AnchorFits.of_reaches reached
  refine ⟨fits.anchorEq, fits.saves.exists_split, fun later above sameDepth => ?again,
    fun pattern position accepted anchored admits => ?atAnchor⟩
  case again =>
    have sameStack : later.stack = scan.stack :=
      ((ReachesAbove.suffix above).eq_of_length sameDepth.symm).symm
    have laterReached : grammar.Reaches line (Scan.start state) later :=
      reached.trans (Relation.ReflTransGen.mono (fun _ _ step => step.1) _ _ above)
    have laterFits := AnchorFits.of_reaches laterReached
    refine ⟨sameStack, ?_⟩
    rw [laterFits.anchorEq, sameStack, fits.anchorEq]
  case atAnchor =>
    obtain ⟨atAnchor, startsThere⟩ := admits.at_anchor anchored
    rw [← fits.anchorEq, atAnchor, startsThere]

/-- A list in which a group is opened only where `\G` holds. -/
def groupDocument : GrammarDocument where
  scopeName := some "source.group"
  name := none
  fileTypes := []
  patterns := some [{
    name := some "list"
    opening := some "\\["
    closing := some "\\]"
    members := [{ name := some "group", opening := some "\\G\\(", closing := some "\\)" }]
  }]
  repository := []

/-- The frame of a list that was opened at the end of a line. -/
def groupFrame : Frame where
  rule := 1
  nameScopes := [⟨"source.group"⟩, ⟨"list"⟩]
  contentScopes := [⟨"source.group"⟩, ⟨"list"⟩]
  closing := none
  openedAtLineEnd := true

/-- A group moves the anchor to its interior.  When it is closed, the anchor is back at the
start of the line, so the parenthesis behind it opens no other group. -/
theorem groupDocument_anchors :
    ∃ grammar, ofDocument .standard true groupDocument = .ok grammar ∧
      ∃ inner later, grammar.Reaches ['(', ')', '('] (Scan.start ⟨[groupFrame]⟩) inner ∧
        Scan.anchorOf ⟨[groupFrame]⟩ inner.stack = some 1 ∧ inner.anchor = some 1 ∧
        grammar.Reaches ['(', ')', '('] inner later ∧
        later.stack = (Scan.start ⟨[groupFrame]⟩).stack ∧ later.anchor = some 0 ∧
        Scan.anchorOf ⟨[groupFrame]⟩ (Scan.start ⟨[groupFrame]⟩).stack = some 0 ∧
        grammar.upcomingIn? ['(', ')', '('] later = none := by
  let line := ['(', ')', '(']
  let first := Scan.start ⟨[groupFrame]⟩
  have evaluated : ((ofDocument .standard true groupDocument).toOption.any fun grammar =>
      (grammar.step line first).next?.any fun inner =>
        (grammar.step line inner).next?.any fun later =>
          decide (Scan.anchorOf ⟨[groupFrame]⟩ inner.stack = some 1 ∧ 1 ≤ inner.stack.length ∧
            later.stack.length = 1 ∧ grammar.upcomingIn? line later = none)) = true := by
    decide +kernel
  obtain ⟨grammar, loaded, checked⟩ := exists_ok_of_any evaluated
  obtain ⟨inner, innerEq, checked⟩ := (Option.any_eq_true _ _).mp checked
  obtain ⟨later, laterEq, checked⟩ := (Option.any_eq_true _ _).mp checked
  obtain ⟨innerAnchor, innerDeep, laterDeep, nothingLeft⟩ := of_decide_eq_true checked
  have opens : grammar.step line first = .more inner := Step.next?_eq_some.mp innerEq
  have closes : grammar.step line inner = .more later := Step.next?_eq_some.mp laterEq
  have above : grammar.ReachesAbove line 1 first later :=
    (Relation.ReflTransGen.single ⟨opens, innerDeep⟩).tail ⟨closes, laterDeep.ge⟩
  obtain ⟨pattern, accepted, -, anchored, admits, atStart⟩ :
      ∃ pattern accepted, Pattern.compile? "\\G\\(" = some pattern ∧
        pattern.anchored = true ∧ pattern.Admits line 0 (some 0) accepted ∧
        accepted.start = 0 :=
    Pattern.exists_admits_of_anchored (by decide +kernel)
  have atFirst := anchor_follows_stack
    (.refl : grammar.Reaches line (Scan.start ⟨[groupFrame]⟩) first)
  have atInner := anchor_follows_stack (.single opens : grammar.Reaches line _ inner)
  have again := atFirst.2.2.1 later above laterDeep
  refine ⟨grammar, loaded, inner, later, .single opens, innerAnchor,
    atInner.1.trans innerAnchor, .single closes, again.1, again.2, ?_, nothingLeft⟩
  exact (atFirst.2.2.2 pattern 0 accepted anchored admits).trans (congrArg some atStart)

end Grammar

end Scopelight
