import Scopelight.Proofs.CandidateRules
import Scopelight.Proofs.LaidPieces
import Scopelight.Proofs.LineTurns
import Scopelight.Proofs.LoadedGrammar
import Scopelight.Proofs.UpcomingMatch

/-!
# Open spans

The frames of a state are well formed if each names a span rule that can start and has the
scopes that follow from this rule and the frame around it.  A line keeps this: it closes
some of the innermost frames that it starts with, leaves the others as they are, and puts
on top the frames of spans that it opens.  As all scopes of a line go on from the scopes of
such frames, every token begins with the scope of the grammar.
-/

namespace Scopelight

namespace Grammar

variable (grammar : Grammar)

/-- The scopes inside the innermost of some frames, or those of the whole text. -/
def scopesWithin : List Frame → List Scope
  | [] => grammar.rootScopes
  | top :: _ => top.contentScopes

/-- A frame is the one that its span rule gives it inside the scopes around it. -/
structure FrameFits (around : List Scope) (frame : Frame) (rule : SpanRule) : Prop where
  ruleEq : grammar.rule? frame.rule = some (.span rule)
  notInert : rule.inert = false
  nameScopesEq : frame.nameScopes = around ++ rule.name
  contentScopesEq : frame.contentScopes = frame.nameScopes ++ rule.contentName
  closingIff : frame.closing.isSome = true ↔ rule.hasReferences = true

/-- The frames of a state, innermost first, fit one inside another. -/
inductive WellFormed : List Frame → Prop
  | nil : WellFormed []
  | cons {frame : Frame} {outer : List Frame} {rule : SpanRule}
      (fits : grammar.FrameFits (grammar.scopesWithin outer) frame rule)
      (outerFits : WellFormed outer) : WellFormed (frame :: outer)

/-- One scan of a line leads to another. -/
def Reaches (line : List Char) : Scan → Scan → Prop :=
  Relation.ReflTransGen fun before after => grammar.step line before = .more after

/-- A frame that some step of a scan pushes. -/
def Pushes (line : List Char) (first : Scan) (frame : Frame) : Prop :=
  ∃ scan id rule found, grammar.Reaches line first scan ∧
    grammar.rule? id = some (.span rule) ∧
    grammar.step line scan = .more (grammar.openedScan line scan id rule found) ∧
    frame = (grammar.openFrame line scan id rule found).frame

/-- Frames that come from those at the start of a line: some of the innermost are gone, and
frames that were pushed on the line are on top of the others. -/
def Continues (line : List Char) (state : State) (frames : List Frame) : Prop :=
  ∃ pushed kept, frames = pushed ++ kept ∧ kept <:+ state.stack ∧
    ∀ frame ∈ pushed, grammar.Pushes line (Scan.start state) frame

/-- What a line does to well-formed frames. -/
structure KeepsSpans (line : List Char) (state : State) (result : LineTokens) : Prop where
  wellFormed : grammar.WellFormed result.endState.stack
  continues : grammar.Continues line state result.endState.stack
  rooted : ∀ token ∈ result.tokens, [grammar.scopeName] <+: token.scopes

variable {grammar}

theorem WellFormed.root_prefix {frames : List Frame} (wellFormed : grammar.WellFormed frames) :
    grammar.rootScopes <+: grammar.scopesWithin frames := by
  induction wellFormed with
  | nil => exact List.prefix_refl _
  | cons fits _ ih =>
      rw [scopesWithin, fits.contentScopesEq, fits.nameScopesEq]
      exact (ih.trans (List.prefix_append _ _)).trans (List.prefix_append _ _)

/-- Every frame of a state is the one that its rule gives it. -/
theorem WellFormed.exists_fits {frames : List Frame} (wellFormed : grammar.WellFormed frames)
    {frame : Frame} (member : frame ∈ frames) :
    ∃ around rule, grammar.FrameFits around frame rule := by
  induction wellFormed with
  | nil => cases member
  | cons fits _ ih =>
      rcases List.mem_cons.mp member with rfl | outer
      · exact ⟨_, _, fits⟩
      · exact ih outer

theorem FrameFits.name_prefix {around : List Scope} {frame : Frame} {rule : SpanRule}
    (fits : grammar.FrameFits around frame rule) : around <+: frame.nameScopes :=
  fits.nameScopesEq ▸ List.prefix_append _ _

theorem scopesInside_eq (stack : List OpenFrame) :
    Scan.scopesInside grammar.rootScopes stack =
      grammar.scopesWithin (stack.map OpenFrame.frame) := by
  cases stack <;> rfl

namespace Continues

variable {line : List Char} {state : State} {frames : List Frame}

theorem start (line : List Char) (state : State) : grammar.Continues line state state.stack :=
  ⟨[], state.stack, rfl, List.suffix_refl _, by simp⟩

theorem close {frame : Frame} (continues : grammar.Continues line state (frame :: frames)) :
    grammar.Continues line state frames := by
  obtain ⟨pushed, kept, framesEq, keptSuffix, allPushed⟩ := continues
  cases pushed with
  | nil =>
      have keptEq : frame :: frames = kept := framesEq
      have shorter : frames <:+ kept := keptEq ▸ List.suffix_cons _ _
      exact ⟨[], frames, rfl, shorter.trans keptSuffix, by simp⟩
  | cons first pushed =>
      obtain ⟨-, framesEq⟩ := List.cons.inj framesEq
      exact ⟨pushed, kept, framesEq, keptSuffix,
        fun other member => allPushed other (List.mem_cons_of_mem _ member)⟩

theorem push {frame : Frame} (continues : grammar.Continues line state frames)
    (pushes : grammar.Pushes line (Scan.start state) frame) :
    grammar.Continues line state (frame :: frames) := by
  obtain ⟨pushed, kept, rfl, keptSuffix, allPushed⟩ := continues
  refine ⟨frame :: pushed, kept, rfl, keptSuffix, fun other member => ?_⟩
  rcases List.mem_cons.mp member with rfl | old
  · exact pushes
  · exact allPushed other old

end Continues

/-- Pieces come from others by laying down tokens whose scopes begin with those of the whole
text. -/
abbrev LaysRooted (grammar : Grammar) : Pieces → Pieces → Prop :=
  Pieces.Extends (fun _ => True) grammar.rootScopes

theorem layMatch_rooted {before scopes : List Scope}
    (beforeRooted : grammar.rootScopes <+: before)
    (scopesRooted : grammar.rootScopes <+: scopes) (captures : Captures) (found : Match)
    (pieces : Pieces) :
    grammar.LaysRooted pieces (pieces.layMatch before scopes captures found) :=
  Pieces.layMatch_extends (fun _ _ => trivial) beforeRooted scopesRooted captures trivial
    trivial (fun _ _ _ => trivial) pieces

/-- A span that comes next is not inert, because it is a candidate. -/
theorem not_inert_of_upcoming {line : List Char} {scan : Scan} {id : RuleId} {rule : SpanRule}
    {found : Match} (upcoming : grammar.upcomingIn? line scan = some (.start id found))
    (ruleEq : grammar.rule? id = some (.span rule)) : rule.inert = false := by
  rcases upcoming?_cases upcoming with ⟨id', found', same, startEq⟩ | ⟨_, _, absurd, -⟩
  · cases same
    obtain ⟨-, _, -, -, candidate⟩ := nextStart?_eq_some_iff.mp startEq
    obtain ⟨other, text, otherEq, textEq⟩ :=
      Rulebook.canStart_of_mem_candidates (List.mem_of_getElem? candidate)
    obtain rfl := Option.some.inj (ruleEq.symm.trans otherEq)
    simp only [Rule.startPattern?] at textEq
    split at textEq
    · cases textEq
    · next notInert => exact Bool.eq_false_iff.mpr notInert
  · cases absurd

theorem WellFormed.opened {line : List Char} {scan : Scan} {id : RuleId} {rule : SpanRule}
    {found : Match} (wellFormed : grammar.WellFormed (scan.stack.map OpenFrame.frame))
    (upcoming : grammar.upcomingIn? line scan = some (.start id found))
    (ruleEq : grammar.rule? id = some (.span rule)) :
    grammar.WellFormed
      ((grammar.openedScan line scan id rule found).stack.map OpenFrame.frame) := by
  refine .cons ⟨ruleEq, not_inert_of_upcoming upcoming ruleEq, ?_, rfl, ?_⟩ wellFormed
  · change grammar.scopesAround scan ++ rule.name = _
    rw [scopesAround, scopesInside_eq]
  · change Option.isSome (if rule.hasReferences then _ else none) = true ↔ _
    cases rule.hasReferences <;> simp

/-- What a scan keeps: the frames that a line started with go on, and all scopes begin with
those of the whole text. -/
structure StackFits (grammar : Grammar) (line : List Char) (state : State)
    (stack : List OpenFrame) (pieces : Pieces) : Prop where
  wellFormed : grammar.WellFormed (stack.map OpenFrame.frame)
  continues : grammar.Continues line state (stack.map OpenFrame.frame)
  rooted : ∀ token ∈ pieces.tokens, grammar.rootScopes <+: token.scopes

namespace StackFits

variable {line : List Char} {state : State} {stack : List OpenFrame}
  {before after : Pieces}

theorem inside_rooted (fits : StackFits grammar line state stack before) :
    grammar.rootScopes <+: Scan.scopesInside grammar.rootScopes stack :=
  scopesInside_eq stack ▸ fits.wellFormed.root_prefix

theorem lay (fits : StackFits grammar line state stack before)
    (laid : grammar.LaysRooted before after) : StackFits grammar line state stack after :=
  ⟨fits.wellFormed, fits.continues, laid.scopes_from fits.rooted⟩

theorem final (fits : StackFits grammar line state stack before) :
    StackFits grammar line state stack (grammar.finalPieces line stack before) :=
  fits.lay (.produce (.refl _) trivial fits.inside_rooted)

theorem skipped {scan : Scan}
    (fits : StackFits grammar line state scan.stack scan.pieces) (found : Match) :
    StackFits grammar line state scan.stack (grammar.skippedPieces scan found) :=
  fits.lay (.produce (.refl _) trivial fits.inside_rooted)

theorem passed {scan : Scan}
    (fits : StackFits grammar line state scan.stack scan.pieces) (rule : SingleRule)
    (found : Match) :
    StackFits grammar line state scan.stack (grammar.passedPieces scan rule found) :=
  fits.lay (layMatch_rooted fits.inside_rooted
    (fits.inside_rooted.trans (List.prefix_append _ _)) _ _ _)

theorem closed {scan : Scan} {top : OpenFrame} {outer : List OpenFrame}
    (fits : StackFits grammar line state scan.stack scan.pieces)
    (stackEq : scan.stack = top :: outer) (found : Match) :
    StackFits grammar line state scan.stack (grammar.closedPieces scan top found) := by
  have inside := fits.inside_rooted
  have wellFormed := fits.wellFormed
  rw [stackEq] at inside wellFormed
  cases wellFormed with
  | cons topFits outerFits =>
      exact fits.lay (layMatch_rooted inside
        (outerFits.root_prefix.trans topFits.name_prefix) _ _ _)

theorem pop {top : OpenFrame} {outer : List OpenFrame}
    (fits : StackFits grammar line state stack before) (stackEq : stack = top :: outer) :
    StackFits grammar line state outer before := by
  subst stackEq
  cases fits.wellFormed with
  | cons _ outerFits => exact ⟨outerFits, fits.continues.close, fits.rooted⟩

theorem opened {scan : Scan} {id : RuleId} {rule : SpanRule} {found : Match}
    (fits : StackFits grammar line state scan.stack scan.pieces)
    (reached : grammar.Reaches line (Scan.start state) scan)
    (upcoming : grammar.upcomingIn? line scan = some (.start id found))
    (ruleEq : grammar.rule? id = some (.span rule))
    (stepEq : grammar.step line scan = .more (grammar.openedScan line scan id rule found)) :
    StackFits grammar line state (grammar.openedScan line scan id rule found).stack
      (grammar.openedScan line scan id rule found).pieces := by
  have nameRooted : grammar.rootScopes <+: grammar.scopesAround scan ++ rule.name :=
    fits.inside_rooted.trans (List.prefix_append _ _)
  have laid := fits.lay (layMatch_rooted fits.inside_rooted nameRooted
    rule.openingCaptures found scan.pieces)
  exact ⟨fits.wellFormed.opened upcoming ruleEq,
    fits.continues.push ⟨scan, id, rule, found, reached, ruleEq, stepEq, rfl⟩, laid.rooted⟩

end StackFits

/-- Every step keeps the frames well formed and the scopes rooted. -/
theorem step_keepsSpans {line : List Char} {state : State} {scan : Scan}
    (reached : grammar.Reaches line (Scan.start state) scan)
    (fits : StackFits grammar line state scan.stack scan.pieces) :
    (grammar.step line scan).Keeps
      (fun next => grammar.Reaches line (Scan.start state) next ∧
        StackFits grammar line state next.stack next.pieces)
      (StackFits grammar line state) := by
  -- The step itself is kept beside its outcome: a frame that is pushed names this step.
  have turn : Turn grammar line scan (grammar.step line scan) := step_turn scan
  generalize outcomeEq : grammar.step line scan = outcome at turn
  have goesOn : ∀ {next}, outcome = .more next →
      grammar.Reaches line (Scan.start state) next :=
    fun more => reached.tail (outcomeEq.trans more)
  cases turn with
  | exhausted => exact fits.final
  | refused => exact fits.final
  | stuckClose found top outer _ stackEq => exact (fits.closed stackEq found).final
  | close found top outer _ stackEq =>
      exact ⟨goesOn rfl, (fits.closed stackEq found).pop stackEq⟩
  | stuckSingle found id rule => exact (fits.passed rule found).final
  | pass found id rule => exact ⟨goesOn rfl, fits.passed rule found⟩
  | reopened found => exact (fits.skipped found).final
  | opens found id rule upcoming ruleEq =>
      exact ⟨goesOn rfl, fits.opened reached upcoming ruleEq outcomeEq⟩
  | unfit found => exact (fits.skipped found).final

/-- The initial state is well formed.  From a well-formed state a line leads to a well-formed
state, which keeps some of the outermost frames and has frames pushed on this line inside
them, and every token of the line begins with the scope of the grammar. -/
theorem tokenizeLine_keepsSpans (grammar : Grammar) :
    grammar.WellFormed State.initial.stack ∧
      ∀ (state : State) (line : List Char) (limit : Nat), grammar.WellFormed state.stack →
        grammar.KeepsSpans line state (grammar.tokenizeLine line state) ∧
          grammar.KeepsSpans line state (grammar.tokenizeLineLimited limit line state) := by
  refine ⟨.nil, fun state line limit wellFormed => ?_⟩
  have framesEq : (Scan.start state).stack.map OpenFrame.frame = state.stack := by
    simp [Scan.start, Function.comp_def]
  have started : StackFits grammar line state (Scan.start state).stack
      (Scan.start state).pieces :=
    ⟨framesEq ▸ wellFormed, framesEq ▸ .start line state, by simp [Scan.start, Pieces.empty]⟩
  have ended := runSteps_keeps (fun scan holds => step_keepsSpans holds.1 holds.2)
    (fun scan holds => holds.2.final) (stepLimit line state) ⟨.refl, started⟩
  have whole : grammar.KeepsSpans line state (grammar.tokenizeLine line state) :=
    ⟨ended.wellFormed, ended.continues,
      fun token member => ended.rooted token (List.mem_reverse.mp member)⟩
  refine ⟨whole, ?_⟩
  unfold tokenizeLineLimited
  split
  case isTrue => exact whole
  case isFalse =>
    refine ⟨wellFormed, .start line state, fun token member => ?_⟩
    rw [List.mem_singleton.mp member]
    have rooted := wellFormed.root_prefix
    cases frames : state.stack with
    | nil => simp [State.contentScopes?, frames, rootScopes]
    | cons top outer => simpa [State.contentScopes?, frames, scopesWithin, rootScopes] using rooted

/-- A line of a small grammar that closes the span in which it starts. -/
theorem markDocument_keepsSpans :
    ∃ grammar, Grammar.ofDocument .standard true markDocument = .ok grammar ∧
      ∃ frame, grammar.WellFormed [frame] ∧
        grammar.KeepsSpans ['a', '>', '<'] ⟨[frame]⟩
          (grammar.tokenizeLine ['a', '>', '<'] ⟨[frame]⟩) ∧
        grammar.KeepsSpans ['a', '>', '<'] ⟨[frame]⟩
          (grammar.tokenizeLineLimited 2 ['a', '>', '<'] ⟨[frame]⟩) := by
  obtain ⟨grammar, loaded, rulesEq, -, scopeNameEq⟩ := markDocument_loads
  have ruleEq : grammar.rule? 1 = markRules[1]? := congrArg (·[1]?) rulesEq
  have wellFormed : grammar.WellFormed
      [⟨1, [⟨"text.marks"⟩, ⟨"mark"⟩], [⟨"text.marks"⟩, ⟨"mark"⟩, ⟨"mark.inner"⟩], none,
        false⟩] := by
    refine .cons ⟨ruleEq, rfl, ?_, rfl, by simp⟩ .nil
    simp [scopesWithin, rootScopes, scopeNameEq]
  exact ⟨grammar, loaded, _, wellFormed,
    (tokenizeLine_keepsSpans grammar).2 _ _ 2 wellFormed⟩

end Grammar

end Scopelight
