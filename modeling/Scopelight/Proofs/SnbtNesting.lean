import Scopelight.Proofs.LineStartAnchor
import Scopelight.Proofs.PlannedSteps
import Scopelight.Proofs.SnbtText

/-!
# Brackets of SNBT nest

In a text of braces and square brackets alone every character is one step of a scan.  An
opening bracket opens a compound or a list, as an array needs other characters.  A closing
bracket closes the innermost span if it is the one for it, and is invalid otherwise.  So the
open spans are the stack of a small machine, which does not see where the lines end; only
the record of the spans that were opened at the end of a line does.
-/

namespace Scopelight

/-- A frame without the record of whether it was opened at the end of a line. -/
def Frame.withoutLineEnd (frame : Frame) : Frame :=
  { frame with openedAtLineEnd := false }

/-- A state without the record of which spans were opened at the end of a line. -/
def State.withoutLineEnds (state : State) : State :=
  ⟨state.stack.map Frame.withoutLineEnd⟩

namespace Snbt

open Pattern Grammar

/-! ### The machine -/

/-- The brackets of compounds and of lists. -/
def bracketChars : List Char :=
  ['\x7b', '\x7d', '[', ']']

/-- The open compounds and lists, innermost first, after one more character. -/
def nest (compound list : RuleId) (stack : List RuleId) (c : Char) : List RuleId :=
  if c = '\x7b' then compound :: stack
  else if c = '[' then list :: stack
  else if c = '\x7d' ∧ stack.head? = some compound then stack.tail
  else if c = ']' ∧ stack.head? = some list then stack.tail
  else stack

/-- Open spans, innermost first, with whether each was opened at the end of a line. -/
abbrev Marks := List (RuleId × Bool)

/-- The marks of the open spans after one more character, which may be the last of a line. -/
def nestMark (compound list : RuleId) (atEnd : Bool) (marks : Marks) (c : Char) : Marks :=
  if c = '\x7b' then (compound, atEnd) :: marks
  else if c = '[' then (list, atEnd) :: marks
  else if c = '\x7d' ∧ (marks.map Prod.fst).head? = some compound then marks.tail
  else if c = ']' ∧ (marks.map Prod.fst).head? = some list then marks.tail
  else marks

/-- The marks of the open spans after the rest of a line. -/
def nestLine (compound list : RuleId) : Marks → List Char → Marks
  | marks, [] => marks
  | marks, c :: rest => nestLine compound list (nestMark compound list rest.isEmpty marks c) rest

theorem map_nestMark (compound list : RuleId) (atEnd : Bool) (marks : Marks) (c : Char) :
    (nestMark compound list atEnd marks c).map Prod.fst =
      nest compound list (marks.map Prod.fst) c := by
  unfold nestMark nest
  split_ifs <;> simp

theorem map_nestLine (compound list : RuleId) (marks : Marks) (line : List Char) :
    (nestLine compound list marks line).map Prod.fst =
      line.foldl (nest compound list) (marks.map Prod.fst) := by
  induction line generalizing marks with
  | nil => rfl
  | cons c rest ih => rw [nestLine, ih, map_nestMark, List.foldl_cons]

/-- The lines of a text only matter for the record of what was opened at their ends. -/
theorem map_nestLines (compound list : RuleId) (marks : Marks) (lines : List (List Char)) :
    (lines.foldl (nestLine compound list) marks).map Prod.fst =
      lines.flatten.foldl (nest compound list) (marks.map Prod.fst) := by
  induction lines generalizing marks with
  | nil => rfl
  | cons line lines ih =>
      rw [List.foldl_cons, ih, map_nestLine, List.flatten_cons, List.foldl_append]

/-- A pair of brackets with the rule of the spans between them. -/
structure BracketPair where
  opening : Char
  closing : Char
  rule : RuleId

def bracketPairs (compound list : RuleId) : List BracketPair :=
  [⟨'\x7b', '\x7d', compound⟩, ⟨'[', ']', list⟩]

section Pairs

variable {compound list : RuleId} {pair other : BracketPair} {atEnd : Bool} {marks : Marks}

theorem exists_pair_of_mem {c : Char} (member : c ∈ bracketChars) :
    ∃ pair ∈ bracketPairs compound list, c = pair.opening ∨ c = pair.closing := by
  simp only [bracketChars, List.mem_cons, List.not_mem_nil, or_false] at member
  rcases member with rfl | rfl | rfl | rfl <;> simp [bracketPairs]

theorem nestMark_opening (member : pair ∈ bracketPairs compound list) :
    nestMark compound list atEnd marks pair.opening = (pair.rule, atEnd) :: marks := by
  simp only [bracketPairs, List.mem_cons, List.not_mem_nil, or_false] at member
  rcases member with rfl | rfl <;> simp [nestMark]

theorem nestMark_closing (member : pair ∈ bracketPairs compound list) :
    nestMark compound list atEnd marks pair.closing =
      if (marks.map Prod.fst).head? = some pair.rule then marks.tail else marks := by
  simp only [bracketPairs, List.mem_cons, List.not_mem_nil, or_false] at member
  rcases member with rfl | rfl <;> simp [nestMark]

theorem opening_ne_closing (member : pair ∈ bracketPairs compound list)
    (otherMember : other ∈ bracketPairs compound list) : pair.opening ≠ other.closing := by
  simp only [bracketPairs, List.mem_cons, List.not_mem_nil, or_false] at member otherMember
  rcases member with rfl | rfl <;> rcases otherMember with rfl | rfl <;> simp

theorem closing_ne_closing (member : pair ∈ bracketPairs compound list)
    (otherMember : other ∈ bracketPairs compound list) (differs : other.rule ≠ pair.rule) :
    pair.closing ≠ other.closing := by
  simp only [bracketPairs, List.mem_cons, List.not_mem_nil, or_false] at member otherMember
  rcases member with rfl | rfl <;> rcases otherMember with rfl | rfl <;> simp at differs ⊢

end Pairs

/-! ### The rules -/

/-- Whether a plan matches nothing where a bracket and then only brackets come next. -/
def bracketSilent (c : Char) (plan : Plan) : Bool :=
  plan.avoids c || !plan.fitsIn bracketChars

theorem silent_of_bracketSilent {c : Char} {plan : Plan} {rest : List Char}
    (checked : bracketSilent c plan = true) (within : ∀ d ∈ c :: rest, d ∈ bracketChars) :
    plan.Silent (c :: rest) := by
  rw [bracketSilent, Bool.or_eq_true, Bool.not_eq_true'] at checked
  rcases checked with avoids | notFits
  · exact Plan.silent_of_avoids avoids rest
  · exact Plan.silent_of_fitsIn notFits within

/-- Whether in some contexts the opening bracket of a pair opens its spans, and the closing
bracket closes them and is a single match in the other contexts. -/
def nestsPair (book : Rulebook) (contexts : List RuleId) (pair : BracketPair) : Bool :=
  book.root != pair.rule &&
  (contexts.all fun context =>
    book.startsFirst patternPlans (bracketSilent pair.opening) context [pair.opening] pair.rule &&
      (context == pair.rule ||
        (book.firstStart? patternPlans (bracketSilent pair.closing) context).any fun id =>
          (book.single? id).isSome &&
            book.startsFirst patternPlans (bracketSilent pair.closing) context [pair.closing]
              id)) &&
    (book.span? pair.rule).any fun rule =>
      !rule.closingLast && decide (patternPlans.plan? rule.closing = some (.text pair.closing []))

def nestsBrackets (book : Rulebook) : Bool :=
  (book.named? "compound").any fun compound => (book.named? "list").any fun list =>
    (bracketPairs compound list).all (nestsPair book [book.root, compound, list])

/-- What a pair of brackets does in some contexts. -/
structure NestsPair (grammar : Grammar) (contexts : List RuleId) (pair : BracketPair) :
    Prop where
  rootNe : grammar.root ≠ pair.rule
  opens : ∀ context ∈ contexts, ∀ rest, (∀ d ∈ pair.opening :: rest, d ∈ bracketChars) →
    grammar.StartsFirst context [pair.opening] rest pair.rule
  /-- A closing bracket that closes nothing is a single match. -/
  strays : ∀ context ∈ contexts, context ≠ pair.rule → ∀ rest,
    (∀ d ∈ pair.closing :: rest, d ∈ bracketChars) →
    ∃ id rule, grammar.rule? id = some (.single rule) ∧
      grammar.StartsFirst context [pair.closing] rest id
  closes : ∃ rule, grammar.rule? pair.rule = some (.span rule) ∧ rule.closingLast = false ∧
    compile? rule.closing = some (.ofPlan (.text pair.closing []) false)

theorem nestsPair_sound {grammar : Grammar} {contexts : List RuleId} {pair : BracketPair}
    (checked : nestsPair grammar.toRulebook contexts pair = true) :
    NestsPair grammar contexts pair := by
  simp only [nestsPair, Bool.and_eq_true, List.all_eq_true, Bool.or_eq_true, beq_iff_eq,
    Option.any_eq_true, Bool.not_eq_true', decide_eq_true_eq, bne_iff_ne] at checked
  obtain ⟨⟨rootNe, inContexts⟩, rule, ruleEq, preferred, closingEq⟩ := checked
  refine ⟨rootNe, ?_, ?_, rule, Rulebook.span?_eq_some.mp ruleEq, preferred,
    patternPlans_right.compile? closingEq⟩
  · intro context member rest within
    exact startsFirst_of_check patternPlans_right (inContexts context member).1
      fun plan silent => silent_of_bracketSilent silent within
  · intro context member differs rest within
    rcases (inContexts context member).2 with same | ⟨id, -, isSingle, starts⟩
    · exact absurd same differs
    · obtain ⟨single, singleEq⟩ := Option.isSome_iff_exists.mp isSingle
      exact ⟨id, single, Rulebook.single?_eq_some.mp singleEq,
        startsFirst_of_check patternPlans_right starts
          fun plan silent => silent_of_bracketSilent silent within⟩

/-- What brackets do in the text and inside compounds and lists. -/
def NestsBrackets (grammar : Grammar) (compound list : RuleId) : Prop :=
  ∀ pair ∈ bracketPairs compound list, NestsPair grammar [grammar.root, compound, list] pair

theorem exists_nestsBrackets (strict : Bool) :
    ∃ loaded, grammar .standard strict = .ok loaded ∧ Classifying structural loaded ∧
      ∃ compound list, loaded.named? "compound" = some compound ∧
        loaded.named? "list" = some list ∧ NestsBrackets loaded compound list := by
  obtain ⟨loaded, loadedEq, -, checked⟩ :=
    grammar_loads strict nestsBrackets (by decide +kernel)
  obtain ⟨other, otherEq, classifying⟩ := exists_classifying strict
  obtain rfl := Except.ok.inj (loadedEq.symm.trans otherEq)
  simp only [nestsBrackets, Option.any_eq_true, List.all_eq_true] at checked
  obtain ⟨compound, compoundEq, list, listEq, allNest⟩ := checked
  exact ⟨loaded, loadedEq, classifying, compound, list, compoundEq, listEq,
    fun pair member => nestsPair_sound (allNest pair member)⟩

/-! ### The scan of a line of brackets -/

def marksOf (frames : List Frame) : Marks :=
  frames.map fun frame => (frame.rule, frame.openedAtLineEnd)

section Scan

variable {grammar : Grammar} {compound list : RuleId} {line before rest : List Char}
  {scan : Scan} {pair : BracketPair}

/-- All of some frames are those of pairs of brackets. -/
def InPairs (compound list : RuleId) (frames : List Frame) : Prop :=
  ∀ frame ∈ frames, ∃ pair ∈ bracketPairs compound list, frame.rule = pair.rule

/-- A scan stands inside compounds and lists only. -/
structure Nested (grammar : Grammar) (compound list : RuleId) (line : List Char) (scan : Scan) :
    Prop where
  swept : Swept structural grammar line scan
  inside : InPairs compound list (scan.stack.map OpenFrame.frame)

namespace Nested

theorem exists_pair (nested : Nested grammar compound list line scan) {opened : OpenFrame}
    (isOpen : opened ∈ scan.stack) :
    ∃ pair ∈ bracketPairs compound list, opened.frame.rule = pair.rule :=
  nested.inside opened.frame (List.mem_map_of_mem isOpen)

theorem context_mem (nested : Nested grammar compound list line scan) :
    grammar.contextOf scan.stack ∈ [grammar.root, compound, list] := by
  cases stackEq : scan.stack with
  | nil => exact List.mem_cons_self
  | cons top outer =>
      obtain ⟨pair, member, ruleEq⟩ := nested.exists_pair (stackEq ▸ List.mem_cons_self)
      change top.frame.rule ∈ _
      rw [ruleEq]
      simp only [bracketPairs, List.mem_cons, List.not_mem_nil, or_false] at member
      rcases member with rfl | rfl <;> simp

/-- The innermost span is that of a pair of brackets, and its end is the closing bracket. -/
theorem closing_eq (classifying : Classifying structural grammar)
    (nests : NestsBrackets grammar compound list)
    (nested : Nested grammar compound list line scan) (member : pair ∈ bracketPairs compound list)
    {top : OpenFrame} (topEq : scan.stack.head? = some top)
    (ruleEq : top.frame.rule = pair.rule) :
    grammar.closesLast (grammar.contextOf scan.stack) = false ∧
      grammar.closingPattern? top.frame = some (.ofPlan (.text pair.closing []) false) := by
  obtain ⟨rule, spanEq, preferred, closingEq⟩ := (nests pair member).closes
  obtain ⟨outer, stackEq⟩ := List.head?_eq_some_iff.mp topEq
  have wellFormed := nested.swept.wellFormed
  rw [stackEq] at wellFormed
  cases wellFormed with
  | @cons _ _ own fits _ =>
      have ownEq := fits.ruleEq
      rw [ruleEq, spanEq] at ownEq
      cases ownEq
      constructor
      · have contextEq : grammar.contextOf scan.stack = pair.rule := by
          rw [stackEq]
          exact ruleEq
        simp only [contextEq, closesLast, spanEq, preferred]
      · rw [closingPattern?_eq classifying.classifies fits, closingEq]

/-- A bracket that does not close the innermost span leaves it open. -/
theorem stays_open (classifying : Classifying structural grammar)
    (nests : NestsBrackets grammar compound list)
    (nested : Nested grammar compound list line scan) {c : Char}
    (other : ∀ pair ∈ bracketPairs compound list, grammar.contextOf scan.stack = pair.rule →
      c ≠ pair.closing) :
    ∀ top ∈ scan.stack.head?, SilentAt (grammar.closingPattern? top.frame) ([c] ++ rest) := by
  intro top topEq
  obtain ⟨outer, stackEq⟩ := List.head?_eq_some_iff.mp topEq
  obtain ⟨pair, member, ruleEq⟩ := nested.exists_pair (stackEq ▸ List.mem_cons_self)
  have differs : c ≠ pair.closing := other pair member (by rw [stackEq]; exact ruleEq)
  exact ⟨_, (nested.closing_eq classifying nests member topEq ruleEq).2,
    Plan.silent_of_avoids (Plan.text_avoids differs []) rest⟩

end Nested

/-- A step over one character leads to another scan of this kind, and the open spans are
those of the machine. -/
structure StepsOver (grammar : Grammar) (compound list : RuleId) (line : List Char)
    (scan : Scan) (c : Char) (rest : List Char) (next : Scan) : Prop where
  stepEq : grammar.step line scan = .more next
  nested : Nested grammar compound list line next
  positionEq : next.position = scan.position + c.utf8Size
  marksEq : marksOf (next.stack.map OpenFrame.frame) =
    nestMark compound list rest.isEmpty (marksOf (scan.stack.map OpenFrame.frame)) c

namespace Nested

theorem step_opening (classifying : Classifying structural grammar)
    (nests : NestsBrackets grammar compound list)
    (nested : Nested grammar compound list line scan) (member : pair ∈ bracketPairs compound list)
    (positionEq : Text.byteLength before = scan.position)
    (lineEq : line = before ++ pair.opening :: rest)
    (within : ∀ d ∈ pair.opening :: rest, d ∈ bracketChars) :
    ∃ next, StepsOver grammar compound list line scan pair.opening rest next := by
  obtain ⟨rule, spanEq, -⟩ := (nests pair member).closes
  have starts := (nests pair member).opens _ nested.context_mem rest within
  have stays : ∀ top ∈ scan.stack.head?,
      SilentAt (grammar.closingPattern? top.frame) ([pair.opening] ++ rest) :=
    nested.stays_open classifying nests fun other otherMember _ =>
      opening_ne_closing member otherMember
  obtain ⟨index, upcoming⟩ :=
    (nested.swept.priority classifying).starts_here positionEq lineEq starts stays
  have stepEq := nested.swept.step_open classifying upcoming spanEq
  have atEnd : decide (scan.position + pair.opening.utf8Size = Text.byteLength line) =
      rest.isEmpty := by
    rw [lineEq, ← positionEq, Text.byteLength_append, Text.byteLength_cons]
    cases rest with
    | nil => simp
    | cons d rest =>
        have sizePos := d.utf8Size_pos
        refine decide_eq_false ?_
        rw [Text.byteLength_cons]
        omega
  refine ⟨_, stepEq, ⟨(nested.swept.goes_on classifying stepEq).1, ?_⟩, ?_, ?_⟩
  · intro opened isOpen
    rcases List.mem_cons.mp isOpen with rfl | old
    · exact ⟨pair, member, rfl⟩
    · exact nested.inside opened old
  · exact Nat.max_eq_right (Nat.le_add_right _ _)
  · rw [nestMark_opening member, ← atEnd]
    rfl

theorem step_closing (classifying : Classifying structural grammar)
    (nests : NestsBrackets grammar compound list)
    (nested : Nested grammar compound list line scan) (member : pair ∈ bracketPairs compound list)
    (closes : grammar.contextOf scan.stack = pair.rule)
    (positionEq : Text.byteLength before = scan.position)
    (lineEq : line = before ++ pair.closing :: rest) :
    ∃ next, StepsOver grammar compound list line scan pair.closing rest next := by
  cases stackEq : scan.stack with
  | nil =>
      rw [stackEq] at closes
      exact absurd closes (nests pair member).rootNe
  | cons top outer =>
      have topEq : scan.stack.head? = some top := by rw [stackEq, List.head?_cons]
      have ruleEq : top.frame.rule = pair.rule := by
        rw [stackEq] at closes
        exact closes
      obtain ⟨preferred, closingEq⟩ :=
        nested.closing_eq classifying nests member topEq ruleEq
      have matched : OnlyMatches (grammar.closingPattern? top.frame) [pair.closing] :=
        ⟨_, closingEq, by simp [Plan.matchesOnly]⟩
      have upcoming := (nested.swept.priority classifying).closes_here positionEq lineEq topEq
        matched (by simp [Char.utf8Size_pos]) preferred
      have stepEq := nested.swept.step_close classifying upcoming stackEq
      refine ⟨_, stepEq, ⟨(nested.swept.goes_on classifying stepEq).1, ?_⟩, ?_, ?_⟩
      · exact fun opened old => nested.inside opened (stackEq ▸ List.mem_cons_of_mem _ old)
      · exact Nat.max_eq_right (Nat.le_add_right _ _)
      · rw [nestMark_closing member, stackEq, if_pos (by simp [marksOf, ruleEq])]
        rfl

theorem step_stray (classifying : Classifying structural grammar)
    (nests : NestsBrackets grammar compound list)
    (nested : Nested grammar compound list line scan) (member : pair ∈ bracketPairs compound list)
    (differs : grammar.contextOf scan.stack ≠ pair.rule)
    (positionEq : Text.byteLength before = scan.position)
    (lineEq : line = before ++ pair.closing :: rest)
    (within : ∀ d ∈ pair.closing :: rest, d ∈ bracketChars) :
    ∃ next, StepsOver grammar compound list line scan pair.closing rest next := by
  obtain ⟨id, rule, ruleEq, starts⟩ :=
    (nests pair member).strays _ nested.context_mem differs rest within
  have stays : ∀ top ∈ scan.stack.head?,
      SilentAt (grammar.closingPattern? top.frame) ([pair.closing] ++ rest) :=
    nested.stays_open classifying nests fun other otherMember same =>
      closing_ne_closing member otherMember (same ▸ differs)
  obtain ⟨index, upcoming⟩ :=
    (nested.swept.priority classifying).starts_here positionEq lineEq starts stays
  have stepEq := nested.swept.step_pass classifying upcoming ruleEq
  refine ⟨_, stepEq, ⟨(nested.swept.goes_on classifying stepEq).1, nested.inside⟩, rfl, ?_⟩
  have notTop : ((marksOf (scan.stack.map OpenFrame.frame)).map Prod.fst).head? ≠
      some pair.rule := by
    cases stackEq : scan.stack with
    | nil => simp [marksOf]
    | cons top outer =>
        have topDiffers : top.frame.rule ≠ pair.rule := by
          rw [stackEq] at differs
          exact differs
        simpa [marksOf] using topDiffers
  rw [nestMark_closing member, if_neg notTop]
  rfl

/-- Every bracket is one step, and the machine takes the same step. -/
theorem step_bracket (classifying : Classifying structural grammar)
    (nests : NestsBrackets grammar compound list)
    (nested : Nested grammar compound list line scan) {c : Char}
    (positionEq : Text.byteLength before = scan.position) (lineEq : line = before ++ c :: rest)
    (within : ∀ d ∈ c :: rest, d ∈ bracketChars) :
    ∃ next, StepsOver grammar compound list line scan c rest next := by
  obtain ⟨pair, member, rfl | rfl⟩ :
      ∃ pair ∈ bracketPairs compound list, c = pair.opening ∨ c = pair.closing :=
    exists_pair_of_mem (within c List.mem_cons_self)
  · exact nested.step_opening classifying nests member positionEq lineEq within
  · by_cases closes : grammar.contextOf scan.stack = pair.rule
    · exact nested.step_closing classifying nests member closes positionEq lineEq
    · exact nested.step_stray classifying nests member closes positionEq lineEq within

/-- A run over the rest of a line leaves the open spans that the machine leaves. -/
theorem runSteps_nests (classifying : Classifying structural grammar)
    (nests : NestsBrackets grammar compound list) (rest : List Char) (fuel : Nat)
    (nested : Nested grammar compound list line scan)
    (positionEq : Text.byteLength before = scan.position) (lineEq : line = before ++ rest)
    (within : ∀ d ∈ rest, d ∈ bracketChars)
    (enough : Text.byteLength line < scan.position + fuel) :
    InPairs compound list ((grammar.runSteps line fuel scan).1.map OpenFrame.frame) ∧
      marksOf ((grammar.runSteps line fuel scan).1.map OpenFrame.frame) =
        nestLine compound list (marksOf (scan.stack.map OpenFrame.frame)) rest := by
  induction rest generalizing before scan fuel with
  | nil =>
      have atEnd : Text.byteLength line ≤ scan.position := by
        rw [lineEq, List.append_nil, positionEq]
      obtain ⟨more, rfl⟩ : ∃ more, fuel = more + 1 := by
        have insideLine := nested.swept.boundary.le_length
        exact ⟨fuel - 1, by omega⟩
      simp only [runSteps, nested.swept.step_end classifying atEnd, giveUp, nestLine,
        and_true]
      exact nested.inside
  | cons c rest ih =>
      obtain ⟨next, steps⟩ := nested.step_bracket classifying nests positionEq lineEq within
      have nextPosition := steps.positionEq
      obtain ⟨more, rfl⟩ : ∃ more, fuel = more + 1 := by
        have nextLine := steps.nested.swept.boundary.le_length
        have sizePos := c.utf8Size_pos
        exact ⟨fuel - 1, by omega⟩
      have beforeEq : Text.byteLength (before ++ [c]) = next.position := by
        rw [nextPosition, ← positionEq]
        simp [Text.byteLength_append]
      have sizePos := c.utf8Size_pos
      have later := ih more steps.nested beforeEq (by simpa using lineEq)
        (fun d member => within d (List.mem_cons_of_mem _ member)) (by omega)
      rw [steps.marksEq] at later
      simp only [runSteps, steps.stepEq]
      exact later

end Nested

/-! ### The states after lines of brackets -/

/-- A line of brackets does to the open spans what the machine does. -/
theorem tokenizeLine_nests (classifying : Classifying structural grammar)
    (nests : NestsBrackets grammar compound list) {state : State}
    (wellFormed : grammar.WellFormed state.stack) (inside : InPairs compound list state.stack)
    (within : ∀ d ∈ line, d ∈ bracketChars) :
    let ended := (grammar.tokenizeLine line state).endState
    grammar.WellFormed ended.stack ∧ InPairs compound list ended.stack ∧
      marksOf ended.stack = nestLine compound list (marksOf state.stack) line := by
  have framesEq : (Scan.start state).stack.map OpenFrame.frame = state.stack := by
    simp [Scan.start, Function.comp_def]
  have nested : Nested grammar compound list line (Scan.start state) :=
    ⟨Swept.start wellFormed, framesEq ▸ inside⟩
  have lineEq : line = [] ++ line := rfl
  have run := nested.runSteps_nests classifying nests line (stepLimit line state) rfl lineEq
    within (by simp only [stepLimit]; omega)
  rw [framesEq] at run
  exact ⟨(tokenizeLine_classified classifying line wellFormed).wellFormed, run⟩

theorem stateFrom_nests (classifying : Classifying structural grammar)
    (nests : NestsBrackets grammar compound list) (lines : List (List Char)) {state : State}
    (wellFormed : grammar.WellFormed state.stack) (inside : InPairs compound list state.stack)
    (within : ∀ d ∈ lines.flatten, d ∈ bracketChars) :
    grammar.WellFormed (grammar.stateFrom state lines).stack ∧
      marksOf (grammar.stateFrom state lines).stack =
        lines.foldl (nestLine compound list) (marksOf state.stack) := by
  induction lines generalizing state with
  | nil => exact ⟨wellFormed, rfl⟩
  | cons line lines ih =>
      rw [List.flatten_cons, List.forall_mem_append] at within
      obtain ⟨lineWithin, restWithin⟩ := within
      obtain ⟨nextFormed, nextInside, marksEq⟩ :=
        tokenizeLine_nests classifying nests wellFormed inside lineWithin
      have later := ih nextFormed nextInside restWithin
      rw [marksEq] at later
      exact later

theorem scopesWithin_withoutLineEnd (frames : List Frame) :
    grammar.scopesWithin (frames.map Frame.withoutLineEnd) = grammar.scopesWithin frames := by
  cases frames <;> rfl

/-- Well-formed frames of the same rules differ only in where they were opened. -/
theorem WellFormed.withoutLineEnds_eq (classifies : grammar.Classifies structural)
    {frames others : List Frame} (wellFormed : grammar.WellFormed frames)
    (othersFormed : grammar.WellFormed others)
    (rulesEq : frames.map Frame.rule = others.map Frame.rule) :
    frames.map Frame.withoutLineEnd = others.map Frame.withoutLineEnd := by
  induction wellFormed generalizing others with
  | nil =>
      cases othersFormed with
      | nil => rfl
      | cons => cases rulesEq
  | @cons frame outer rule fits outerFits ih =>
      cases othersFormed with
      | nil => cases rulesEq
      | @cons other rest own ownFits restFits =>
          obtain ⟨ruleEq, restEq⟩ := List.cons.inj rulesEq
          have same := ih restFits restEq
          have aroundEq : grammar.scopesWithin outer = grammar.scopesWithin rest := by
            rw [← scopesWithin_withoutLineEnd outer, same, scopesWithin_withoutLineEnd]
          have ownEq := ownFits.ruleEq
          rw [← ruleEq, fits.ruleEq] at ownEq
          cases ownEq
          have namesEq : frame.nameScopes = other.nameScopes := by
            rw [fits.nameScopesEq, ownFits.nameScopesEq, aroundEq]
          have contentEq : frame.contentScopes = other.contentScopes := by
            rw [fits.contentScopesEq, ownFits.contentScopesEq, namesEq]
          have closingEq : frame.closing = other.closing := by
            rw [closing_eq_none classifies fits, closing_eq_none classifies ownFits]
          have headEq : frame.withoutLineEnd = other.withoutLineEnd := by
            simp only [Frame.withoutLineEnd, ruleEq, namesEq, contentEq, closingEq]
          rw [List.map_cons, List.map_cons, headEq, same]

/-- The open spans after some lines of brackets are those that the machine leaves. -/
theorem stateFrom_initial_nests (classifying : Classifying structural grammar)
    (nests : NestsBrackets grammar compound list) (lines : List (List Char))
    (within : ∀ d ∈ lines.flatten, d ∈ bracketChars) :
    grammar.WellFormed (grammar.stateFrom .initial lines).stack ∧
      marksOf (grammar.stateFrom .initial lines).stack =
        lines.foldl (nestLine compound list) [] := by
  have wellFormed : grammar.WellFormed State.initial.stack := .nil
  have inside : InPairs compound list State.initial.stack :=
    fun _ member => absurd member List.not_mem_nil
  exact stateFrom_nests classifying nests lines wellFormed inside within

/-- The rules of the open spans after some lines of brackets are those of the machine. -/
theorem stateFrom_rules (classifying : Classifying structural grammar)
    (nests : NestsBrackets grammar compound list) (lines : List (List Char))
    (within : ∀ d ∈ lines.flatten, d ∈ bracketChars) :
    grammar.WellFormed (grammar.stateFrom .initial lines).stack ∧
      (grammar.stateFrom .initial lines).stack.map Frame.rule =
        lines.flatten.foldl (nest compound list) [] := by
  obtain ⟨wellFormed, marksEq⟩ := stateFrom_initial_nests classifying nests lines within
  have rulesEq := congrArg (List.map Prod.fst) marksEq
  rw [map_nestLines, marksOf, List.map_map] at rulesEq
  exact ⟨wellFormed, rulesEq⟩

end Scan

/-- In texts of brackets alone, the open spans at the end are those of the machine, wherever
the lines are cut; the end states are the same but for the record of which spans were opened
at the end of a line. -/
theorem stateFrom_brackets (strict : Bool) :
    ∃ loaded, grammar .standard strict = .ok loaded ∧ ∃ compound list,
      loaded.named? "compound" = some compound ∧ loaded.named? "list" = some list ∧
      ∀ lines : List (List Char), (∀ c ∈ lines.flatten, c ∈ bracketChars) →
        (loaded.stateFrom .initial lines).openRules =
            (lines.flatten.foldl (nest compound list) []).reverse ∧
          ∀ others : List (List Char), others.flatten = lines.flatten →
            (loaded.stateFrom .initial others).withoutLineEnds =
              (loaded.stateFrom .initial lines).withoutLineEnds := by
  obtain ⟨loaded, loadedEq, classifying, compound, list, compoundEq, listEq, nests⟩ :=
    exists_nestsBrackets strict
  refine ⟨loaded, loadedEq, compound, list, compoundEq, listEq, fun lines within => ?_⟩
  obtain ⟨wellFormed, rulesEq⟩ := stateFrom_rules classifying nests lines within
  constructor
  · rw [State.openRules, List.map_reverse, rulesEq]
  · intro others same
    obtain ⟨othersFormed, othersEq⟩ :=
      stateFrom_rules classifying nests others (same ▸ within)
    have framesEq := WellFormed.withoutLineEnds_eq classifying.classifies othersFormed
      wellFormed (by rw [othersEq, rulesEq, same])
    rw [State.withoutLineEnds, State.withoutLineEnds, framesEq]

/-- Where a line is cut still shows in the end state: a compound that is opened at the end of
a line is recorded so. -/
theorem stateFrom_brackets_cut :
    ∃ loaded, grammar .standard true = .ok loaded ∧
      loaded.stateFrom .initial [['\x7b'], ['[']] ≠ loaded.stateFrom .initial [['\x7b', '[']] := by
  obtain ⟨loaded, loadedEq, classifying, compound, list, -, -, nests⟩ :=
    exists_nestsBrackets true
  refine ⟨loaded, loadedEq, fun same => ?_⟩
  have cut := (stateFrom_initial_nests classifying nests [['\x7b'], ['[']]
    (by simp [bracketChars])).2
  have whole := (stateFrom_initial_nests classifying nests [['\x7b', '[']]
    (by simp [bracketChars])).2
  rw [same, whole] at cut
  simp [nestLine, nestMark] at cut

end Snbt

end Scopelight
