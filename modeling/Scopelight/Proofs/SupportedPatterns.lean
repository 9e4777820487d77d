import Scopelight.Pattern.Scanner
import Scopelight.Proofs.ClassReading
import Scopelight.Proofs.PatternParts

/-!
# Supported patterns

The check for unsupported constructs does not follow the notation of patterns: it takes
an opening parenthesis inside a class, or any character of a comment, for what it would be
elsewhere.  Nothing else can mislead it.  A pattern that compiles passes the check unless
it hides a parenthesis in a class before a question mark, or has a comment with something
that the check objects to.
-/

namespace Scopelight

namespace Pattern

open ClassExpr Reader

variable {extending : Bool} {state after : ReaderState} {c : Char} {rest : List Char}

namespace Expr

/-- Somewhere in a class of a pattern an opening parenthesis stands before a question mark. -/
def hidesGroup : Expr → Bool
  | .bracketed _ inner => inner.hidesGroup
  | .repeated body _ _ _ => body.hidesGroup
  | .capture _ body => body.hidesGroup
  | .group _ body => body.hidesGroup
  | .concat first rest => first.hidesGroup || rest.hidesGroup
  | .alternate first rest => first.hidesGroup || rest.hidesGroup
  | _ => false

/-- A pattern switches the extended mode on, in which comments are skipped. -/
def allowsComments : Expr → Bool
  | .modes change => change.value? .extended == some true
  | .repeated body _ _ _ => body.allowsComments
  | .capture _ body => body.allowsComments
  | .group change body => change.value? .extended == some true || body.allowsComments
  | .concat first rest => first.allowsComments || rest.allowsComments
  | .alternate first rest => first.allowsComments || rest.allowsComments
  | _ => false

/-- A pattern that hides no group, whose properties have members, and that switches the
extended mode on only if that is expected. -/
def Legible (extending : Bool) : Expr → Prop
  | .modes change => change.value? .extended = some true → extending = true
  | .property name _ => name.set?.isSome = true
  | .bracketed _ inner => inner.Legible
  | .repeated body _ _ _ => body.Legible extending
  | .capture _ body => body.Legible extending
  | .group change body =>
      (change.value? .extended = some true → extending = true) ∧ body.Legible extending
  | .concat first rest => first.Legible extending ∧ rest.Legible extending
  | .alternate first rest => first.Legible extending ∧ rest.Legible extending
  | _ => True

theorem legible_of_branches? {expr : Expr} {modes : Modes} {result : List Plan × Modes}
    (hidesNone : expr.hidesGroup = false)
    (expected : expr.allowsComments = true → extending = true)
    (lowers : expr.branches? modes = some result) : expr.Legible extending := by
  have legibleOfSet (part : ClassExpr) {modes : Modes} {result : List Plan × Modes}
      (hidesNone : part.hidesGroup = false)
      (lowers : ((part.set? modes).map fun set => ([Plan.ofSet set], modes)) = some result) :
      part.Legible := by
    obtain ⟨set, setEq, -⟩ := Option.map_eq_some_iff.mp lowers
    obtain ⟨ranges, rangesEq, -⟩ := Option.map_eq_some_iff.mp setEq
    exact legible_of_ranges? hidesNone rangesEq
  induction expr generalizing modes result with
  | modes change => exact fun switched => expected (by simp [allowsComments, switched])
  | property name negated => exact legibleOfSet (.property name negated) rfl lowers
  | bracketed negated inner =>
      exact legibleOfSet (.bracketed negated inner) hidesNone lowers
  | repeated body least most greedy ih =>
      obtain ⟨_, bodyLowers, -⟩ := Option.bind_eq_some_iff.mp lowers
      exact ih hidesNone expected bodyLowers
  | capture index body ih =>
      obtain ⟨_, bodyLowers, -⟩ := Option.bind_eq_some_iff.mp lowers
      exact ih hidesNone expected bodyLowers
  | group change body ih =>
      obtain ⟨_, bodyLowers, -⟩ := Option.bind_eq_some_iff.mp lowers
      rw [allowsComments, Bool.or_eq_true, beq_iff_eq] at expected
      exact ⟨fun switched => expected (.inl switched),
        ih hidesNone (fun allows => expected (.inr allows)) bodyLowers⟩
  | concat first rest firstIH restIH =>
      obtain ⟨_, firstLowers, lowers⟩ := Option.bind_eq_some_iff.mp lowers
      obtain ⟨_, restLowers, -⟩ := Option.bind_eq_some_iff.mp lowers
      rw [hidesGroup, Bool.or_eq_false_iff] at hidesNone
      rw [allowsComments, Bool.or_eq_true] at expected
      exact ⟨firstIH hidesNone.1 (fun allows => expected (.inl allows)) firstLowers,
        restIH hidesNone.2 (fun allows => expected (.inr allows)) restLowers⟩
  | alternate first rest firstIH restIH =>
      obtain ⟨_, firstLowers, lowers⟩ := Option.bind_eq_some_iff.mp lowers
      obtain ⟨_, restLowers, -⟩ := Option.bind_eq_some_iff.mp lowers
      rw [hidesGroup, Bool.or_eq_false_iff] at hidesNone
      rw [allowsComments, Bool.or_eq_true] at expected
      exact ⟨firstIH hidesNone.1 (fun allows => expected (.inl allows)) firstLowers,
        restIH hidesNone.2 (fun allows => expected (.inr allows)) restLowers⟩
  | _ => trivial

theorem legible_ofParts {parts : List Expr} :
    (ofParts parts).Legible extending ↔ ∀ part ∈ parts, part.Legible extending := by
  induction parts with
  | nil => simp [ofParts, Legible]
  | cons part parts ih =>
      cases parts with
      | nil => simp [ofParts]
      | cons next parts => simp only [ofParts, Legible, ih, List.forall_mem_cons]

theorem legible_ofBranches {branches : List Expr} :
    (ofBranches branches).Legible extending ↔ ∀ branch ∈ branches, branch.Legible extending := by
  induction branches with
  | nil => simp [ofBranches, Legible]
  | cons branch branches ih =>
      cases branches with
      | nil => simp [ofBranches]
      | cons next branches => simp only [ofBranches, Legible, ih, List.forall_mem_cons]

end Expr

theorem eq_cons_of_takeOperand {parts others : List Expr} {operand : Expr}
    (operandEq : takeOperand parts = some (operand, others)) : parts = operand :: others := by
  unfold takeOperand at operandEq
  split at operandEq
  · cases operandEq
  · cases operandEq
  · cases operandEq
  · cases operandEq
    rfl

/-- The branches and the parts that have been read so far are legible. -/
def LegibleRows (extending : Bool) (branches parts : List Expr) : Prop :=
  (∀ branch ∈ branches, branch.Legible extending) ∧ ∀ part ∈ parts, part.Legible extending

namespace LegibleRows

variable {branches parts : List Expr}

theorem head {part : Expr} (legible : LegibleRows extending branches (part :: parts)) :
    part.Legible extending :=
  legible.2 _ List.mem_cons_self

theorem tail {part : Expr} (legible : LegibleRows extending branches (part :: parts)) :
    LegibleRows extending branches parts :=
  ⟨legible.1, (List.forall_mem_cons.mp legible.2).2⟩

/-- The part that is repeated is one of those that were read before. -/
theorem of_repeated {operand : Expr} {others : List Expr} {least : Nat} {most : Option Nat}
    {greedy : Bool} (taken : takeOperand parts = some (operand, others))
    (legible : LegibleRows extending branches (.repeated operand least most greedy :: others)) :
    LegibleRows extending branches parts := by
  have operandLegible : operand.Legible extending := legible.head
  rw [eq_cons_of_takeOperand taken]
  exact ⟨legible.1, List.forall_mem_cons.mpr ⟨operandLegible, legible.tail.2⟩⟩

/-- The parts make up the branch that is closed. -/
theorem of_closed (legible : ∀ branch ∈ Expr.ofParts parts.reverse :: branches,
    branch.Legible extending) : LegibleRows extending branches parts := by
  rw [List.forall_mem_cons, Expr.legible_ofParts] at legible
  exact ⟨legible.2, by simpa using legible.1⟩

end LegibleRows

/-- Parts and branches that have been read become parts of the pattern. -/
theorem legible_of_readAlternatives {fuel : Nat} {branches parts : List Expr} {expr : Expr}
    (read : (readAlternatives fuel branches parts).run state = some (expr, after))
    (legible : expr.Legible extending) :
    LegibleRows extending branches parts := by
  induction fuel generalizing state branches parts with
  | zero => cases read
  | succ fuel ih =>
      cases patternTurn_of_read read with
      | ends atEnd =>
          rw [Expr.legible_ofBranches] at legible
          exact .of_closed fun branch member => legible branch (List.mem_reverse.mpr member)
      | bar restEq further => exact .of_closed (ih further).1
      | atom restEq startsAtom partRead further => exact (ih further).tail
      | sign restEq startsSign taken copiesRead further => exact (ih further).of_repeated taken
      | modes restEq headRead further => exact (ih further).tail
      | capture restEq headRead bodyRead innerEq further => exact (ih further).tail
      | group restEq headRead bodyRead innerEq further => exact (ih further).tail

/-- The modes of a legible group leave only clear comments to be skipped. -/
theorem Calm.switched {change : ModeChange} (calm : Calm extending state)
    (expected : change.value? .extended = some true → extending = true) :
    Calm extending { state with extended := (change.value? .extended).getD state.extended } := by
  rintro (extendsMode | switched)
  · exact calm (.inl extendsMode)
  · cases valueEq : change.value? .extended with
    | none => exact calm (.inr (by simpa [valueEq] using switched))
    | some value =>
        obtain rfl : value = true := by simpa [valueEq] using switched
        exact calm (.inl (expected valueEq))

theorem readAtom_steps {fuel : Nat} {part : Expr} (calm : Calm extending state)
    (restEq : state.rest = c :: rest) (startsAtom : structures c = false)
    (read : (readAtom fuel).run state = some (part, after)) (legible : part.Legible extending) :
    Steps state after := by
  rw [readAtom, run_peek_bind, restEq, List.head?_cons] at read
  split at read
  · next bracket =>
      cases bracket
      rw [run_bind_eq_some] at read
      obtain ⟨⟨negated, inner⟩, between, classRead, read⟩ := read
      cases read
      exact (readClass_steps fuel).1 _ _ _ _ calm ⟨rest, restEq⟩ classRead legible
  · have noParenthesis : c ≠ '(' := by
      rintro rfl
      cases startsAtom
    refine readPrimitive_steps calm restEq noParenthesis read ?_
    rintro name without rfl
    exact legible

theorem readRepetition_steps {copies : (Nat × Option Nat) × Bool} (calm : Calm extending state)
    (restEq : state.rest = c :: rest) (startsSign : signs.contains c = true)
    (read : readRepetition.run state = some (copies, after)) : Steps state after := by
  rw [readRepetition, run_peek_bind, restEq, List.head?_cons] at read
  split at read
  · next brace =>
      cases brace
      rw [run_bind_eq_some] at read
      obtain ⟨counts, between, countsRead, read⟩ := read
      obtain ⟨counted, left, leftEq⟩ := readCounts_steps calm restEq countsRead
      rw [run_advance_bind, run_bind_eq_some] at read
      obtain ⟨greedy, final, greedyRead, read⟩ := read
      cases read
      have closed := counted.trans (.advance (counted.calm calm) leftEq rfl)
      exact closed.trans (readGreedy_steps greedyRead)
  · have plain : isPlain c = true := by
      by_contra notPlain
      rcases eq_of_not_plain notPlain with rfl | rfl <;> cases startsSign
    rw [run_bump_bind, run_bind_eq_some] at read
    obtain ⟨greedy, between, greedyRead, read⟩ := read
    cases read
    exact (Steps.afterOne restEq plain).trans (readGreedy_steps greedyRead)

/-- Reading a legible pattern leaves nothing to the check. -/
theorem readAlternatives_passes {fuel : Nat} {branches parts : List Expr} {expr : Expr}
    (calm : Calm extending state)
    (read : (readAlternatives fuel branches parts).run state = some (expr, after))
    (legible : expr.Legible extending) : Passes state.rest after.rest := by
  induction fuel generalizing state after branches parts expr with
  | zero => cases read
  | succ fuel ih =>
      have begins : Steps state state.afterSpace := .afterSpace calm
      refine begins.passes.trans ?_
      have turn := patternTurn_of_read read
      replace calm := begins.calm calm
      generalize state.afterSpace = state at turn calm
      -- Behind a group the extended mode is what it was before.
      have goesOn {left : List Char} {inner : ReaderState} {parts : List Expr}
          (through : Passes state.rest inner.rest) (innerEq : inner.rest = ')' :: left)
          (further : (readAlternatives fuel branches parts).run
            { inner with rest := left, extended := state.extended } = some (expr, after)) :
          Passes state.rest after.rest := by
        rw [innerEq] at through
        replace through := through.trans (.one rfl)
        have outerCalm : Calm extending
            { inner with rest := left, extended := state.extended } :=
          calm.passes rfl through
        exact through.trans (ih outerCalm further legible)
      have switched {between : ReaderState} {change : ModeChange}
          (opened : Steps state between)
          (expected : change.value? .extended = some true → extending = true) :
          Calm extending
            { between with extended := (change.value? .extended).getD state.extended } :=
        opened.extendedEq ▸ (opened.calm calm).switched expected
      cases turn with
      | ends atEnd => exact .refl _
      | bar restEq further =>
          have taken : Steps state state.afterOne := .afterOne restEq rfl
          exact taken.passes.trans (ih (taken.calm calm) further legible)
      | atom restEq startsAtom partRead further =>
          have partLegible := (legible_of_readAlternatives further legible).head
          have taken := readAtom_steps calm restEq startsAtom partRead partLegible
          exact taken.passes.trans (ih (taken.calm calm) further legible)
      | sign restEq startsSign operandTaken copiesRead further =>
          have taken := readRepetition_steps calm restEq startsSign copiesRead
          exact taken.passes.trans (ih (taken.calm calm) further legible)
      | modes restEq headRead further =>
          have opened := readGroupHead_steps calm restEq headRead
          have partLegible := (legible_of_readAlternatives further legible).head
          have furtherPasses := ih (switched opened partLegible) further legible
          exact opened.passes.trans furtherPasses
      | capture restEq headRead bodyRead innerEq further =>
          have opened := readGroupHead_steps calm restEq headRead
          have partLegible := (legible_of_readAlternatives further legible).head
          have bodyPasses := ih (opened.calm calm) bodyRead partLegible
          exact goesOn (opened.passes.trans bodyPasses) innerEq further
      | group restEq headRead bodyRead innerEq further =>
          have opened := readGroupHead_steps calm restEq headRead
          have partLegible := (legible_of_readAlternatives further legible).head
          have bodyPasses := ih (switched opened partLegible.1) bodyRead partLegible.2
          exact goesOn (opened.passes.trans bodyPasses) innerEq further

/-! ### Texts and documents -/

theorem stripAnchor_cons {text : List Char} (noEscape : c ≠ '\\' ∨ text = []) :
    (stripAnchor (c :: text)).1 = c :: (stripAnchor text).1 := by
  rw [stripAnchor.eq_2]
  rintro d others rfl rfl
  rcases noEscape with noBackslash | noMore
  · exact noBackslash rfl
  · cases noMore

theorem stripAnchor_escape {text : List Char} :
    (stripAnchor ('\\' :: c :: text)).1 =
      if c = 'G' then (stripAnchor text).1 else '\\' :: c :: (stripAnchor text).1 := by
  rw [stripAnchor]
  by_cases anchor : c = 'G' <;> simp [anchor]

theorem stripAnchor_append {plain rest : List Char} (noBackslash : '\\' ∉ plain) :
    (stripAnchor (plain ++ rest)).1 = plain ++ (stripAnchor rest).1 := by
  induction plain with
  | nil => rfl
  | cons c plain ih =>
      rw [List.mem_cons, not_or] at noBackslash
      rw [List.cons_append, List.cons_append, ← ih noBackslash.2]
      exact stripAnchor_cons (.inl (Ne.symm noBackslash.1))

theorem startsLook_stripAnchor {text : List Char} (looks : startsLook text = true) :
    startsLook (stripAnchor text).1 = true := by
  simp only [startsLook, Bool.or_eq_true, List.isPrefixOf_iff_prefix] at looks ⊢
  have kept {mark : List Char} (noBackslash : '\\' ∉ mark) (starts : mark <+: text) :
      mark <+: (stripAnchor text).1 := by
    obtain ⟨rest, rfl⟩ := starts
    rw [stripAnchor_append noBackslash]
    exact List.prefix_append _ _
  rcases looks with ((looks | looks) | looks) | looks
  · exact .inl (.inl (.inl (kept (by decide) looks)))
  · exact .inl (.inl (.inr (kept (by decide) looks)))
  · exact .inl (.inr (kept (by decide) looks))
  · exact .inr (kept (by decide) looks)

/-- Taking out the anchors hides no construct from the check. -/
theorem unsupportedFeature_of_stripAnchor {text : List Char}
    (supported : unsupportedFeature (stripAnchor text).1 = none) :
    unsupportedFeature text = none := by
  induction text using unsupportedFeature.induct with
  | case1 c rest reference =>
      have noAnchor : c ≠ 'G' := by
        rintro rfl
        exact absurd reference (by decide)
      rw [stripAnchor_escape, if_neg noAnchor, unsupportedFeature.eq_1, reference] at supported
      cases supported
  | case2 c rest noReference ih =>
      rw [Bool.not_eq_true] at noReference
      rw [(Passes.escape noReference).featureEq]
      rw [stripAnchor_escape] at supported
      split at supported
      · exact ih supported
      · rw [(Passes.escape noReference).featureEq] at supported
        exact ih supported
  | case3 rest looks =>
      have strippedLooks : startsLook (stripAnchor rest).1 = true := startsLook_stripAnchor looks
      rw [stripAnchor_cons (.inl (by decide)), unsupportedFeature_parenthesis, strippedLooks]
        at supported
      cases supported
  | case4 rest noLook ih =>
      have restNoLook : startsLook rest = false := Bool.eq_false_iff.mpr noLook
      rw [(Passes.parenthesis restNoLook).featureEq]
      rw [stripAnchor_cons (.inl (by decide)), unsupportedFeature_parenthesis] at supported
      split at supported
      · cases supported
      · exact ih supported
  | case5 c rest noEscape noParenthesis ih =>
      by_cases backslash : c = '\\'
      · subst backslash
        cases rest with
        | nil => rfl
        | cons d rest => exact (noEscape d rest rfl rfl).elim
      · have plain : isPlain c = true := by
          simp only [isPlain, Bool.and_eq_true, bne_iff_ne]
          exact ⟨backslash, noParenthesis⟩
        rw [stripAnchor_cons (.inl backslash), (Passes.one plain).featureEq] at supported
        rw [(Passes.one plain).featureEq]
        exact ih supported
  | case6 => rfl

/-- A pattern can mislead the check: it hides a group in a class, or it allows comments and
has something that the check objects to on a line behind a number sign without a backslash
before it. -/
def misleads (text : List Char) : Bool :=
  let stripped := (stripAnchor text).1
  match Expr.parse? stripped with
  | none => false
  | some expr => expr.hidesGroup || (expr.allowsComments && !clearComments stripped)

/-- The check has nothing against a pattern that compiles and does not mislead it. -/
theorem unsupportedFeature_of_compile? {text : String} {compiled : Compiled}
    (compiles : compile? text = some compiled) (honest : misleads text.toList = false) :
    unsupportedFeature text.toList = none := by
  obtain ⟨expr, parses, compiles⟩ := Option.bind_eq_some_iff.mp compiles
  obtain ⟨plan, lowers, -⟩ := Option.bind_eq_some_iff.mp compiles
  obtain ⟨⟨plans, modes⟩, branchesEq, -⟩ := Option.bind_eq_some_iff.mp lowers
  refine unsupportedFeature_of_stripAnchor ?_
  simp only [misleads, parses, Bool.or_eq_false_iff, Bool.and_eq_false_iff,
    Bool.not_eq_false'] at honest
  generalize (stripAnchor text.toList).1 = stripped at parses honest ⊢
  obtain ⟨hidesNone, unread⟩ := honest
  obtain ⟨⟨result, last⟩, read, ends⟩ := Option.bind_eq_some_iff.mp parses
  simp only at ends
  split at ends
  · next ended =>
      cases ends
      rw [Bool.and_eq_true, List.isEmpty_iff] at ended
      have calm : Calm (clearComments stripped) ⟨stripped, false, 0, []⟩ := by
        rintro (clear | extended)
        · exact clear
        · cases extended
      have expected (allows : expr.allowsComments = true) : clearComments stripped = true :=
        unread.resolve_left (by simp [allows])
      have legible : expr.Legible (clearComments stripped) :=
        Expr.legible_of_branches? hidesNone expected branchesEq
      have passes := readAlternatives_passes calm read legible
      rw [passes.featureEq, ended.1]
      rfl
  · cases ends

end Pattern

end Scopelight
