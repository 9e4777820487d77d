import Scopelight.Proofs.PlainText
import Scopelight.Proofs.ReaderSteps

/-!
# Reading past plain text

The readers of escapes, names and modes stop where the check for unsupported constructs
finds the same as where they started, so the check cannot object to what they read.  This
takes that the comments that are skipped on the way are clear.
-/

namespace Scopelight

namespace Pattern

/-! ### States -/

/-- Only clear comments can be skipped from a state on, where the flag says whether the
extended mode may be switched on later. -/
def Calm (extending : Bool) (state : ReaderState) : Prop :=
  extending = true ∨ state.extended = true → clearComments state.rest = true

/-- A reader stops where the check finds the same as where the reader started. -/
structure Steps (before after : ReaderState) : Prop where
  extendedEq : after.extended = before.extended
  passes : Passes before.rest after.rest

variable {extending : Bool} {state before between after : ReaderState} {c : Char}
  {rest : List Char}

theorem Calm.passes (calm : Calm extending before) (extendedEq : after.extended = before.extended)
    (passes : Passes before.rest after.rest) : Calm extending after := fun skips =>
  passes.comments (calm (extendedEq ▸ skips))

/-! ### Space -/

theorem dropSpace_comment (text : List Char) :
    Reader.dropSpace true text = Reader.dropSpace false (afterLine text) := by
  induction text with
  | nil => rfl
  | cons c text ih =>
      by_cases ends : c = '\n'
      · subst ends
        rfl
      · rw [Reader.dropSpace, bne_iff_ne.mpr ends, ih, afterLine_cons ends]

theorem spanAccepted_comment (extended : Bool) (accept : Char → Bool) (text : List Char) :
    Reader.spanAccepted extended accept true text =
      Reader.spanAccepted extended accept false (afterLine text) := by
  induction text with
  | nil => rfl
  | cons c text ih =>
      by_cases ends : c = '\n'
      · subst ends
        rfl
      · rw [Reader.spanAccepted, bne_iff_ne.mpr ends, ih, afterLine_cons ends]

theorem length_afterLine_le (text : List Char) : (afterLine text).length ≤ text.length :=
  (List.tail_suffix _).length_le.trans (List.dropWhile_suffix _).length_le

/-- A clear comment is passed over, with its number sign and its line end. -/
theorem passes_comment (clear : clearComments ('#' :: rest) = true) :
    Passes ('#' :: rest) (afterLine rest) := by
  have number : Passes ('#' :: rest) rest := .one rfl
  rw [clearComments_cons (by decide), bne_self_eq_false, Bool.false_or, Bool.and_eq_true] at clear
  exact number.trans (passes_of_clearLine clear.1)

/-- White space and clear comments are passed over. -/
theorem passes_dropSpace (text : List Char) (clear : clearComments text = true) :
    Passes text (Reader.dropSpace false text) := by
  induction lengthEq : text.length using Nat.strong_induction_on generalizing text with
  | _ length ih =>
      cases text with
      | nil => exact .refl _
      | cons c text =>
          rw [List.length_cons] at lengthEq
          rw [Reader.dropSpace]
          split
          · next white =>
              have passed : Passes (c :: text) text := .one (isPlain_of_isWhite white)
              exact passed.trans (ih _ (by omega) text (passed.comments clear) rfl)
          split
          · next comment =>
              subst comment
              have passed := passes_comment clear
              have shorter := length_afterLine_le text
              rw [dropSpace_comment]
              exact passed.trans
                (ih _ (by omega) (afterLine text) (passed.comments clear) rfl)
          · exact .refl _

/-- The characters that are taken, and the space between them, are passed over. -/
theorem passes_spanAccepted {extended : Bool} {accept : Char → Bool} (text : List Char)
    {taken left : List Char}
    (spanEq : Reader.spanAccepted extended accept false text = (taken, left))
    (clear : extended = true → clearComments text = true) (plain : ∀ c ∈ taken, isPlain c = true) :
    Passes text left := by
  induction lengthEq : text.length using Nat.strong_induction_on generalizing text taken left with
  | _ length ih =>
      cases text with
      | nil =>
          cases spanEq
          exact .refl _
      | cons c text =>
          rw [List.length_cons] at lengthEq
          unfold Reader.spanAccepted at spanEq
          split at spanEq
          · next white =>
              rw [Bool.and_eq_true] at white
              have passed : Passes (c :: text) text := .one (isPlain_of_isWhite white.2)
              exact passed.trans (ih _ (by omega) text spanEq
                (fun extended => passed.comments (clear extended)) plain rfl)
          split at spanEq
          · next comment =>
              rw [Bool.and_eq_true, beq_iff_eq] at comment
              obtain ⟨extended, rfl⟩ := comment
              have passed := passes_comment (clear extended)
              have shorter := length_afterLine_le text
              rw [spanAccepted_comment] at spanEq
              exact passed.trans (ih _ (by omega) (afterLine text) spanEq
                (fun extended => passed.comments (clear extended)) plain rfl)
          split at spanEq
          · cases spanEq
            rw [List.forall_mem_cons] at plain
            have passed : Passes (c :: text) text := .one plain.1
            exact passed.trans (ih _ (by omega) text rfl
              (fun extended => passed.comments (clear extended)) plain.2 rfl)
          · cases spanEq
            exact .refl _

/-! ### Steps -/

namespace Steps

theorem refl (state : ReaderState) : Steps state state :=
  ⟨rfl, .refl _⟩

theorem trans (first : Steps before between) (second : Steps between after) :
    Steps before after :=
  ⟨second.extendedEq.trans first.extendedEq, first.passes.trans second.passes⟩

theorem calm (steps : Steps before after) (calm : Calm extending before) :
    Calm extending after :=
  calm.passes steps.extendedEq steps.passes

theorem afterSpace (calm : Calm extending state) : Steps state state.afterSpace := by
  unfold ReaderState.afterSpace
  split
  · next extended => exact ⟨rfl, passes_dropSpace _ (calm (.inr extended))⟩
  · exact .refl _

theorem afterOne (restEq : state.rest = c :: rest) (plain : isPlain c = true) :
    Steps state state.afterOne := by
  refine ⟨rfl, ?_⟩
  rw [ReaderState.afterOne, restEq]
  exact .one plain

theorem advance (calm : Calm extending state) (restEq : state.rest = c :: rest)
    (plain : isPlain c = true) : Steps state state.afterOne.afterSpace :=
  (afterOne restEq plain).trans (afterSpace ((afterOne restEq plain).calm calm))

theorem takeWhile {accept : Char → Bool} {taken : List Char} (calm : Calm extending state)
    (read : (Reader.takeWhile accept).run state = some (taken, after))
    (plain : ∀ c ∈ taken, isPlain c = true) : Steps state after := by
  cases spanEq : Reader.spanAccepted state.extended accept false state.rest with
  | mk taken' left =>
      have afterEq : some (taken', { state with rest := left }) = some (taken, after) := by
        rw [← read]
        simp only [Reader.takeWhile, Reader.run_get_bind, spanEq]
        rfl
      cases afterEq
      exact ⟨rfl, passes_spanAccepted _ spanEq (fun extended => calm (.inr extended)) plain⟩

end Steps

theorem accepts_of_takeWhile {accept : Char → Bool} {taken : List Char}
    (read : (Reader.takeWhile accept).run state = some (taken, after)) :
    ∀ c ∈ taken, accept c = true := by
  have spanned (inComment : Bool) (text : List Char) : ∀ c ∈
      (Reader.spanAccepted state.extended accept inComment text).1, accept c = true := by
    induction text generalizing inComment with
    | nil => simp [Reader.spanAccepted]
    | cons c text ih =>
        cases inComment with
        | true => exact ih _
        | false =>
            unfold Reader.spanAccepted
            split
            · exact ih _
            split
            · exact ih _
            split
            · next accepted =>
                rw [List.forall_mem_cons]
                exact ⟨accepted, ih _⟩
            · simp
  have takenEq : taken = (Reader.spanAccepted state.extended accept false state.rest).1 :=
    congrArg Prod.fst (Option.some.inj read).symm
  rw [takenEq]
  exact spanned _ _

/-! ### Readers of escapes, names and modes -/

open Reader

theorem isPlain_of_hexValue? (digit : (Text.hexValue? c).isSome = true) : isPlain c = true := by
  by_contra notPlain
  rcases eq_of_not_plain notPlain with rfl | rfl
  · exact absurd digit (by decide)
  · exact absurd digit (by decide)

theorem readHexDigits_steps {count : Nat} {digits : List Char} (calm : Calm extending state)
    (read : (readHexDigits count).run state = some (digits, after)) : Steps state after := by
  induction count generalizing state digits with
  | zero =>
      rw [readHexDigits, run_pure_eq_some] at read
      cases read
      exact .refl _
  | succ count ih =>
      rw [readHexDigits, run_next_bind_eq_some] at read
      obtain ⟨c, rest, restEq, read⟩ := read
      rw [run_unless_eq_some, run_advance_bind, run_bind_eq_some] at read
      obtain ⟨digit, others, between, othersRead, read⟩ := read
      rw [run_pure_eq_some] at read
      cases read
      have plain := isPlain_of_hexValue? (Option.isSome_iff_ne_none.mpr (by simpa using digit))
      have first := Steps.advance calm restEq plain
      exact first.trans (ih (first.calm calm) othersRead)

theorem plain_of_scalarOfHex? {digits : List Char} (found : (scalarOfHex? digits).isSome = true) :
    ∀ c ∈ digits, isPlain c = true := by
  have plainOfValues {digits : List Char} {values : List Nat}
      (valuesEq : digits.mapM Text.hexValue? = some values) : ∀ c ∈ digits, isPlain c = true := by
    induction digits generalizing values with
    | nil => simp
    | cons c digits ih =>
        rw [List.mapM_cons] at valuesEq
        obtain ⟨value, valueEq, valuesEq⟩ := Option.bind_eq_some_iff.mp valuesEq
        obtain ⟨others, othersEq, -⟩ := Option.bind_eq_some_iff.mp valuesEq
        rw [List.forall_mem_cons]
        exact ⟨isPlain_of_hexValue? (Option.isSome_of_eq_some valueEq), ih othersEq⟩
  obtain ⟨value, valueEq⟩ := Option.isSome_iff_exists.mp found
  obtain ⟨values, valuesEq, -⟩ := Option.bind_eq_some_iff.mp valueEq
  exact plainOfValues valuesEq

theorem readHex_steps {count : Nat} {expr : Expr} (calm : Calm extending state)
    (restEq : state.rest = c :: rest) (plain : isPlain c = true)
    (read : (readHex count).run state = some (expr, after)) : Steps state after := by
  rw [readHex, run_advance_bind, run_next_bind_eq_some] at read
  have letter := Steps.advance calm restEq plain
  obtain ⟨d, more, moreEq, read⟩ := read
  split at read
  · next brace =>
      subst brace
      have opened := Steps.advance (letter.calm calm) moreEq rfl
      rw [run_advance_bind, run_bind_eq_some] at read
      obtain ⟨digits, between, digitsRead, read⟩ := read
      rw [run_next_bind_eq_some] at read
      obtain ⟨e, last, lastEq, read⟩ := read
      rw [run_unless_eq_some, run_advance_bind, run_lift_bind_eq_some] at read
      obtain ⟨closes, value, valueEq, read⟩ := read
      rw [run_pure_eq_some] at read
      cases read
      obtain rfl : e = '}' := by simp at closes; exact closes.1
      have inside := Steps.takeWhile (opened.calm (letter.calm calm)) digitsRead
        (plain_of_scalarOfHex? (Option.isSome_of_eq_some valueEq))
      have before := (letter.trans opened).trans inside
      exact before.trans (.advance (before.calm calm) lastEq rfl)
  · rw [run_bind_eq_some] at read
    obtain ⟨digits, between, digitsRead, read⟩ := read
    rw [run_lift_bind_eq_some] at read
    obtain ⟨value, valueEq, read⟩ := read
    rw [run_pure_eq_some] at read
    cases read
    exact letter.trans (readHexDigits_steps (letter.calm calm) digitsRead)

theorem readProperty_steps {negated : Bool} {expr : Expr} (calm : Calm extending state)
    (restEq : state.rest = c :: rest) (plain : isPlain c = true)
    (read : (readProperty negated).run state = some (expr, after))
    (resolves : ∀ name without, expr = .property name without → name.set?.isSome = true) :
    Steps state after := by
  rw [readProperty, run_advance_bind, run_next_bind_eq_some] at read
  have letter := Steps.advance calm restEq plain
  obtain ⟨d, more, moreEq, read⟩ := read
  split at read
  · next brace =>
      subst brace
      have opened := Steps.advance (letter.calm calm) moreEq rfl
      rw [run_advance_bind, run_bind_eq_some] at read
      obtain ⟨text, between, textRead, read⟩ := read
      rw [run_next_bind_eq_some] at read
      obtain ⟨e, last, lastEq, read⟩ := read
      rw [run_unless_eq_some, run_bump_bind] at read
      obtain ⟨closes, read⟩ := read
      cases read
      obtain rfl : e = '}' := by simpa using closes
      have inside := Steps.takeWhile (opened.calm (letter.calm calm)) textRead
        (plain_of_propertyName (resolves _ _ rfl))
      exact ((letter.trans opened).trans inside).trans (.afterOne lastEq rfl)
  split at read
  · rw [run_failure] at read
    cases read
  · rw [run_advance_bind, run_pure_eq_some] at read
    cases read
    have plain := plain_of_plainName (resolves _ _ rfl) d List.mem_cons_self
    exact letter.trans (.advance (letter.calm calm) moreEq plain)

theorem readBoundaryKind_steps {expr : Expr} (calm : Calm extending state)
    (read : readBoundaryKind.run state = some (expr, after)) : Steps state after := by
  rw [readBoundaryKind, run_get_bind] at read
  split at read
  · rw [run_pure_eq_some] at read
    cases read
    exact .refl _
  next brace =>
  obtain ⟨rest, restEq⟩ : ∃ rest, state.rest = '\x7b' :: rest :=
    List.head?_eq_some_iff.mp (by simpa using brace)
  have opened := Steps.advance calm restEq rfl
  rw [run_advance_bind, run_next_bind_eq_some] at read
  obtain ⟨d, more, moreEq, read⟩ := read
  split at read
  · rw [run_set_bind, run_pure_eq_some] at read
    cases read
    exact .refl _
  · rw [run_bind_eq_some] at read
    obtain ⟨name, between, nameRead, read⟩ := read
    rw [run_next_bind_eq_some] at read
    obtain ⟨e, last, lastEq, read⟩ := read
    rw [run_unless_eq_some, run_bump_bind] at read
    obtain ⟨closes, read⟩ := read
    obtain rfl : e = '\x7d' := by simpa using closes
    have plainOfAccepted {c : Char} (accepted : (c.isAlpha || c == '-') = true) :
        isPlain c = true := by
      by_contra notPlain
      rcases eq_of_not_plain notPlain with rfl | rfl
      · exact absurd accepted (by decide)
      · exact absurd accepted (by decide)
    have inside := Steps.takeWhile (opened.calm calm) nameRead fun c member =>
      plainOfAccepted (accepts_of_takeWhile nameRead c member)
    have afterEq : after = between.afterOne := by
      split at read
      · cases read; rfl
      split at read
      · cases read; rfl
      split at read
      · cases read; rfl
      split at read
      · cases read; rfl
      · cases read
    rw [afterEq]
    exact (opened.trans inside).trans (.afterOne lastEq rfl)

theorem readEscape_steps {expr : Expr} (calm : Calm extending state)
    (restEq : state.rest = '\\' :: rest)
    (read : readEscape.run state = some (expr, after))
    (resolves : ∀ name without, expr = .property name without → name.set?.isSome = true) :
    Steps state after := by
  rw [readEscape, run_bump_bind, run_next_bind_eq_some] at read
  obtain ⟨c, more, moreEq, read⟩ := read
  obtain rfl : rest = c :: more := by simpa [ReaderState.afterOne, restEq] using moreEq
  split at read
  · rw [run_failure] at read
    cases read
  next noDigit =>
  have noReference : isReferenceDigit c = false :=
    Bool.eq_false_iff.mpr fun reference => noDigit (isDigit_of_isReferenceDigit reference)
  have passes : Passes state.rest more := restEq ▸ .escape noReference
  have escaped : Steps state state.afterOne.afterOne :=
    ⟨rfl, by rwa [ReaderState.afterOne, moreEq]⟩
  -- Some letters are left to a reader of their own, before which the backslash is passed.
  have marked (plain : isPlain c = true) (noSign : c ≠ '#') : Steps state state.afterOne := by
    have noBackslash : c ≠ '\\' := by
      rintro rfl
      cases plain
    refine ⟨rfl, List.tail_suffix _, passes.featureEq.trans ?_, fun clear => ?_⟩
    · rw [moreEq]
      exact (Passes.one plain).featureEq.symm
    · rw [moreEq, clearComments_cons noBackslash, bne_iff_ne.mpr noSign, Bool.true_or,
        Bool.true_and]
      exact passes.comments clear
  split at read
  · next letter =>
      subst letter
      have letterPassed := marked rfl (by decide)
      exact letterPassed.trans (readHex_steps (letterPassed.calm calm) moreEq rfl read)
  split at read
  · next letter =>
      subst letter
      have letterPassed := marked rfl (by decide)
      exact letterPassed.trans (readHex_steps (letterPassed.calm calm) moreEq rfl read)
  split at read
  · next letter =>
      subst letter
      have letterPassed := marked rfl (by decide)
      exact letterPassed.trans (readHex_steps (letterPassed.calm calm) moreEq rfl read)
  split at read
  · next letter =>
      subst letter
      have letterPassed := marked rfl (by decide)
      exact letterPassed.trans
        (readProperty_steps (letterPassed.calm calm) moreEq rfl read resolves)
  split at read
  · next letter =>
      subst letter
      have letterPassed := marked rfl (by decide)
      exact letterPassed.trans
        (readProperty_steps (letterPassed.calm calm) moreEq rfl read resolves)
  rw [run_bump_bind] at read
  split at read
  · cases read
    exact escaped
  split at read
  case h_15 => exact escaped.trans (readBoundaryKind_steps (escaped.calm calm) read)
  all_goals
    cases read
    try exact escaped

/-- A part that is neither a group nor a class leaves nothing to the check. -/
theorem readPrimitive_steps {expr : Expr} (calm : Calm extending state)
    (restEq : state.rest = c :: rest) (noGroup : c ≠ '(')
    (read : readPrimitive.run state = some (expr, after))
    (resolves : ∀ name without, expr = .property name without → name.set?.isSome = true) :
    Steps state after := by
  rw [readPrimitive, run_next_bind_eq_some] at read
  obtain ⟨d, more, moreEq, read⟩ := read
  obtain ⟨rfl, rfl⟩ := List.cons.inj (restEq.symm.trans moreEq)
  split at read
  · next backslash =>
      subst backslash
      exact readEscape_steps calm restEq read resolves
  · next noBackslash =>
      have plain : isPlain c = true := by simp [isPlain, noBackslash, noGroup]
      rw [run_bump_bind] at read
      have afterEq : after = state.afterOne := by
        split at read <;> cases read <;> rfl
      rw [afterEq]
      exact .afterOne restEq plain

theorem readDecimal?_steps {number : Option Nat} (calm : Calm extending state)
    (read : readDecimal?.run state = some (number, after)) : Steps state after := by
  have plainOfDigit {c : Char} (digit : c.isDigit = true) : isPlain c = true := by
    by_contra notPlain
    rcases eq_of_not_plain notPlain with rfl | rfl <;> exact absurd digit (by decide)
  rw [readDecimal?, run_modify_bind, run_bind_eq_some] at read
  obtain ⟨digits, between, digitsRead, read⟩ := read
  have blank : Steps state { state with rest := state.rest.dropWhile Unicode.isWhite } :=
    ⟨rfl, .dropWhile fun _ => isPlain_of_isWhite⟩
  have numberRead := Steps.takeWhile (blank.calm calm) digitsRead fun c member =>
    plainOfDigit (accepts_of_takeWhile digitsRead c member)
  have last : Steps between { between with rest := between.rest.dropWhile Unicode.isWhite } :=
    ⟨rfl, .dropWhile fun _ => isPlain_of_isWhite⟩
  rw [run_get_bind, run_set_bind] at read
  have afterEq : after = { between with rest := between.rest.dropWhile Unicode.isWhite } := by
    split at read
    · cases read
      rfl
    simp only at read
    split at read
    · cases read
      rfl
    · cases read
  rw [afterEq]
  exact (blank.trans numberRead).trans last

/-- The counts of a repetition end before a closing brace. -/
theorem readCounts_steps {counts : Nat × Option Nat} (calm : Calm extending state)
    (restEq : state.rest = '\x7b' :: rest)
    (read : readCounts.run state = some (counts, after)) :
    Steps state after ∧ ∃ left, after.rest = '\x7d' :: left := by
  rw [readCounts, run_advance_bind, run_next_bind_eq_some] at read
  obtain ⟨_, _, -, read⟩ := read
  have opened := Steps.advance calm restEq rfl
  rw [run_bind_eq_some] at read
  obtain ⟨least, between, leastRead, read⟩ := read
  have first := opened.trans (readDecimal?_steps (opened.calm calm) leastRead)
  rw [run_next_bind_eq_some] at read
  obtain ⟨c, more, moreEq, read⟩ := read
  split at read
  · next comma =>
      subst comma
      have second := first.trans (.advance (first.calm calm) moreEq rfl)
      rw [run_advance_bind, run_next_bind_eq_some] at read
      obtain ⟨d, last, lastEq, read⟩ := read
      rw [run_lift_bind_eq_some] at read
      obtain ⟨least, -, read⟩ := read
      split at read
      · next brace =>
          subst brace
          cases read
          exact ⟨second, _, lastEq⟩
      · rw [run_bind_eq_some] at read
        obtain ⟨most, third, mostRead, read⟩ := read
        rw [run_lift_bind_eq_some] at read
        obtain ⟨most, -, read⟩ := read
        rw [run_next_bind_eq_some] at read
        obtain ⟨e, left, leftEq, read⟩ := read
        rw [run_unless_eq_some] at read
        obtain ⟨closes, read⟩ := read
        cases read
        obtain rfl : e = '\x7d' := by simp at closes; exact closes.1
        exact ⟨second.trans (readDecimal?_steps (second.calm calm) mostRead), _, leftEq⟩
  · rw [run_lift_bind_eq_some] at read
    obtain ⟨least, -, read⟩ := read
    rw [run_next_bind_eq_some] at read
    obtain ⟨d, left, leftEq, read⟩ := read
    rw [run_unless_eq_some] at read
    obtain ⟨closes, read⟩ := read
    cases read
    obtain rfl : d = '\x7d' := by simpa using closes
    exact ⟨first, _, leftEq⟩

theorem readGreedy_steps {greedy : Bool}
    (read : readGreedy.run state = some (greedy, after)) : Steps state after := by
  rw [readGreedy, run_peek_bind] at read
  split at read
  · next lazy =>
      obtain ⟨rest, restEq⟩ := List.head?_eq_some_iff.mp lazy
      cases read
      exact .afterOne restEq rfl
  · cases read
    exact .refl _

/-- Mode letters end before a colon or a closing parenthesis. -/
theorem readModes_steps {fuel : Nat} {negated dangling : Bool} {change result : ModeChange}
    (read : (readModes fuel negated dangling change).run state = some (result, after)) :
    Steps state after ∧ ∃ c left, after.rest = c :: left ∧ (c = ':' ∨ c = ')') := by
  induction fuel generalizing state negated dangling change with
  | zero => cases read
  | succ fuel ih =>
      rw [readModes, run_next_bind_eq_some] at read
      obtain ⟨c, rest, restEq, read⟩ := read
      split at read
      · next closes =>
          split at read
          · cases read
          · cases read
            exact ⟨.refl _, c, rest, restEq, by simpa using closes⟩
      · rw [run_bump_bind, run_next_bind_eq_some] at read
        obtain ⟨_, _, -, read⟩ := read
        split at read
        · next hyphen =>
            subst hyphen
            split at read
            · cases read
            · obtain ⟨steps, ends⟩ := ih read
              exact ⟨(Steps.afterOne restEq rfl).trans steps, ends⟩
        · rw [run_lift_bind_eq_some] at read
          obtain ⟨mode, letter, read⟩ := read
          rw [run_unless_eq_some] at read
          have plain : isPlain c = true := by
            by_contra notPlain
            rcases eq_of_not_plain notPlain with rfl | rfl <;> cases letter
          obtain ⟨steps, ends⟩ := ih read.2
          exact ⟨(Steps.afterOne restEq plain).trans steps, ends⟩

theorem readGroupName_steps (read : readGroupName.run state = some ((), after)) :
    Steps state after := by
  have plainOfName {first : Bool} {c : Char} (accepted : isNameChar first c = true) :
      isPlain c = true := by
    by_contra notPlain
    revert accepted
    rcases eq_of_not_plain notPlain with rfl | rfl <;> cases first <;> decide +kernel
  rw [readGroupName, run_get_bind] at read
  simp only at read
  split at read
  · next left leftEq =>
    split at read
    · cases read
    · next first others nameEq =>
        rw [run_unless_eq_some, run_unless_eq_some] at read
        obtain ⟨accepted, -, read⟩ := read
        cases read
        simp only [Bool.or_eq_true, Bool.not_eq_true', not_or, Bool.not_eq_false,
          List.all_eq_true] at accepted
        have plain : ∀ c ∈ first :: others, isPlain c = true := by
          rw [List.forall_mem_cons]
          exact ⟨plainOfName accepted.1, fun c member => plainOfName (accepted.2 c member)⟩
        refine ⟨rfl, ?_⟩
        have splitEq := List.takeWhile_append_dropWhile (p := (· != '>')) (l := state.rest)
        rw [nameEq, leftEq] at splitEq
        rw [← splitEq]
        exact (Passes.run plain).trans (.one rfl)
  · cases read

theorem afterSpace_eq_self (restEq : state.rest = c :: rest)
    (noSpace : Unicode.isWhite c = false) (noComment : c ≠ '#') :
    state.afterSpace = state := by
  unfold ReaderState.afterSpace
  split
  · rw [restEq, dropSpace, noSpace, if_neg Bool.false_ne_true, if_neg noComment, ← restEq]
  · rfl

/-- No space stands before what goes on like a look-around. -/
theorem afterSpace_of_startsLook (looks : startsLook state.rest = true) :
    state.afterSpace = state := by
  obtain ⟨c, rest, restEq, -⟩ := head_of_startsLook looks
  exact afterSpace_eq_self restEq (by decide) (by decide)

/-- A parenthesis is read past if no look-around begins with it. -/
theorem opened_of_no_look (calm : Calm extending state) (restEq : state.rest = '(' :: rest)
    (noLook : startsLook state.afterOne.afterSpace.rest = false) :
    Steps state state.afterOne.afterSpace := by
  have tailEq : state.afterOne.rest = rest := by rw [ReaderState.afterOne, restEq, List.tail_cons]
  have restNoLook : startsLook rest = false := by
    by_contra looks
    rw [Bool.not_eq_false, ← tailEq] at looks
    rw [afterSpace_of_startsLook looks, looks] at noLook
    cases noLook
  have passed : Steps state state.afterOne :=
    ⟨rfl, by rw [ReaderState.afterOne, restEq]; exact .parenthesis restNoLook⟩
  exact passed.trans (.afterSpace (passed.calm calm))

theorem steps_of_groupName {head : GroupHead} {mark : List Char} {index : Nat}
    (starts : mark.isPrefixOf state.rest = true) (plain : ∀ c ∈ mark, isPlain c = true)
    (read : (readGroupName >>= fun _ => pure (GroupHead.capture index)).run
      { state with rest := state.rest.drop mark.length, captures := index } =
        some (head, after)) : Steps state after := by
  rw [run_bind_eq_some] at read
  obtain ⟨_, between, nameRead, read⟩ := read
  cases read
  have marked : Steps state
      { state with rest := state.rest.drop mark.length, captures := index } :=
    ⟨rfl, .drop starts plain⟩
  exact marked.trans (readGroupName_steps nameRead)

/-- Mode letters are read with the colon or the parenthesis behind them. -/
theorem steps_of_groupModes {head : GroupHead} {fuel : Nat}
    (read : (do
      let change ← readModes fuel false false []
      let closing ← next
      bump
      if closing = ')' then
        if change.isEmpty then failure
        return .modes change
      else return .group change : Reader GroupHead).run state = some (head, after)) :
    Steps state after := by
  rw [run_bind_eq_some] at read
  obtain ⟨change, between, modesRead, read⟩ := read
  obtain ⟨steps, c, left, leftEq, ends⟩ := readModes_steps modesRead
  rw [run_next_bind_eq_some] at read
  obtain ⟨d, others, othersEq, read⟩ := read
  obtain ⟨rfl, rfl⟩ := List.cons.inj (leftEq.symm.trans othersEq)
  have plain : isPlain c = true := by rcases ends with rfl | rfl <;> rfl
  have afterEq : after = between.afterOne := by
    rw [run_bump_bind] at read
    split at read
    · rw [run_unless_eq_some] at read
      cases read.2
      rfl
    · cases read
      rfl
  rw [afterEq]
  exact steps.trans (.afterOne leftEq plain)

/-- The start of a group that is read is that of no look-around. -/
theorem readGroupHead_steps {head : GroupHead} (calm : Calm extending state)
    (restEq : state.rest = '(' :: rest)
    (read : readGroupHead.run state = some (head, after)) : Steps state after := by
  rw [readGroupHead, run_advance_bind, run_unlessTaken_eq_some, run_unlessTaken_eq_some] at read
  obtain ⟨noAhead, noNotAhead, noBehind, noNotBehind, read⟩ := read
  have noLook : startsLook state.afterOne.afterSpace.rest = false := by
    simp only [startsLook, noAhead, noNotAhead, noBehind, noNotBehind, Bool.or_self]
  refine (opened_of_no_look calm restEq noLook).trans ?_
  generalize state.afterOne.afterSpace = inner at read
  rw [run_take?_bind] at read
  split at read
  · next starts => exact steps_of_groupName starts (by simp [isPlain]) read
  simp only [Bool.false_eq_true, if_false] at read
  rw [run_take?_bind] at read
  split at read
  · next starts => exact steps_of_groupName starts (by simp [isPlain]) read
  simp only [Bool.false_eq_true, if_false] at read
  rw [run_take?_bind] at read
  split at read
  · next starts =>
      simp only [if_true] at read
      rw [run_next_bind_eq_some] at read
      obtain ⟨_, _, -, read⟩ := read
      rw [run_get_bind] at read
      have marked : Steps inner { inner with rest := inner.rest.drop "?".toList.length } :=
        ⟨rfl, .drop starts (by simp [isPlain])⟩
      exact marked.trans (steps_of_groupModes read)
  · cases read
    exact ⟨rfl, .refl _⟩

end Pattern

end Scopelight
