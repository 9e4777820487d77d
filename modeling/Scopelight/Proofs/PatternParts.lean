import Mathlib.Data.List.Basic
import Scopelight.Pattern.Reference
import Scopelight.Proofs.ReaderSteps

/-!
# Parts of patterns

The reader of patterns takes one part of a text in each of its turns: an atom, the sign of
a repetition, a bar, or the head of a group.  What a turn does is determined by the
character at its start.
-/

namespace Scopelight

namespace Pattern

open Reader

/-- A text without the space at its start, where the extended mode skips space. -/
def spaceless (extended : Bool) (text : List Char) : List Char :=
  if extended then dropSpace false text else text

variable {extended : Bool} {text rest : List Char} {c : Char} {state : ReaderState}

theorem afterSpace_mk (captures : Nat) (names : List (List Char)) :
    (⟨text, extended, captures, names⟩ : ReaderState).afterSpace =
      ⟨spaceless extended text, extended, captures, names⟩ := by
  cases extended <;> rfl

theorem dropSpace_of_solid (noSpace : Unicode.isWhite c = false) (noComment : c ≠ '#') :
    dropSpace false (c :: rest) = c :: rest := by
  rw [dropSpace, noSpace, if_neg Bool.false_ne_true, if_neg noComment]

theorem dropSpace_dropSpace (inComment : Bool) (text : List Char) :
    dropSpace false (dropSpace inComment text) = dropSpace inComment text := by
  induction text generalizing inComment with
  | nil => cases inComment <;> rfl
  | cons c text ih =>
      cases inComment with
      | true => exact ih _
      | false =>
          rw [dropSpace]
          split
          · exact ih false
          split
          · exact ih true
          · next noSpace noComment =>
              exact dropSpace_of_solid (Bool.eq_false_iff.mpr noSpace) noComment

theorem spaceless_spaceless (extended : Bool) (text : List Char) :
    spaceless extended (spaceless extended text) = spaceless extended text := by
  cases extended
  · rfl
  · exact dropSpace_dropSpace false text

theorem spaceless_white (white : Unicode.isWhite c = true) (rest : List Char) :
    spaceless true (c :: rest) = spaceless true rest := by
  change dropSpace false (c :: rest) = dropSpace false rest
  rw [dropSpace, if_pos white]

theorem spaceless_comment (inline : '\n' ∉ text) (rest : List Char) :
    spaceless true ('#' :: text ++ ['\n'] ++ rest) = spaceless true rest := by
  have within (text : List Char) (inline : '\n' ∉ text) :
      dropSpace true (text ++ '\n' :: rest) = dropSpace false rest := by
    induction text with
    | nil => rfl
    | cons c text ih =>
        rw [List.mem_cons, not_or] at inline
        rw [List.cons_append, dropSpace, bne_iff_ne.mpr (Ne.symm inline.1)]
        exact ih inline.2
  rw [List.append_assoc]
  exact within text inline

theorem afterSpace_afterSpace (state : ReaderState) :
    state.afterSpace.afterSpace = state.afterSpace := by
  obtain ⟨text, extended, captures, names⟩ := state
  rw [afterSpace_mk, afterSpace_mk, spaceless_spaceless]

/-- A character that starts no space. -/
def Solid (extended : Bool) (c : Char) : Prop :=
  extended = true → Unicode.isWhite c = false ∧ c ≠ '#'

instance (extended : Bool) (c : Char) : Decidable (Solid extended c) :=
  inferInstanceAs (Decidable (extended = true → Unicode.isWhite c = false ∧ c ≠ '#'))

theorem Solid.spaceless (solid : Solid extended c) :
    spaceless extended (c :: rest) = c :: rest := by
  cases extended with
  | false => rfl
  | true => exact dropSpace_of_solid (solid rfl).1 (solid rfl).2

theorem Solid.afterSpace (solid : Solid state.extended c) (restEq : state.rest = c :: rest) :
    state.afterSpace = state := by
  obtain ⟨text, extended, captures, names⟩ := state
  obtain rfl : text = c :: rest := restEq
  rw [afterSpace_mk, solid.spaceless]

theorem solid_parenthesis : Solid extended '(' :=
  fun _ => by decide

/-! ### Turns of the reader -/

/-- The characters that start the repetition of the part before them. -/
def signs : List Char :=
  ['?', '*', '+', '\x7b']

/-- The characters that start no atom. -/
def structures (c : Char) : Bool :=
  ['(', ')', '|'].contains c || signs.contains c

theorem solid_of_sign (sign : signs.contains c = true) : Solid extended c := by
  intro _
  rcases List.mem_cons.mp (List.contains_iff_mem.mp sign) with rfl | others
  · decide
  · simp only [List.mem_cons, List.not_mem_nil, or_false] at others
    rcases others with rfl | rfl | rfl <;> decide

/-- A class, a character, an escape or an assertion. -/
def readAtom (fuel : Nat) : Reader Expr := do
  if (← peek) = some '[' then
    let (negated, inner) ← readClass fuel
    return .bracketed negated inner
  else readPrimitive

/-- The sign of a repetition: the least and the greatest number of copies, and whether many
copies are preferred. -/
def readRepetition : Reader ((Nat × Option Nat) × Bool) := do
  let c ← peek
  if c = some '\x7b' then
    let counts ← readCounts
    advance
    return (counts, ← readGreedy)
  else
    bump
    return ((if c = some '+' then 1 else 0, if c = some '?' then some 1 else none),
      ← readGreedy)

section Turns

variable {fuel : Nat} {branches parts : List Expr} {result : Expr × ReaderState}

theorem run_readAlternatives_afterSpace :
    (readAlternatives fuel branches parts).run state.afterSpace =
      (readAlternatives fuel branches parts).run state := by
  cases fuel with
  | zero => rfl
  | succ fuel =>
      rw [readAlternatives, run_skipSpace_bind, run_skipSpace_bind, afterSpace_afterSpace]

theorem run_readAlternatives_of_afterSpace {other : ReaderState}
    (same : state.afterSpace = other.afterSpace) :
    (readAlternatives fuel branches parts).run state =
      (readAlternatives fuel branches parts).run other := by
  rw [← run_readAlternatives_afterSpace, same, run_readAlternatives_afterSpace]

theorem run_readAlternatives_of_spaceless {other : List Char} {captures : Nat}
    {names : List (List Char)} (same : spaceless extended text = spaceless extended other) :
    (readAlternatives fuel branches parts).run ⟨text, extended, captures, names⟩ =
      (readAlternatives fuel branches parts).run ⟨other, extended, captures, names⟩ :=
  run_readAlternatives_of_afterSpace (by rw [afterSpace_mk, afterSpace_mk, same])

/-- The text ends, or the group that is being read does. -/
def Ends (text : List Char) : Prop :=
  text = [] ∨ ∃ rest, text = ')' :: rest

theorem run_readAlternatives_end (ends : Ends state.rest) :
    (readAlternatives (fuel + 1) branches parts).run state =
      some (.ofBranches (Expr.ofParts parts.reverse :: branches).reverse, state) := by
  obtain ⟨text, extended, captures, names⟩ := state
  rw [readAlternatives, run_skipSpace_bind, afterSpace_mk]
  rcases ends with rfl | ⟨rest, rfl⟩
  · have : spaceless extended [] = [] := by cases extended <;> rfl
    rw [this]
    rfl
  · have solid : Solid extended ')' := fun _ => by decide
    rw [solid.spaceless]
    rfl

variable (solid : Solid state.extended c) (restEq : state.rest = c :: rest)

include solid restEq

theorem run_readAlternatives_bar (bar : c = '|') :
    (readAlternatives (fuel + 1) branches parts).run state =
      (readAlternatives fuel (Expr.ofParts parts.reverse :: branches) []).run state.afterOne := by
  subst bar
  rw [readAlternatives, run_skipSpace_bind, solid.afterSpace restEq, run_peek_bind, restEq]
  rfl

theorem run_readAlternatives_atom (atom : structures c = false) :
    (readAlternatives (fuel + 1) branches parts).run state = some result ↔
      ∃ part between, (readAtom fuel).run state = some (part, between) ∧
        (readAlternatives fuel branches (part :: parts)).run between = some result := by
  simp only [structures, signs, List.contains_cons, List.contains_nil, Bool.or_false,
    Bool.or_eq_false_iff, beq_eq_false_iff_ne] at atom
  obtain ⟨⟨noOpen, noClose, noBar⟩, noOption, noStar, noPlus, noBrace⟩ := atom
  rw [readAlternatives, run_skipSpace_bind, solid.afterSpace restEq, run_peek_bind, restEq,
    List.head?_cons]
  simp only [noOpen, noClose, noBar, noOption, noStar, noPlus, noBrace, if_false,
    Bool.or_self, decide_false, Bool.false_eq_true]
  rw [← run_bind_eq_some, readAtom, bind_assoc, run_peek_bind, restEq, List.head?_cons]
  by_cases bracket : c = '['
  · simp [bracket]
  · simp [bracket]

theorem run_readAlternatives_sign (sign : signs.contains c = true) :
    (readAlternatives (fuel + 1) branches parts).run state = some result ↔
      ∃ operand others copies between, takeOperand parts = some (operand, others) ∧
        readRepetition.run state = some (copies, between) ∧
        (readAlternatives fuel branches
          (.repeated operand copies.1.1 copies.1.2 copies.2 :: others)).run between =
            some result := by
  have turn : (readAlternatives (fuel + 1) branches parts).run state = (do
      let taken ← takeOperand parts
      let copies ← readRepetition
      readAlternatives fuel branches
        (.repeated taken.1 copies.1.1 copies.1.2 copies.2 :: taken.2) : Reader Expr).run state := by
    simp only [signs, List.contains_cons, List.contains_nil, Bool.or_false, Bool.or_eq_true,
      beq_iff_eq] at sign
    rw [readAlternatives, run_skipSpace_bind, solid.afterSpace restEq, run_peek_bind, restEq,
      List.head?_cons]
    cases takeOperand parts with
    | none => rcases sign with rfl | rfl | rfl | rfl <;> rfl
    | some taken =>
        change _ = (readRepetition >>= fun copies => readAlternatives fuel branches
          (.repeated taken.1 copies.1.1 copies.1.2 copies.2 :: taken.2)).run state
        rw [readRepetition, bind_assoc, run_peek_bind, restEq, List.head?_cons]
        rcases sign with rfl | rfl | rfl | rfl <;> simp
  rw [turn, run_lift_bind_eq_some]
  simp only [run_bind_eq_some, Prod.exists]
  constructor
  · rintro ⟨operand, others, taken, least, most, greedy, between, read, further⟩
    exact ⟨operand, others, least, most, greedy, between, taken, read, further⟩
  · rintro ⟨operand, others, least, most, greedy, between, taken, read, further⟩
    exact ⟨operand, others, taken, least, most, greedy, between, read, further⟩

theorem run_readAlternatives_group (parenthesis : c = '(') :
    (readAlternatives (fuel + 1) branches parts).run state = some result ↔
      ∃ head between, readGroupHead.run state = some (head, between) ∧
        match head with
        | .modes change =>
            (readAlternatives fuel branches (.modes change :: parts)).run
              { between with extended := (change.value? .extended).getD state.extended } =
                some result
        | .capture index =>
            ∃ body inner rest, (readAlternatives fuel [] []).run between = some (body, inner) ∧
              inner.rest = ')' :: rest ∧
              (readAlternatives fuel branches (.capture index body :: parts)).run
                { inner with rest, extended := state.extended } = some result
        | .group change =>
            ∃ body inner rest,
              (readAlternatives fuel [] []).run { between with
                extended := (change.value? .extended).getD state.extended } =
                  some (body, inner) ∧
              inner.rest = ')' :: rest ∧
              (readAlternatives fuel branches (.group change body :: parts)).run
                { inner with rest, extended := state.extended } = some result := by
  subst parenthesis
  have closed {inner : ReaderState} {part : Expr} :
      (next >>= fun d => if (d != ')') = true then failure >>= fun _ : Unit => do
          modify fun inner =>
            { inner with rest := inner.rest.tail, extended := state.extended }
          readAlternatives fuel branches (part :: parts)
        else do
          modify fun inner =>
            { inner with rest := inner.rest.tail, extended := state.extended }
          readAlternatives fuel branches (part :: parts)).run inner = some result ↔
        ∃ rest, inner.rest = ')' :: rest ∧
          (readAlternatives fuel branches (part :: parts)).run
            { inner with rest, extended := state.extended } = some result := by
    rw [run_next_bind_eq_some]
    constructor
    · rintro ⟨d, rest, innerEq, further⟩
      rw [run_unless_eq_some, run_modify_bind, innerEq] at further
      obtain rfl : d = ')' := by simpa using further.1
      exact ⟨rest, innerEq, further.2⟩
    · rintro ⟨rest, innerEq, further⟩
      refine ⟨')', rest, innerEq, ?_⟩
      rw [run_unless_eq_some, run_modify_bind, innerEq]
      exact ⟨by decide, further⟩
  rw [readAlternatives, run_skipSpace_bind, solid.afterSpace restEq, run_peek_bind, restEq,
    List.head?_cons]
  simp only [show ('(' = ')') = False by decide, show ('(' = '|') = False by decide, if_false,
    if_true]
  rw [run_get_bind, run_bind_eq_some]
  refine exists_congr fun head => exists_congr fun between => and_congr_right fun _ => ?_
  cases head with
  | modes change => exact Iff.rfl
  | capture index =>
      refine run_bind_eq_some.trans ?_
      refine exists_congr fun body => exists_congr fun inner => ?_
      rw [exists_and_left]
      exact and_congr_right fun _ => closed
  | group change =>
      simp only [run_modify_bind]
      refine run_bind_eq_some.trans ?_
      refine exists_congr fun body => exists_congr fun inner => ?_
      rw [exists_and_left]
      exact and_congr_right fun _ => closed

end Turns

theorem solid_of_dropSpace (inComment : Bool) {text : List Char}
    (restEq : dropSpace inComment text = c :: rest) :
    Unicode.isWhite c = false ∧ c ≠ '#' := by
  induction text generalizing inComment with
  | nil => cases inComment <;> cases restEq
  | cons d text ih =>
      cases inComment with
      | true => exact ih _ restEq
      | false =>
          rw [dropSpace] at restEq
          split at restEq
          · exact ih false restEq
          split at restEq
          · exact ih true restEq
          · next noSpace noComment =>
              cases restEq
              exact ⟨Bool.eq_false_iff.mpr noSpace, noComment⟩

theorem solid_of_afterSpace (restEq : state.afterSpace.rest = c :: rest) :
    Solid state.afterSpace.extended c := by
  obtain ⟨text, extended, captures, names⟩ := state
  rw [afterSpace_mk] at restEq ⊢
  rintro rfl
  exact solid_of_dropSpace false restEq

/-- One turn of the reader of patterns, from a state without space at its start.  The reader
takes something and goes on with the parts and branches that it then has, or it ends. -/
inductive PatternTurn (fuel : Nat) (branches parts : List Expr) (state : ReaderState) :
    Expr → ReaderState → Prop
  | ends (atEnd : Ends state.rest) :
      PatternTurn fuel branches parts state
        (.ofBranches (Expr.ofParts parts.reverse :: branches).reverse) state
  | bar {rest : List Char} {expr : Expr} {after : ReaderState}
      (restEq : state.rest = '|' :: rest)
      (further : (readAlternatives fuel (Expr.ofParts parts.reverse :: branches) []).run
        state.afterOne = some (expr, after)) :
      PatternTurn fuel branches parts state expr after
  | atom {c : Char} {rest : List Char} {part expr : Expr} {between after : ReaderState}
      (restEq : state.rest = c :: rest) (startsAtom : structures c = false)
      (partRead : (readAtom fuel).run state = some (part, between))
      (further : (readAlternatives fuel branches (part :: parts)).run between =
        some (expr, after)) :
      PatternTurn fuel branches parts state expr after
  | sign {c : Char} {rest : List Char} {operand expr : Expr} {others : List Expr}
      {copies : (Nat × Option Nat) × Bool} {between after : ReaderState}
      (restEq : state.rest = c :: rest) (startsSign : signs.contains c = true)
      (taken : takeOperand parts = some (operand, others))
      (copiesRead : readRepetition.run state = some (copies, between))
      (further : (readAlternatives fuel branches
        (.repeated operand copies.1.1 copies.1.2 copies.2 :: others)).run between =
          some (expr, after)) :
      PatternTurn fuel branches parts state expr after
  | modes {rest : List Char} {change : ModeChange} {expr : Expr} {between after : ReaderState}
      (restEq : state.rest = '(' :: rest)
      (headRead : readGroupHead.run state = some (.modes change, between))
      (further : (readAlternatives fuel branches (.modes change :: parts)).run
        { between with extended := (change.value? .extended).getD state.extended } =
          some (expr, after)) :
      PatternTurn fuel branches parts state expr after
  | capture {rest left : List Char} {index : Nat} {body expr : Expr}
      {between inner after : ReaderState} (restEq : state.rest = '(' :: rest)
      (headRead : readGroupHead.run state = some (.capture index, between))
      (bodyRead : (readAlternatives fuel [] []).run between = some (body, inner))
      (innerEq : inner.rest = ')' :: left)
      (further : (readAlternatives fuel branches (.capture index body :: parts)).run
        { inner with rest := left, extended := state.extended } = some (expr, after)) :
      PatternTurn fuel branches parts state expr after
  | group {rest left : List Char} {change : ModeChange} {body expr : Expr}
      {between inner after : ReaderState} (restEq : state.rest = '(' :: rest)
      (headRead : readGroupHead.run state = some (.group change, between))
      (bodyRead : (readAlternatives fuel [] []).run
        { between with extended := (change.value? .extended).getD state.extended } =
          some (body, inner))
      (innerEq : inner.rest = ')' :: left)
      (further : (readAlternatives fuel branches (.group change body :: parts)).run
        { inner with rest := left, extended := state.extended } = some (expr, after)) :
      PatternTurn fuel branches parts state expr after

/-- A reading of a pattern begins with one of the turns. -/
theorem patternTurn_of_read {fuel : Nat} {branches parts : List Expr} {expr : Expr}
    {after : ReaderState}
    (read : (readAlternatives (fuel + 1) branches parts).run state = some (expr, after)) :
    PatternTurn fuel branches parts state.afterSpace expr after := by
  rw [← run_readAlternatives_afterSpace] at read
  have solid {c : Char} {rest : List Char} (restEq : state.afterSpace.rest = c :: rest) :
      Solid state.afterSpace.extended c := solid_of_afterSpace restEq
  generalize state.afterSpace = state at read solid
  by_cases atEnd : Ends state.rest
  · rw [run_readAlternatives_end atEnd] at read
    cases read
    exact .ends atEnd
  cases restEq : state.rest with
  | nil => exact absurd (.inl restEq) atEnd
  | cons c rest =>
      have solid := solid restEq
      have noClose : c ≠ ')' := by
        rintro rfl
        exact atEnd (.inr ⟨rest, restEq⟩)
      by_cases bar : c = '|'
      · rw [run_readAlternatives_bar solid restEq bar] at read
        exact .bar (bar ▸ restEq) read
      by_cases sign : signs.contains c = true
      · obtain ⟨operand, others, copies, between, taken, copiesRead, further⟩ :=
          (run_readAlternatives_sign solid restEq sign).mp read
        exact .sign restEq sign taken copiesRead further
      by_cases parenthesis : c = '('
      · obtain ⟨head, between, headRead, further⟩ :=
          (run_readAlternatives_group solid restEq parenthesis).mp read
        subst parenthesis
        cases head with
        | modes change => exact .modes restEq headRead further
        | capture index =>
            obtain ⟨body, inner, left, bodyRead, innerEq, further⟩ := further
            exact .capture restEq headRead bodyRead innerEq further
        | group change =>
            obtain ⟨body, inner, left, bodyRead, innerEq, further⟩ := further
            exact .group restEq headRead bodyRead innerEq further
      · have atom : structures c = false := by
          rw [structures, Bool.eq_false_iff.mpr sign, Bool.or_false]
          simp [parenthesis, noClose, bar]
        obtain ⟨part, between, partRead, further⟩ :=
          (run_readAlternatives_atom solid restEq atom).mp read
        exact .atom restEq atom partRead further

/-! ### Texts that are taken as a whole -/

/-- None of some characters stands first behind the space at the start of a text. -/
def Clear (extended : Bool) (barred text : List Char) : Prop :=
  ∀ c ∈ barred, (spaceless extended text).head? ≠ some c

instance (extended : Bool) (barred text : List Char) : Decidable (Clear extended barred text) :=
  List.decidableBAll (fun c => (spaceless extended text).head? ≠ some c) barred

/-- A reader takes a text and gives a value, whatever stands behind the text, unless that
begins with a character that is barred. -/
def Takes {Value : Type} (reader : Reader Value) (extended : Bool) (barred text : List Char)
    (value : Value) : Prop :=
  ∀ rest captures names, Clear extended barred rest →
    ∃ after, reader.run ⟨text ++ rest, extended, captures, names⟩ = some (value, after) ∧
      after.afterSpace = ⟨spaceless extended rest, extended, captures, names⟩

/-- A reader takes the head of a group that captures.  The names that groups have decide
whether it may have its own. -/
def Opens (extended : Bool) (barred text : List Char)
    (name? : List (List Char) → Option (List (List Char))) : Prop :=
  ∀ rest captures names, Clear extended barred rest →
    match name? names with
    | none => readGroupHead.run ⟨text ++ rest, extended, captures, names⟩ = none
    | some later =>
        ∃ after, readGroupHead.run ⟨text ++ rest, extended, captures, names⟩ =
            some (.capture (captures + 1), after) ∧
          after.afterSpace = ⟨spaceless extended rest, extended, captures + 1, later⟩

/-- A reader takes the head of a group, or of a part, that changes the modes. -/
def Switches (extended : Bool) (text : List Char) (head : GroupHead) : Prop :=
  ∀ rest captures names, readGroupHead.run ⟨text ++ rest, extended, captures, names⟩ =
    some (head, ⟨rest, extended, captures, names⟩)

theorem clear_nil : Clear extended [] text := by
  simp [Clear]

/-- The reader of patterns goes on with what stands behind the text. -/
theorem Takes.continues {Value : Type} {reader : Reader Value} {barred : List Char}
    {value : Value} (takes : Takes reader extended barred text value)
    (clear : Clear extended barred rest) (captures : Nat) (names : List (List Char)) :
    ∃ after, reader.run ⟨text ++ rest, extended, captures, names⟩ = some (value, after) ∧
      ∀ fuel branches parts, (readAlternatives fuel branches parts).run after =
        (readAlternatives fuel branches parts).run ⟨rest, extended, captures, names⟩ := by
  obtain ⟨after, read, afterEq⟩ := takes rest captures names clear
  refine ⟨after, read, fun fuel branches parts => ?_⟩
  exact run_readAlternatives_of_afterSpace (afterEq.trans (afterSpace_mk _ _).symm)

theorem Clear.head_ne {barred : List Char} {sign : Char} (clear : Clear extended barred text)
    (member : sign ∈ barred) (solid : Solid extended sign) : text.head? ≠ some sign := by
  intro headEq
  obtain ⟨rest, rfl⟩ := List.head?_eq_some_iff.mp headEq
  have notFirst := clear sign member
  rw [solid.spaceless] at notFirst
  exact notFirst rfl

/-- What a character means by itself. -/
def partOfChar (c : Char) : Expr :=
  match c with
  | '.' => .dot
  | '^' => .assertion .lineStart
  | '$' => .assertion .lineEnd
  | _ => .literal ⟨c, false⟩

theorem takes_char (fuel : Nat) (noEscape : c ≠ '\\') (noClass : c ≠ '[') :
    Takes (readAtom fuel) extended [] [c] (partOfChar c) := by
  intro rest captures names _
  refine ⟨⟨rest, extended, captures, names⟩, ?_, afterSpace_mk _ _⟩
  have notClass : ¬some c = some '[' := by simpa using noClass
  rw [readAtom, run_peek_bind]
  change StateT.run (if some c = some '[' then _ else _) _ = _
  rw [if_neg notClass, readPrimitive, run_next_bind_eq_some]
  refine ⟨c, rest, rfl, ?_⟩
  rw [if_neg noEscape, run_bump_bind]
  unfold partOfChar
  split <;> simp_all <;> rfl

/-- What an escape of two characters means, if no more characters can belong to it. -/
def partOfEscape? (c : Char) : Option Expr :=
  if ['x', 'u', 'U', 'p', 'P', 'b'].contains c then none
  else (readEscape.run ⟨['\\', c], false, 0, []⟩).map Prod.fst

theorem takes_escape (fuel : Nat) {part : Expr} (known : partOfEscape? c = some part) :
    Takes (readAtom fuel) extended [] ['\\', c] part := by
  intro rest captures names _
  refine ⟨⟨rest, extended, captures, names⟩, ?_, afterSpace_mk _ _⟩
  unfold partOfEscape? at known
  split at known
  · cases known
  next short =>
  obtain ⟨⟨_, last⟩, read, rfl⟩ := Option.map_eq_some_iff.mp known
  simp only [List.contains_cons, List.contains_nil, Bool.or_false, Bool.or_eq_true,
    beq_iff_eq, not_or] at short
  obtain ⟨noX, noU, noUpperU, noP, noUpperP, noB⟩ := short
  change readEscape.run ⟨'\\' :: c :: rest, extended, captures, names⟩ = _
  rw [readEscape, run_bump_bind, run_next_bind_eq_some] at read ⊢
  obtain ⟨_, _, ⟨⟩, read⟩ := read
  refine ⟨c, rest, rfl, ?_⟩
  split at read
  · cases read
  next noDigit =>
  rw [run_bump_bind] at read
  rw [if_neg noDigit, if_neg noX, if_neg noU, if_neg noUpperU, if_neg noP, if_neg noUpperP,
    run_bump_bind]
  split at read
  · next escapable =>
      cases read
      rw [if_pos escapable]
      rfl
  next noEscapable =>
  rw [if_neg noEscapable]
  split at read
  case h_15 => exact absurd rfl noB
  all_goals
    cases read
    try rfl

theorem takes_boundary (fuel : Nat) :
    Takes (readAtom fuel) extended ['\x7b'] ['\\', 'b'] (.assertion .wordBoundary) := by
  intro rest captures names clear
  refine ⟨⟨rest, extended, captures, names⟩, ?_, afterSpace_mk _ _⟩
  have noBrace : rest.head? ≠ some '\x7b' :=
    clear.head_ne List.mem_cons_self fun _ => by decide
  change (readBoundaryKind).run ⟨rest, extended, captures, names⟩ = _
  rw [readBoundaryKind, run_get_bind, if_pos (by simpa using noBrace)]
  rfl

/-- The number of copies that the sign of a repetition without counts stands for. -/
def copiesOfSign (sign : Char) : Nat × Option Nat :=
  (if sign = '+' then 1 else 0, if sign = '?' then some 1 else none)

theorem run_readRepetition_sign {sign : Char} (uncounted : sign ≠ '\x7b')
    {between : ReaderState} (restEq : state.rest = sign :: rest) {greedy : Bool}
    (read : readGreedy.run state.afterOne = some (greedy, between)) :
    readRepetition.run state = some ((copiesOfSign sign, greedy), between) := by
  have noBrace : ¬some sign = some '\x7b' := by simpa using uncounted
  rw [readRepetition, run_peek_bind, restEq, List.head?_cons, if_neg noBrace, run_bump_bind,
    run_bind_eq_some]
  refine ⟨greedy, between, read, ?_⟩
  simp [copiesOfSign]

theorem takes_sign {sign : Char} (uncounted : sign ≠ '\x7b') :
    Takes readRepetition extended ['?'] [sign] (copiesOfSign sign, true) := by
  intro rest captures names clear
  refine ⟨⟨rest, extended, captures, names⟩, ?_, afterSpace_mk _ _⟩
  refine run_readRepetition_sign uncounted rfl ?_
  have noLazy : rest.head? ≠ some '?' := clear.head_ne List.mem_cons_self fun _ => by decide
  rw [readGreedy, run_peek_bind]
  exact congrArg (StateT.run · _) (if_neg noLazy)

theorem takes_lazySign {sign : Char} (uncounted : sign ≠ '\x7b') :
    Takes readRepetition extended [] [sign, '?'] (copiesOfSign sign, false) := by
  intro rest captures names _
  exact ⟨⟨rest, extended, captures, names⟩, run_readRepetition_sign uncounted rfl rfl,
    afterSpace_mk _ _⟩

/-- A parenthesis opens a group that captures, unless it stands before a question mark. -/
theorem opens_parenthesis : Opens extended ['?'] ['('] some := by
  intro rest captures names clear
  have noMark : (spaceless extended rest).head? ≠ some '?' := clear '?' List.mem_cons_self
  refine ⟨⟨spaceless extended rest, extended, captures + 1, names⟩, ?_, ?_⟩
  · have marked {mark : List Char} :
        ('?' :: mark).isPrefixOf (spaceless extended rest) = false := by
      cases spacelessEq : spaceless extended rest with
      | nil => rfl
      | cons c others =>
          rw [spacelessEq, List.head?_cons] at noMark
          have noMark : '?' ≠ c := fun eq => noMark (congrArg some eq.symm)
          simp [List.isPrefixOf, noMark]
    have opened : (⟨['('] ++ rest, extended, captures, names⟩ : ReaderState).afterOne.afterSpace =
        ⟨spaceless extended rest, extended, captures, names⟩ := afterSpace_mk _ _
    rw [readGroupHead, run_advance_bind, opened, run_unlessTaken_eq_some,
      run_unlessTaken_eq_some]
    refine ⟨marked, marked, marked, marked, ?_⟩
    have passed (mark : List Char) {Value : Type} {further : Bool → Reader Value} :
        (take? ('?' :: mark) >>= further).run ⟨spaceless extended rest, extended, captures, names⟩ =
          (further false).run ⟨spaceless extended rest, extended, captures, names⟩ := by
      rw [run_take?_bind, if_neg (by rw [marked]; exact Bool.false_ne_true)]
    exact (passed ['P', '<']).trans ((passed ['<']).trans (passed []))
  · rw [afterSpace_mk, spaceless_spaceless]

end Pattern

end Scopelight
