import Mathlib.Data.List.Chain
import Scopelight.Proofs.PlainReading

/-!
# Reading classes

To the check for unsupported constructs a class is like any other text.  Only one thing in
it can mislead the check: an opening parenthesis that stands before a question mark.  The
reader of a class without one stops where the check finds the same as where it started.
-/

namespace Scopelight

namespace Pattern

namespace ClassExpr

/-- The last character of a part of a class is an opening parenthesis. -/
def endsOpen : ClassExpr → Bool
  | .literal value => value.char == '('
  | .range _ last => last.char == '('
  | _ => false

/-- The first item of a row is a question mark. -/
def asks : ClassExpr → Bool
  | .literal value => value.char == '?'
  | .union first _ => first.asks
  | _ => false

/-- Somewhere in a class an opening parenthesis stands before a question mark. -/
def hidesGroup : ClassExpr → Bool
  | .bracketed _ inner => inner.hidesGroup
  | .union first rest => (first.endsOpen && rest.asks) || first.hidesGroup || rest.hidesGroup
  | .operation _ left right => left.hidesGroup || right.hidesGroup
  | _ => false

/-- A class that hides no group and whose properties have members. -/
def Legible : ClassExpr → Prop
  | .property name _ => name.set?.isSome = true
  | .bracketed _ inner => inner.Legible
  | .union first rest => ¬(first.endsOpen = true ∧ rest.asks = true) ∧ first.Legible ∧ rest.Legible
  | .operation _ left right => left.Legible ∧ right.Legible
  | _ => True

theorem legible_of_ranges? {part : ClassExpr} {modes : Modes} {ranges : List (Nat × Nat)}
    (hidesNone : part.hidesGroup = false) (means : part.ranges? modes = some ranges) :
    part.Legible := by
  induction part generalizing ranges with
  | property name negated =>
      rw [ranges?] at means
      split at means
      · cases means
      · obtain ⟨set, setEq, -⟩ := Option.bind_eq_some_iff.mp means
        exact Option.isSome_of_eq_some setEq
  | bracketed negated inner ih =>
      obtain ⟨innerRanges, innerMeans, -⟩ := Option.bind_eq_some_iff.mp means
      exact ih hidesNone innerMeans
  | union first rest firstIH restIH =>
      rw [hidesGroup, Bool.or_eq_false_iff, Bool.or_eq_false_iff] at hidesNone
      obtain ⟨⟨apart, firstHides⟩, restHides⟩ := hidesNone
      obtain ⟨firstRanges, firstMeans, means⟩ := Option.bind_eq_some_iff.mp means
      obtain ⟨restRanges, restMeans, -⟩ := Option.bind_eq_some_iff.mp means
      refine ⟨?_, firstIH firstHides firstMeans, restIH restHides restMeans⟩
      simpa using apart
  | operation op left right leftIH rightIH =>
      rw [hidesGroup, Bool.or_eq_false_iff] at hidesNone
      obtain ⟨leftRanges, leftMeans, means⟩ := Option.bind_eq_some_iff.mp means
      obtain ⟨rightRanges, rightMeans, -⟩ := Option.bind_eq_some_iff.mp means
      exact ⟨leftIH hidesNone.1 leftMeans, rightIH hidesNone.2 rightMeans⟩
  | _ => trivial

/-- Items of a class, latest first, of which none hides a group and no two do together. -/
def Orderly (items : List ClassExpr) : Prop :=
  items.IsChain (fun later earlier => ¬(earlier.endsOpen = true ∧ later.asks = true)) ∧
    ∀ item ∈ items, item.Legible

theorem legible_ofItems_reverse {items : List ClassExpr} :
    (ofItems items.reverse).Legible ↔ Orderly items := by
  have legibleOfItems (items : List ClassExpr) : (ofItems items).Legible ↔
      items.IsChain (fun earlier later => ¬(earlier.endsOpen = true ∧ later.asks = true)) ∧
        ∀ item ∈ items, item.Legible := by
    induction items with
    | nil => simp [ofItems, Legible]
    | cons item items ih =>
        cases items with
        | nil => simp [ofItems]
        | cons next items =>
            have asksEq : (ofItems (next :: items)).asks = next.asks := by
              cases items <;> rfl
            rw [List.isChain_cons_cons, List.forall_mem_cons]
            rw [ofItems, Legible, ih, asksEq]
            · tauto
            · simp
  rw [legibleOfItems, List.isChain_reverse, Orderly]
  simp

theorem Orderly.tail {item : ClassExpr} {items : List ClassExpr}
    (orderly : Orderly (item :: items)) : Orderly items :=
  ⟨orderly.1.tail, (List.forall_mem_cons.mp orderly.2).2⟩

theorem legible_of_applyPending {pending : Option (SetOp × ClassExpr)} {right : ClassExpr}
    (legible : (applyPending pending right).Legible) :
    right.Legible ∧ ∀ op left, pending = some (op, left) → left.Legible := by
  cases pending with
  | none => exact ⟨legible, by simp⟩
  | some operation =>
      obtain ⟨op, left⟩ := operation
      refine ⟨legible.2, ?_⟩
      rintro _ _ ⟨⟩
      exact legible.1

end ClassExpr

open ClassExpr Reader

variable {extending : Bool} {state after : ReaderState} {c : Char} {rest : List Char}

/-- A reader stops behind a parenthesis that the check takes for the start of a look-around. -/
structure StopsAtLook (before after : ReaderState) : Prop where
  looks : startsLook after.rest = true
  extendedEq : after.extended = before.extended
  suffix : after.rest <:+ before.rest

theorem readClassAtom_steps {expr : Expr} (calm : Calm extending state)
    (read : readClassAtom.run state = some (expr, after))
    (resolves : ∀ name without, expr = .property name without → name.set?.isSome = true) :
    Steps state after ∨ expr = .literal ⟨'(', false⟩ ∧ StopsAtLook state after := by
  rw [readClassAtom, run_next_bind_eq_some] at read
  obtain ⟨c, rest, restEq, read⟩ := read
  split at read
  · next backslash =>
      subst backslash
      exact .inl (readEscape_steps calm restEq read resolves)
  · next noBackslash =>
      rw [run_bump_bind, run_pure_eq_some] at read
      cases read
      by_cases parenthesis : c = '('
      · subst parenthesis
        cases looks : startsLook state.afterOne.rest with
        | false =>
            refine .inl ⟨rfl, ?_⟩
            rw [ReaderState.afterOne, restEq] at looks ⊢
            exact .parenthesis looks
        | true => exact .inr ⟨rfl, looks, rfl, List.tail_suffix _⟩
      · have plain : isPlain c = true := by simp [isPlain, noBackslash, parenthesis]
        exact .inl (.afterOne restEq plain)

theorem readClassItem_steps {item : ClassExpr} (calm : Calm extending state)
    (read : readClassItem.run state = some (item, after)) (legible : item.Legible) :
    Steps state after ∨ item.endsOpen = true ∧ StopsAtLook state after := by
  rw [readClassItem, run_bind_eq_some] at read
  obtain ⟨first, between, firstRead, read⟩ := read
  rw [run_skipSpace_bind, run_next_bind_eq_some] at read
  obtain ⟨c, rest, restEq, read⟩ := read
  rw [run_get_bind] at read
  simp only at read
  split at read
  · rw [run_lift_eq_some] at read
    obtain ⟨value, valueEq, resultEq⟩ := read
    cases resultEq
    have resolves : ∀ name without, first = .property name without →
        name.set?.isSome = true := by
      rintro name without rfl
      cases valueEq
      exact legible
    rcases readClassAtom_steps calm firstRead resolves with steps | ⟨rfl, misleads⟩
    · exact .inl (steps.trans (.afterSpace (steps.calm calm)))
    · cases valueEq
      rw [afterSpace_of_startsLook misleads.looks]
      exact .inr ⟨rfl, misleads⟩
  · next hyphen =>
      simp only [Bool.or_eq_true, bne_iff_ne, ne_eq, not_or, not_not] at hyphen
      obtain ⟨⟨rfl, -⟩, -⟩ := hyphen
      rw [run_advance_bind, run_next_bind_eq_some] at read
      obtain ⟨_, _, -, read⟩ := read
      rw [run_bind_eq_some] at read
      obtain ⟨last, final, lastRead, read⟩ := read
      rw [run_lift_bind_eq_some] at read
      obtain ⟨firstLiteral, firstEq, read⟩ := read
      rw [run_lift_bind_eq_some] at read
      obtain ⟨lastLiteral, lastEq, read⟩ := read
      rw [run_unless_eq_some] at read
      obtain ⟨-, read⟩ := read
      cases read
      have literalResolves {expr : Expr} {value : Literal} (valueEq : literal? expr = some value) :
          ∀ name without, expr = .property name without → name.set?.isSome = true := by
        rintro name without rfl
        cases valueEq
      have begins : Steps state between.afterSpace := by
        rcases readClassAtom_steps calm firstRead (literalResolves firstEq) with
          steps | ⟨-, misleads⟩
        · exact steps.trans (.afterSpace (steps.calm calm))
        · rw [afterSpace_of_startsLook misleads.looks] at restEq
          obtain ⟨d, left, leftEq, -⟩ := head_of_startsLook misleads.looks
          cases restEq.symm.trans leftEq
      have middle := begins.trans (.advance (begins.calm calm) restEq rfl)
      rcases readClassAtom_steps (middle.calm calm) lastRead (literalResolves lastEq) with
        steps | ⟨rfl, misleads⟩
      · exact .inl (middle.trans steps)
      · cases lastEq
        exact .inr ⟨rfl, misleads.looks, misleads.extendedEq.trans middle.extendedEq,
          misleads.suffix.trans middle.passes.suffix⟩

theorem readLeadingHyphens_steps {fuel : Nat} {items hyphens : List ClassExpr}
    (calm : Calm extending state)
    (read : (readLeadingHyphens fuel items).run state = some (hyphens, after)) :
    Steps state after := by
  induction fuel generalizing state items with
  | zero => cases read
  | succ fuel ih =>
      rw [readLeadingHyphens, run_next_bind_eq_some] at read
      obtain ⟨c, rest, restEq, read⟩ := read
      split at read
      · next hyphen =>
          subst hyphen
          rw [run_advance_bind, run_next_bind_eq_some] at read
          obtain ⟨_, _, -, read⟩ := read
          have first := Steps.advance calm restEq rfl
          exact first.trans (ih (first.calm calm) read)
      · cases read
        exact .refl _

/-- One turn of the reader of the items of a class, from a state without space at its
start. -/
inductive ItemsTurn (fuel : Nat) (pending : Option (SetOp × ClassExpr))
    (items : List ClassExpr) (state : ReaderState) : ClassExpr → ReaderState → Prop
  | named {rest left : List Char} {item inner : ClassExpr} {after : ReaderState}
      (restEq : state.rest = '[' :: rest)
      (namedEq : namedClassAt? state.rest = some (item, left))
      (further : (readClassItems fuel pending (item :: items)).run { state with rest := left } =
        some (inner, after)) :
      ItemsTurn fuel pending items state inner after
  | nested {rest : List Char} {negated : Bool} {nested inner : ClassExpr}
      {between after : ReaderState} (restEq : state.rest = '[' :: rest)
      (classRead : (readClass fuel).run state = some ((negated, nested), between))
      (further : (readClassItems fuel pending (.bracketed negated nested :: items)).run between =
        some (inner, after)) :
      ItemsTurn fuel pending items state inner after
  | closed {rest : List Char} (restEq : state.rest = ']' :: rest) :
      ItemsTurn fuel pending items state (applyPending pending (.ofItems items.reverse))
        state.afterOne
  | operator {mark : Char} {rest : List Char} {op : SetOp} {inner : ClassExpr}
      {after : ReaderState} (isMark : mark ∈ ['&', '-', '~'])
      (restEq : state.rest = mark :: mark :: rest)
      (further : (readClassItems fuel
        (some (op, applyPending pending (.ofItems items.reverse))) []).run
          state.afterOne.afterOne = some (inner, after)) :
      ItemsTurn fuel pending items state inner after
  | item {item inner : ClassExpr} {between after : ReaderState}
      (itemRead : readClassItem.run state = some (item, between))
      (further : (readClassItems fuel pending (item :: items)).run between =
        some (inner, after)) :
      ItemsTurn fuel pending items state inner after

/-- A reading of the items of a class begins with one of the turns. -/
theorem itemsTurn_of_read {fuel : Nat} {pending : Option (SetOp × ClassExpr)}
    {items : List ClassExpr} {inner : ClassExpr}
    (read : (readClassItems (fuel + 1) pending items).run state = some (inner, after)) :
    ItemsTurn fuel pending items state.afterSpace inner after := by
  rw [readClassItems, run_skipSpace_bind, run_next_bind_eq_some] at read
  obtain ⟨c, rest, restEq, read⟩ := read
  rw [run_get_bind] at read
  simp only at read
  generalize state.afterSpace = state at read restEq
  have operator {op : SetOp} {mark : Char} (isMark : mark ∈ ['&', '-', '~'])
      (marks : (c == mark && state.rest.tail.head? == some mark) = true)
      (further : (readClassItems fuel
        (some (op, applyPending pending (.ofItems items.reverse))) []).run
          state.afterOne.afterOne = some (inner, after)) :
      ItemsTurn fuel pending items state inner after := by
    rw [Bool.and_eq_true, beq_iff_eq, beq_iff_eq, restEq, List.tail_cons] at marks
    obtain ⟨rfl, second⟩ := marks
    obtain ⟨more, rfl⟩ := List.head?_eq_some_iff.mp second
    exact .operator isMark restEq further
  split at read
  · next bracket =>
      subst bracket
      split at read
      · next item left namedEq => exact .named restEq namedEq read
      · rw [run_bind_eq_some] at read
        obtain ⟨⟨negated, nested⟩, between, classRead, further⟩ := read
        exact .nested restEq classRead further
  split at read
  · next bracket =>
      subst bracket
      cases read
      exact .closed restEq
  split at read
  · next marks => exact operator (by decide) marks read
  split at read
  · next marks => exact operator (by decide) marks read
  split at read
  · next marks => exact operator (by decide) marks read
  · rw [run_bind_eq_some] at read
    obtain ⟨item, between, itemRead, further⟩ := read
    exact .item itemRead further

/-- The items that have been read become parts of the class. -/
theorem orderly_of_readClassItems {fuel : Nat} {pending : Option (SetOp × ClassExpr)}
    {items : List ClassExpr} {inner : ClassExpr}
    (read : (readClassItems fuel pending items).run state = some (inner, after))
    (legible : inner.Legible) :
    Orderly items ∧ ∀ op left, pending = some (op, left) → left.Legible := by
  induction fuel generalizing state pending items with
  | zero => cases read
  | succ fuel ih =>
      have ofApplied (applied : (applyPending pending (.ofItems items.reverse)).Legible) :
          Orderly items ∧ ∀ op left, pending = some (op, left) → left.Legible := by
        obtain ⟨itemsLegible, pendingLegible⟩ := legible_of_applyPending applied
        exact ⟨legible_ofItems_reverse.mp itemsLegible, pendingLegible⟩
      cases itemsTurn_of_read read with
      | named restEq namedEq further => exact (ih further).imp_left Orderly.tail
      | nested restEq classRead further => exact (ih further).imp_left Orderly.tail
      | closed restEq => exact ofApplied legible
      | operator isMark restEq further => exact ofApplied ((ih further).2 _ _ rfl)
      | item itemRead further => exact (ih further).imp_left Orderly.tail

/-- What goes on like a look-around is read as a question mark in a class. -/
theorem asks_of_readClassItem {item : ClassExpr} (looks : startsLook state.rest = true)
    (read : readClassItem.run state = some (item, after)) : item.asks = true := by
  obtain ⟨c, rest, restEq, cEq⟩ := head_of_startsLook looks
  have leftEq : state.afterOne.rest = c :: rest := by rw [ReaderState.afterOne, restEq, List.tail_cons]
  have firstRead : readClassAtom.run state = some (.literal ⟨'?', false⟩, state.afterOne) := by
    rw [readClassAtom, run_next_bind_eq_some]
    exact ⟨'?', c :: rest, restEq, rfl⟩
  have noSpace : state.afterOne.afterSpace = state.afterOne :=
    afterSpace_eq_self leftEq (by rcases cEq with rfl | rfl | rfl <;> decide)
      (by rcases cEq with rfl | rfl | rfl <;> decide)
  rw [readClassItem, run_bind_eq_some] at read
  obtain ⟨first, between, firstEq, read⟩ := read
  cases firstRead.symm.trans firstEq
  rw [run_skipSpace_bind, noSpace, run_next_bind_eq_some] at read
  obtain ⟨d, _, dEq, read⟩ := read
  cases leftEq.symm.trans dEq
  rw [run_get_bind] at read
  simp only at read
  split at read
  · cases read
    rfl
  · next hyphen =>
      simp only [Bool.or_eq_true, bne_iff_ne, ne_eq, not_or, not_not] at hyphen
      rw [hyphen.1.1] at cEq
      exact absurd cEq (by decide)

theorem asks_of_startsLook {fuel : Nat} {pending : Option (SetOp × ClassExpr)}
    {items : List ClassExpr} {inner : ClassExpr} (looks : startsLook state.rest = true)
    (read : (readClassItems fuel pending items).run state = some (inner, after)) :
    ∃ fuel next between, next.asks = true ∧
      (readClassItems fuel pending (next :: items)).run between = some (inner, after) := by
  cases fuel with
  | zero => cases read
  | succ fuel =>
      obtain ⟨_, _, markEq, -⟩ := head_of_startsLook looks
      have turn := itemsTurn_of_read read
      rw [afterSpace_of_startsLook looks] at turn
      cases turn with
      | named restEq namedEq further => cases markEq.symm.trans restEq
      | nested restEq classRead further => cases markEq.symm.trans restEq
      | closed restEq => cases markEq.symm.trans restEq
      | operator isMark restEq further =>
          cases markEq.symm.trans restEq
          exact absurd isMark (by decide)
      | item itemRead further =>
          exact ⟨fuel, _, _, asks_of_readClassItem looks itemRead, further⟩

theorem letters_of_namedClass? {name : List Char} {kind : NamedClass}
    (found : namedClass? (String.ofList name) = some kind) : ∀ c ∈ name, c.isLower = true := by
  have ofEq {known : String} (nameEq : String.ofList name = known)
      (lower : known.toList.all Char.isLower = true) : ∀ c ∈ name, c.isLower = true := by
    rw [← String.toList_ofList (l := name), nameEq]
    exact List.all_eq_true.mp lower
  unfold namedClass? at found
  split at found
  case h_15 => cases found
  all_goals
    next nameEq => exact ofEq nameEq (by decide)

theorem isPlain_of_isLower (lower : c.isLower = true) : isPlain c = true := by
  have noBackslash : c ≠ '\\' := by rintro rfl; cases lower
  have noParenthesis : c ≠ '(' := by rintro rfl; cases lower
  simp [isPlain, noBackslash, noParenthesis]

theorem passes_of_namedClassAt? {text left : List Char} {item : ClassExpr}
    (named : namedClassAt? text = some (item, left)) : Passes text left := by
  have behindMark {inner name : List Char} (marked : inner = '^' :: name ∨ inner = name)
      (passes : Passes name left) : Passes ('[' :: ':' :: inner) left := by
    refine (Passes.one rfl).trans ((Passes.one rfl).trans ?_)
    rcases marked with rfl | rfl
    · exact (Passes.one rfl).trans passes
    · exact passes
  have fromName {name : List Char} {kind : NamedClass}
      (kindEq : namedClass? (String.ofList (name.takeWhile (· != ':'))) = some kind)
      (closeEq : name.dropWhile (· != ':') = ':' :: ']' :: left) : Passes name left := by
    have splitEq := List.takeWhile_append_dropWhile (p := (· != ':')) (l := name)
    rw [closeEq] at splitEq
    rw [← splitEq]
    have plain := fun c member => isPlain_of_isLower (letters_of_namedClass? kindEq c member)
    exact (Passes.run plain).trans ((Passes.one rfl).trans (.one rfl))
  unfold namedClassAt? at named
  split at named
  · simp only at named
    split at named
    · next closeEq =>
        obtain ⟨kind, kindEq, pairEq⟩ := Option.map_eq_some_iff.mp named
        cases pairEq
        refine behindMark ?_ (fromName kindEq closeEq)
        split
        · exact .inl rfl
        · exact .inr rfl
    · cases named
  · cases named

/-- A class is read past if the items inside it are. -/
theorem readClass_steps_of_items {fuel : Nat} {negated : Bool} {inner : ClassExpr}
    (itemsSteps : ∀ state pending items inner after, Calm extending state →
      (readClassItems fuel pending items).run state = some (inner, after) → inner.Legible →
      Steps state after)
    (calm : Calm extending state) (restEq : state.rest = '[' :: rest)
    (read : (readClass (fuel + 1)).run state = some ((negated, inner), after))
    (legible : inner.Legible) : Steps state after := by
  have opened := Steps.advance calm restEq rfl
  rw [readClass, run_advance_bind, run_next_bind_eq_some] at read
  obtain ⟨c, more, moreEq, read⟩ := read
  simp only [run_advanceIf] at read
  have marked : Steps state (if c = '^' then state.afterOne.afterSpace.afterOne.afterSpace
      else state.afterOne.afterSpace) := by
    split
    · next caret => exact opened.trans (.advance (opened.calm calm) (caret ▸ moreEq) rfl)
    · exact opened
  rw [run_bind_eq_some] at read
  obtain ⟨hyphens, between, hyphensRead, read⟩ := read
  have before := marked.trans (readLeadingHyphens_steps (marked.calm calm) hyphensRead)
  rw [run_next_bind_eq_some] at read
  obtain ⟨d, last, lastEq, read⟩ := read
  split at read
  · next closes =>
      obtain rfl : d = ']' := by simp at closes; exact closes.2
      rw [run_advance_bind, run_next_bind_eq_some] at read
      obtain ⟨_, _, -, read⟩ := read
      rw [run_bind_eq_some] at read
      obtain ⟨items, final, itemsRead, read⟩ := read
      cases read
      have inside := before.trans (.advance (before.calm calm) lastEq rfl)
      exact inside.trans (itemsSteps _ _ _ _ _ (inside.calm calm) itemsRead legible)
  · rw [run_bind_eq_some] at read
    obtain ⟨items, final, itemsRead, read⟩ := read
    cases read
    exact before.trans (itemsSteps _ _ _ _ _ (before.calm calm) itemsRead legible)

/-- The readers of classes, with brackets inside brackets. -/
theorem readClass_steps (fuel : Nat) :
    (∀ state negated inner after, Calm extending state → (∃ rest, state.rest = '[' :: rest) →
      (readClass fuel).run state = some ((negated, inner), after) → inner.Legible →
      Steps state after) ∧
    ∀ state pending items inner after, Calm extending state →
      (readClassItems fuel pending items).run state = some (inner, after) → inner.Legible →
      Steps state after := by
  induction fuel with
  | zero =>
      constructor
      · intro _ _ _ _ _ _ read
        cases read
      · intro _ _ _ _ _ _ read
        cases read
  | succ fuel ih =>
      obtain ⟨classIH, itemsIH⟩ := ih
      constructor
      · rintro state negated inner after calm ⟨rest, restEq⟩ read legible
        exact readClass_steps_of_items itemsIH calm restEq read legible
      · intro state pending items inner after calm read legible
        have begins : Steps state state.afterSpace := .afterSpace calm
        refine begins.trans ?_
        have turn := itemsTurn_of_read read
        replace calm := begins.calm calm
        generalize state.afterSpace = state at turn calm
        have goesOn {between : ReaderState} {pending : Option (SetOp × ClassExpr)}
            {items : List ClassExpr} (taken : Steps state between)
            (further : (readClassItems fuel pending items).run between = some (inner, after)) :
            Steps state after :=
          taken.trans (itemsIH _ _ _ _ _ (taken.calm calm) further legible)
        cases turn with
        | @named _ left _ _ _ restEq namedEq further =>
            have named : Steps state { state with rest := left } :=
              ⟨rfl, passes_of_namedClassAt? namedEq⟩
            exact goesOn named further
        | nested restEq classRead further =>
            have nestedLegible := (orderly_of_readClassItems further legible).1.2 _
              List.mem_cons_self
            exact goesOn (classIH _ _ _ _ calm ⟨_, restEq⟩ classRead nestedLegible) further
        | closed restEq => exact .afterOne restEq rfl
        | @operator mark _ _ _ _ isMark restEq further =>
            -- An operator is two characters, and both are plain.
            have plain : isPlain mark = true := by
              simp only [List.mem_cons, List.not_mem_nil, or_false] at isMark
              rcases isMark with rfl | rfl | rfl <;> rfl
            have secondEq := congrArg List.tail restEq
            exact goesOn ((Steps.afterOne restEq plain).trans (.afterOne secondEq plain)) further
        | item itemRead further =>
            have orderly := (orderly_of_readClassItems further legible).1
            rcases readClassItem_steps calm itemRead (orderly.2 _ List.mem_cons_self) with
              steps | ⟨ends, misleads⟩
            · exact goesOn steps further
            · obtain ⟨_, next, _, asks, nextRead⟩ := asks_of_startsLook misleads.looks further
              have apart := (orderly_of_readClassItems nextRead legible).1.1
              exact absurd ⟨ends, asks⟩ (List.isChain_cons_cons.mp apart).1

end Pattern

end Scopelight
