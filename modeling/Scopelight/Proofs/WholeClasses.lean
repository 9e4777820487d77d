import Scopelight.Proofs.ClassReading
import Scopelight.Proofs.PatternParts

/-!
# Classes as parts

Outside of the extended mode a reader looks at most one character past what it takes.  So a
class that is read to its end is read the same whatever stands behind it.
-/

namespace Scopelight

namespace Pattern

open Reader

/-- What a reader reads depends neither on the groups that have been read nor on what
stands far behind in the text: only the character after it may count. -/
def Steady {Value : Type} (reader : Reader Value) : Prop :=
  ∀ ⦃text captures names value after⦄,
    reader.run ⟨text, false, captures, names⟩ = some (value, after) →
    ∃ left, after = ⟨left, false, captures, names⟩ ∧ left <:+ text ∧
      (left ≠ [] → ∀ more captures names,
        reader.run ⟨text ++ more, false, captures, names⟩ =
          some (value, ⟨left ++ more, false, captures, names⟩))

namespace Steady

variable {First Second : Type} {reader : Reader Second}

theorem of_run {text : List Char} {captures : Nat} {names : List (List Char)} {value : Second}
    {after : ReaderState} (read : reader.run ⟨text, false, captures, names⟩ = some (value, after))
    (steady : Steady reader) :
    ∃ left, after = ⟨left, false, captures, names⟩ ∧ left <:+ text ∧
      (left ≠ [] → ∀ more captures names,
        reader.run ⟨text ++ more, false, captures, names⟩ =
          some (value, ⟨left ++ more, false, captures, names⟩)) :=
  steady read

theorem bind {first : Reader First} {further : First → Reader Second} (firstSteady : Steady first)
    (furtherSteady : ∀ value, Steady (further value)) : Steady (first >>= further) := by
  intro text captures names result after read
  obtain ⟨value, between, firstRead, read⟩ := run_bind_eq_some.mp read
  obtain ⟨middle, rfl, middleSuffix, firstAgain⟩ := firstSteady firstRead
  obtain ⟨left, rfl, leftSuffix, furtherAgain⟩ := furtherSteady value read
  refine ⟨left, rfl, leftSuffix.trans middleSuffix, fun someLeft more captures names => ?_⟩
  have someMiddle : middle ≠ [] := by
    rintro rfl
    exact someLeft (List.suffix_nil.mp leftSuffix)
  exact run_bind_eq_some.mpr
    ⟨value, _, firstAgain someMiddle more captures names, furtherAgain someLeft more captures names⟩

theorem pure (value : Second) : Steady (pure value) := by
  rintro text captures names _ _ ⟨⟩
  exact ⟨text, rfl, List.suffix_refl _, fun _ _ _ _ => rfl⟩

theorem failure : Steady (failure : Reader Second) := by
  rintro text captures names _ _ ⟨⟩

theorem lift (value : Option Second) : Steady (liftM value : Reader Second) := by
  cases value with
  | none => exact failure
  | some value => exact pure value

theorem ite {condition : Prop} [Decidable condition] {other : Reader Second}
    (steady : Steady reader) (otherSteady : Steady other) :
    Steady (if condition then reader else other) := by
  split
  · exact steady
  · exact otherSteady

theorem guarded {condition : Prop} [Decidable condition] {first : First → Reader Second}
    (steady : Steady reader) :
    Steady (if condition then Alternative.failure >>= first else reader) := by
  split
  · rintro text captures names _ _ ⟨⟩
  · exact steady

theorem next : Steady next := by
  intro text captures names c after read
  cases text with
  | nil => cases read
  | cons d text =>
      cases read
      exact ⟨_, rfl, List.suffix_refl _, fun _ _ _ _ => rfl⟩

theorem bump : Steady bump := by
  rintro text captures names _ _ ⟨⟩
  refine ⟨_, rfl, List.tail_suffix _, fun someLeft more captures names => ?_⟩
  cases text with
  | nil => exact absurd rfl someLeft
  | cons c text => rfl

theorem skipSpace : Steady skipSpace := by
  rintro text captures names _ _ ⟨⟩
  exact ⟨_, rfl, List.suffix_refl _, fun _ _ _ _ => rfl⟩

theorem advance : Steady Reader.advance :=
  bump.bind fun _ => skipSpace

theorem takeWhile (accept : Char → Bool) : Steady (takeWhile accept) := by
  have spans (text : List Char) : spanAccepted false accept false text =
      (text.takeWhile accept, text.dropWhile accept) := by
    induction text with
    | nil => rfl
    | cons c text ih => cases accepted : accept c <;> simp [spanAccepted, accepted, ih]
  have runs (text : List Char) (captures : Nat) (names : List (List Char)) :
      (Reader.takeWhile accept).run ⟨text, false, captures, names⟩ =
        some (text.takeWhile accept, ⟨text.dropWhile accept, false, captures, names⟩) := by
    rw [Reader.takeWhile, run_get_bind, spans]
    rfl
  intro text captures names taken after read
  rw [runs] at read
  cases read
  refine ⟨_, rfl, List.dropWhile_suffix _, fun someLeft more captures names => ?_⟩
  have splitEq := List.takeWhile_append_dropWhile (p := accept) (l := text)
  have lengthEq := congrArg List.length splitEq
  have leftLength := List.length_pos_of_ne_nil someLeft
  rw [List.length_append] at lengthEq
  rw [runs, List.takeWhile_append, List.dropWhile_append, if_neg (by omega),
    if_neg (by simpa using someLeft)]

end Steady

theorem readHexDigits_steady (count : Nat) : Steady (readHexDigits count) := by
  induction count with
  | zero => exact .pure _
  | succ count ih =>
      exact .bind .next fun c => .guarded (.bind .advance fun _ => .bind ih fun _ => .pure _)

theorem readHex_steady (count : Nat) : Steady (readHex count) := by
  refine .bind .advance fun _ => .bind .next fun c => .ite ?_ ?_
  · exact .bind .advance fun _ => .bind (.takeWhile _) fun digits => .bind .next fun d =>
      .guarded (.bind .advance fun _ => .bind (.lift _) fun _ => .pure _)
  · exact .bind (readHexDigits_steady count) fun digits => .bind (.lift _) fun _ => .pure _

theorem readProperty_steady (negated : Bool) : Steady (readProperty negated) := by
  refine .bind .advance fun _ => .bind .next fun c => .ite ?_ (.ite .failure ?_)
  · exact .bind .advance fun _ => .bind (.takeWhile _) fun name => .bind .next fun d =>
      .guarded (.bind .bump fun _ => .pure _)
  · exact .bind .advance fun _ => .pure _

theorem readBoundaryKind_steady : Steady readBoundaryKind := by
  intro text captures names kind after read
  rw [readBoundaryKind, run_get_bind] at read
  split at read
  · next noBrace =>
      cases read
      refine ⟨text, rfl, List.suffix_refl _, fun someLeft more captures names => ?_⟩
      rw [readBoundaryKind, run_get_bind, List.head?_append_of_ne_nil _ someLeft, if_pos noBrace]
      rfl
  next brace =>
  obtain ⟨rest, rfl⟩ : ∃ rest, text = '\x7b' :: rest :=
    List.head?_eq_some_iff.mp (by simpa using brace)
  rw [run_advance_bind, run_next_bind_eq_some] at read
  obtain ⟨c, others, restEq, read⟩ := read
  obtain rfl : rest = c :: others := restEq
  split at read
  · next refused =>
      rw [run_set_bind] at read
      cases read
      refine ⟨_, rfl, List.suffix_refl _, fun _ more captures names => ?_⟩
      rw [readBoundaryKind, run_get_bind, if_neg (by simp), run_advance_bind]
      refine run_next_bind_eq_some.mpr ⟨c, others ++ more, rfl, ?_⟩
      rw [if_pos refused]
      rfl
  · next accepted =>
      obtain ⟨left, rfl, leftSuffix, again⟩ := Steady.of_run read <|
        .bind (.takeWhile _) fun name => .bind .next fun d => .guarded <| .bind .bump fun _ =>
          .ite (.pure _) (.ite (.pure _) (.ite (.pure _) (.ite (.pure _) .failure)))
      refine ⟨left, rfl, leftSuffix.trans (List.suffix_cons _ _),
        fun someLeft more captures names => ?_⟩
      rw [readBoundaryKind, run_get_bind, if_neg (by simp), run_advance_bind]
      refine run_next_bind_eq_some.mpr ⟨c, others ++ more, rfl, ?_⟩
      rw [if_neg accepted]
      exact again someLeft more captures names

theorem readEscape_steady : Steady readEscape := by
  refine .bind .bump fun _ => .bind .next fun c => ?_
  refine .ite .failure (.ite (readHex_steady 2) (.ite (readHex_steady 4) (.ite (readHex_steady 8)
    (.ite (readProperty_steady false) (.ite (readProperty_steady true) ?_)))))
  refine .bind .bump fun _ => .ite (.pure _) ?_
  split
  case h_15 => exact readBoundaryKind_steady
  case h_19 => exact .failure
  all_goals exact .pure _

theorem readClassAtom_steady : Steady readClassAtom :=
  .bind .next fun _ => .ite readEscape_steady (.bind .bump fun _ => .pure _)

theorem readLeadingHyphens_steady (fuel : Nat) (items : List ClassExpr) :
    Steady (readLeadingHyphens fuel items) := by
  induction fuel generalizing items with
  | zero => exact .failure
  | succ fuel ih =>
      exact .bind .next fun _ => .ite
        (.bind .advance fun _ => .bind .next fun _ => ih _) (.pure _)

theorem readClassItem_steady : Steady readClassItem := by
  refine .bind readClassAtom_steady fun first => .bind .skipSpace fun _ => .bind .next fun c => ?_
  intro text captures names item after read
  have ahead (someTail : text.tail ≠ []) (more : List Char) :
      peekPast false (text ++ more) = peekPast false text := by
    cases text with
    | nil => exact absurd rfl someTail
    | cons d others => exact List.head?_append_of_ne_nil _ someTail
  rw [run_get_bind] at read
  simp only at read
  split at read
  · next single =>
      obtain ⟨left, rfl, leftSuffix, again⟩ := Steady.of_run read (.lift _)
      refine ⟨left, rfl, leftSuffix, fun someLeft more captures names => ?_⟩
      rw [run_get_bind]
      simp only
      rw [if_pos, again someLeft]
      by_cases hyphen : c = '-'
      · have someTail : text.tail ≠ [] := by
          intro noTail
          simp [peekPast, noTail, hyphen] at single
        rw [ahead someTail]
        exact single
      · simp [hyphen]
  · next range =>
      have someTail : text.tail ≠ [] := by
        intro noTail
        rw [run_advance_bind, run_next_bind_eq_some] at read
        obtain ⟨d, others, noMore, -⟩ := read
        cases noTail.symm.trans noMore
      obtain ⟨left, rfl, leftSuffix, again⟩ := Steady.of_run read <|
        .bind .advance fun _ => .bind .next fun _ => .bind readClassAtom_steady fun _ =>
          .bind (.lift _) fun _ => .bind (.lift _) fun _ => .guarded (.pure _)
      refine ⟨left, rfl, leftSuffix, fun someLeft more captures names => ?_⟩
      rw [run_get_bind]
      simp only
      rw [ahead someTail, if_neg range, again someLeft]

/-! ### Names of classes -/

theorem namedClassAt?_eq_some {text left : List Char} {item : ClassExpr} :
    namedClassAt? text = some (item, left) ↔ ∃ negated name kind,
      namedClass? (String.ofList name) = some kind ∧ item = .named kind negated ∧
        text = '[' :: ':' :: ((if negated then ['^'] else []) ++ (name ++ ':' :: ']' :: left)) := by
  constructor
  · intro named
    unfold namedClassAt? at named
    split at named
    · simp only at named
      split at named
      · next closeEq =>
          obtain ⟨kind, kindEq, pairEq⟩ := Option.map_eq_some_iff.mp named
          cases pairEq
          refine ⟨_, _, kind, kindEq, rfl, ?_⟩
          rw [← closeEq, List.takeWhile_append_dropWhile]
          split <;> rfl
      · cases named
    · cases named
  · rintro ⟨negated, name, kind, kindEq, rfl, rfl⟩
    have letters := letters_of_namedClass? kindEq
    have noColon : ∀ c ∈ name, (c != ':') = true := by
      intro c member
      rw [bne_iff_ne]
      rintro rfl
      exact absurd (letters ':' member) (by decide)
    have taken : (name ++ ':' :: ']' :: left).takeWhile (· != ':') = name := by
      rw [List.takeWhile_append_of_pos noColon, List.takeWhile_cons_of_neg (by decide),
        List.append_nil]
    have dropped : (name ++ ':' :: ']' :: left).dropWhile (· != ':') = ':' :: ']' :: left := by
      rw [List.dropWhile_append_of_pos noColon, List.dropWhile_cons_of_neg (by decide)]
    cases negated with
    | true => simp [namedClassAt?, taken, dropped, kindEq]
    | false =>
        have noCaret : ∀ marked, name ++ ':' :: ']' :: left ≠ '^' :: marked := by
          cases name with
          | nil => simp
          | cons c name =>
              rintro marked ⟨⟩
              exact absurd (letters '^' List.mem_cons_self) (by decide)
        generalize name ++ ':' :: ']' :: left = inner at taken dropped noCaret
        simp [namedClassAt?, taken, dropped, kindEq]

theorem suffix_of_namedClassAt? {text left : List Char} {item : ClassExpr}
    (named : namedClassAt? text = some (item, left)) : left <:+ text := by
  obtain ⟨negated, name, kind, -, -, rfl⟩ := namedClassAt?_eq_some.mp named
  exact ⟨'[' :: ':' :: ((if negated then ['^'] else []) ++ (name ++ [':', ']'])), by simp⟩

theorem namedClassAt?_append {text left : List Char} {item : ClassExpr}
    (named : namedClassAt? text = some (item, left)) (more : List Char) :
    namedClassAt? (text ++ more) = some (item, left ++ more) := by
  obtain ⟨negated, name, kind, kindEq, rfl, rfl⟩ := namedClassAt?_eq_some.mp named
  exact namedClassAt?_eq_some.mpr ⟨negated, name, kind, kindEq, rfl, by simp⟩

/-- What is no name of a class does not become one with more text behind it if a bracket
closes before that. -/
theorem namedClassAt?_append_none {text : List Char} (unnamed : namedClassAt? text = none)
    (closes : ']' ∈ text) (more : List Char) : namedClassAt? (text ++ more) = none := by
  cases named : namedClassAt? (text ++ more) with
  | none => rfl
  | some found =>
      obtain ⟨item, left⟩ := found
      obtain ⟨negated, name, kind, kindEq, rfl, textEq⟩ := namedClassAt?_eq_some.mp named
      have letters := letters_of_namedClass? kindEq
      let head := '[' :: ':' :: ((if negated then ['^'] else []) ++ (name ++ [':']))
      have noBracket : ']' ∉ head := by
        have noLetter : ']' ∉ name := fun member => absurd (letters ']' member) (by decide)
        cases negated <;> simp [head, noLetter]
      have headEq : text ++ more = head ++ ']' :: left := by simp [head, textEq]
      rcases List.append_eq_append_iff.mp headEq with ⟨behind, within, -⟩ | ⟨behind, rfl, leftEq⟩
      · exact absurd (within ▸ List.mem_append_left _ closes) noBracket
      · cases behind with
        | nil => exact absurd (by simpa using closes) noBracket
        | cons c behind =>
            obtain ⟨rfl, rfl⟩ := List.cons.inj leftEq
            have namedWithin : namedClassAt? (head ++ ']' :: behind) =
                some (.named kind negated, behind) :=
              namedClassAt?_eq_some.mpr ⟨negated, name, kind, kindEq, rfl, by simp [head]⟩
            cases unnamed.symm.trans namedWithin

/-! ### Whole classes -/

/-- What a reader reads is closed by a bracket.  So a reader with more fuel reads the same,
whatever stands behind. -/
def Closes {Value : Type} (reader wider : Reader Value) : Prop :=
  ∀ ⦃text captures names value after⦄,
    reader.run ⟨text, false, captures, names⟩ = some (value, after) →
    ∃ left, after = ⟨left, false, captures, names⟩ ∧ left <:+ text ∧ ']' ∈ text ∧
      ∀ more captures names, wider.run ⟨text ++ more, false, captures, names⟩ =
        some (value, ⟨left ++ more, false, captures, names⟩)

namespace Closes

variable {First Second : Type} {reader wider : Reader Second}

theorem of_run {text : List Char} {captures : Nat} {names : List (List Char)} {value : Second}
    {after : ReaderState} (read : reader.run ⟨text, false, captures, names⟩ = some (value, after))
    (closes : Closes reader wider) :
    ∃ left, after = ⟨left, false, captures, names⟩ ∧ left <:+ text ∧ ']' ∈ text ∧
      ∀ more captures names, wider.run ⟨text ++ more, false, captures, names⟩ =
        some (value, ⟨left ++ more, false, captures, names⟩) :=
  closes read

theorem after {first : Reader First} {further wider : First → Reader Second}
    (steady : Steady first) (closes : ∀ value, Closes (further value) (wider value)) :
    Closes (first >>= further) (first >>= wider) := by
  intro text captures names result after read
  obtain ⟨value, between, firstRead, read⟩ := run_bind_eq_some.mp read
  obtain ⟨middle, rfl, middleSuffix, firstAgain⟩ := steady firstRead
  obtain ⟨left, rfl, leftSuffix, bracket, again⟩ := closes value read
  refine ⟨left, rfl, leftSuffix.trans middleSuffix, middleSuffix.subset bracket,
    fun more captures names => ?_⟩
  exact run_bind_eq_some.mpr
    ⟨value, _, firstAgain (List.ne_nil_of_mem bracket) more captures names,
      again more captures names⟩

theorem bind {first other : Reader First} {further wider : First → Reader Second}
    (firstCloses : Closes first other) (closes : ∀ value, Closes (further value) (wider value)) :
    Closes (first >>= further) (other >>= wider) := by
  intro text captures names result after read
  obtain ⟨value, between, firstRead, read⟩ := run_bind_eq_some.mp read
  obtain ⟨middle, rfl, middleSuffix, bracket, firstAgain⟩ := firstCloses firstRead
  obtain ⟨left, rfl, leftSuffix, -, again⟩ := closes value read
  refine ⟨left, rfl, leftSuffix.trans middleSuffix, bracket, fun more captures names => ?_⟩
  exact run_bind_eq_some.mpr ⟨value, _, firstAgain more captures names, again more captures names⟩

theorem yield {first other : Reader First} (closes : Closes first other)
    (result : First → Second) :
    Closes (first >>= fun value => pure (result value))
      (other >>= fun value => pure (result value)) := by
  intro text captures names value after read
  obtain ⟨value, between, firstRead, read⟩ := run_bind_eq_some.mp read
  cases read
  obtain ⟨left, rfl, leftSuffix, bracket, again⟩ := closes firstRead
  refine ⟨left, rfl, leftSuffix, bracket, fun more captures names => ?_⟩
  exact run_bind_eq_some.mpr ⟨value, _, again more captures names, rfl⟩

theorem ite {condition : Prop} [Decidable condition] {other otherWider : Reader Second}
    (closes : Closes reader wider) (otherCloses : Closes other otherWider) :
    Closes (if condition then reader else other) (if condition then wider else otherWider) := by
  split
  · exact closes
  · exact otherCloses

theorem advanceIf {taken : Prop} [Decidable taken] (closes : Closes reader wider) :
    Closes (if taken then Reader.advance >>= fun _ => reader else reader)
      (if taken then Reader.advance >>= fun _ => wider else wider) :=
  .ite (.after .advance fun _ => closes) closes

/-- A reader with more fuel reads the same. -/
theorem widen {first other : Reader First} {further : First → Reader Second}
    (closes : Closes reader (first >>= further))
    (widens : ∀ {state result}, first.run state = some result → other.run state = some result) :
    Closes reader (other >>= further) := by
  intro text captures names value after read
  obtain ⟨left, rfl, leftSuffix, bracket, again⟩ := closes read
  refine ⟨left, rfl, leftSuffix, bracket, fun more captures names => ?_⟩
  obtain ⟨inner, between, firstRead, restRead⟩ :=
    run_bind_eq_some.mp (again more captures names)
  exact run_bind_eq_some.mpr ⟨inner, between, widens firstRead, restRead⟩

theorem failure : Closes (failure : Reader Second) wider := by
  rintro text captures names _ _ ⟨⟩

end Closes

theorem readLeadingHyphens_mono {fuel wider : Nat} (le : fuel ≤ wider) {items : List ClassExpr}
    {state : ReaderState} {result : List ClassExpr × ReaderState}
    (read : (readLeadingHyphens fuel items).run state = some result) :
    (readLeadingHyphens wider items).run state = some result := by
  induction fuel generalizing wider items state with
  | zero => cases read
  | succ fuel ih =>
      obtain ⟨wider, rfl⟩ := Nat.exists_eq_add_one.mpr (Nat.zero_lt_of_lt le)
      rw [readLeadingHyphens, run_next_bind_eq_some] at read ⊢
      obtain ⟨c, rest, restEq, read⟩ := read
      refine ⟨c, rest, restEq, ?_⟩
      split at read
      · next hyphen =>
          rw [run_advance_bind, run_next_bind_eq_some] at read
          obtain ⟨d, others, othersEq, read⟩ := read
          rw [if_pos hyphen, run_advance_bind, run_next_bind_eq_some]
          exact ⟨d, others, othersEq, ih (Nat.le_of_succ_le_succ le) read⟩
      · next noHyphen =>
          rw [if_neg noHyphen]
          exact read

/-- A class closes what it reads if its items do. -/
theorem readClass_closes_of_items {fuel wider : Nat} (le : fuel ≤ wider)
    (itemsCloses : ∀ pending items,
      Closes (readClassItems fuel pending items) (readClassItems wider pending items)) :
    Closes (readClass (fuel + 1)) (readClass (wider + 1)) := by
  rw [readClass, readClass]
  refine .after .advance fun _ => .after .next fun c => ?_
  refine .advanceIf (.widen (.after (readLeadingHyphens_steady fuel []) fun hyphens => ?_)
    (readLeadingHyphens_mono le))
  refine .after .next fun d => .ite ?_ ?_
  · exact .after .advance fun _ => .after .next fun _ => .yield (itemsCloses _ _) _
  · exact .yield (itemsCloses _ _) _

/-- The items of a class close what they read if the classes among them and the items
behind the first do. -/
theorem readClassItems_closes_of_inner {fuel wider : Nat}
    (classCloses : Closes (readClass fuel) (readClass wider))
    (itemsCloses : ∀ pending items,
      Closes (readClassItems fuel pending items) (readClassItems wider pending items))
    (pending : Option (SetOp × ClassExpr)) (items : List ClassExpr) :
    Closes (readClassItems (fuel + 1) pending items)
      (readClassItems (wider + 1) pending items) := by
  rw [readClassItems, readClassItems]
  refine .after .skipSpace fun _ => ?_
  intro text captures names inner after read
  obtain ⟨c, rest, restEq, read⟩ := run_next_bind_eq_some.mp read
  obtain rfl : text = c :: rest := restEq
  rw [run_get_bind] at read
  simp only [List.tail_cons] at read
  -- The character behind the next one is in the class, unless the class ends here.
  have ahead (opens : c ≠ ']') (bracket : ']' ∈ c :: rest) (more : List Char) :
      (rest ++ more).head? = rest.head? := by
    cases rest with
    | nil => exact absurd (List.mem_singleton.mp bracket).symm opens
    | cons d others => rfl
  have operated (op : SetOp) (left : ClassExpr) : Closes
      (bump >>= fun _ => bump >>= fun _ => readClassItems fuel (some (op, left)) [])
      (bump >>= fun _ => bump >>= fun _ => readClassItems wider (some (op, left)) []) :=
    .after .bump fun _ => .after .bump fun _ => itemsCloses _ _
  split at read
  · next nested =>
    split at read
    · next item left namedEq =>
        obtain ⟨last, rfl, suffix, bracket, again⟩ := itemsCloses _ _ read
        have leftSuffix := suffix_of_namedClassAt? namedEq
        refine ⟨last, rfl, suffix.trans leftSuffix, leftSuffix.subset bracket,
          fun more captures names => run_next_bind_eq_some.mpr ⟨c, rest ++ more, rfl, ?_⟩⟩
        rw [run_get_bind]
        simp only
        rw [if_pos nested, namedClassAt?_append namedEq]
        exact again more captures names
    · next unnamed =>
        obtain ⟨last, rfl, suffix, bracket, again⟩ :=
          Closes.bind classCloses (fun _ => itemsCloses _ _) read
        refine ⟨last, rfl, suffix, bracket,
          fun more captures names => run_next_bind_eq_some.mpr ⟨c, rest ++ more, rfl, ?_⟩⟩
        rw [run_get_bind]
        simp only
        rw [if_pos nested, namedClassAt?_append_none unnamed bracket]
        exact again more captures names
  next noNested =>
  split at read
  · next ends =>
      cases read
      refine ⟨rest, rfl, List.suffix_cons _ _, ends ▸ List.mem_cons_self,
        fun more captures names => run_next_bind_eq_some.mpr ⟨c, rest ++ more, rfl, ?_⟩⟩
      rw [run_get_bind]
      simp only
      rw [if_neg noNested, if_pos ends]
      rfl
  next opens =>
  obtain ⟨last, rfl, suffix, bracket, again⟩ := Closes.of_run read <|
    .ite (operated _ _) <| .ite (operated _ _) <| .ite (operated _ _) <|
      .after readClassItem_steady fun _ => itemsCloses _ _
  refine ⟨last, rfl, suffix, bracket,
    fun more captures names => run_next_bind_eq_some.mpr ⟨c, rest ++ more, rfl, ?_⟩⟩
  rw [run_get_bind]
  simp only [List.cons_append, List.tail_cons, ahead opens bracket]
  rw [if_neg noNested, if_neg opens]
  exact again more captures names

theorem readClass_closes {fuel wider : Nat} (le : fuel ≤ wider) :
    Closes (readClass fuel) (readClass wider) ∧ ∀ pending items,
      Closes (readClassItems fuel pending items) (readClassItems wider pending items) := by
  induction fuel generalizing wider with
  | zero => exact ⟨.failure, fun _ _ => .failure⟩
  | succ fuel ih =>
      obtain ⟨wider, rfl⟩ := Nat.exists_eq_add_one.mpr (Nat.zero_lt_of_lt le)
      have fuelLe := Nat.le_of_succ_le_succ le
      obtain ⟨classIH, itemsIH⟩ := ih fuelLe
      exact ⟨readClass_closes_of_items fuelLe itemsIH,
        readClassItems_closes_of_inner classIH itemsIH⟩

/-- A class that is read to its end is a part of a pattern. -/
theorem takes_class {text : List Char} {negated : Bool} {inner : ClassExpr} {fuel wider : Nat}
    {captures : Nat} {names : List (List Char)}
    (read : (readClass fuel).run ⟨'[' :: text, false, captures, names⟩ =
      some ((negated, inner), ⟨[], false, captures, names⟩)) (le : fuel ≤ wider) :
    Takes (readAtom wider) false [] ('[' :: text) (.bracketed negated inner) := by
  intro rest captures names _
  obtain ⟨left, leftEq, -, -, again⟩ := (readClass_closes le).1 read
  obtain rfl : [] = left := congrArg ReaderState.rest leftEq
  refine ⟨⟨rest, false, captures, names⟩, ?_, afterSpace_mk _ _⟩
  rw [readAtom, run_peek_bind, List.cons_append, List.head?_cons, if_pos rfl, run_bind_eq_some]
  exact ⟨(negated, inner), _, again rest captures names, rfl⟩

end Pattern

end Scopelight
