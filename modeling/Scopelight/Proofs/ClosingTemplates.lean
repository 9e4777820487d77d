import Scopelight.Proofs.SupportedPatterns
import Scopelight.Proofs.ThinnedReading
import Scopelight.Proofs.WholeClasses

/-!
# Closing templates

Before anything is known about the text that a span begins with, the pattern that closes it
is checked with nothing in the place of its back-references.  Where these stand by
themselves, what is filled in later only adds literals to the pattern, so the check does
not fail for a pattern that compiles once it is filled in.
-/

namespace Scopelight

namespace Pattern

section

variable {line : List Char} {captures : List (Option (Nat × Nat))} {text rest : List Char}
  {c : Char}

/-! ### Texts without references -/

/-- There are no back-references in a text, whatever stands behind it. -/
def Kept (text : List Char) : Prop :=
  ∀ line captures rest,
    fillReferences line captures (text ++ rest) = text ++ fillReferences line captures rest

theorem fillReferences_cons (noEscape : c ≠ '\\' ∨ rest = []) :
    fillReferences line captures (c :: rest) = c :: fillReferences line captures rest := by
  rw [fillReferences.eq_2]
  rintro d others rfl rfl
  rcases noEscape with noBackslash | noMore
  · exact noBackslash rfl
  · cases noMore

theorem fillReferences_reference (reference : isReferenceDigit c = true) :
    fillReferences line captures ('\\' :: c :: rest) =
      quote (groupText line captures (c.toNat - 0x30)) ++ fillReferences line captures rest := by
  rw [fillReferences, if_pos reference]

theorem fillReferences_escape (noReference : isReferenceDigit c = false) :
    fillReferences line captures ('\\' :: c :: rest) =
      '\\' :: c :: fillReferences line captures rest := by
  rw [fillReferences, if_neg (Bool.eq_false_iff.mp noReference)]

theorem fillReferences_of_not_hasReferences (noReferences : hasReferences text = false) :
    fillReferences line captures text = text := by
  induction text using fillReferences.induct with
  | case1 c rest reference ih => simp [hasReferences, reference] at noReferences
  | case2 c rest noReference ih =>
      rw [hasReferences, Bool.or_eq_false_iff] at noReferences
      rw [fillReferences_escape noReferences.1, ih noReferences.2]
  | case3 c rest noEscape ih =>
      rw [hasReferences.eq_2 c rest noEscape] at noReferences
      rw [fillReferences.eq_2 line captures c rest noEscape, ih noReferences]
  | case4 => rfl

theorem ne_backslash_of_isWhite (white : Unicode.isWhite c = true) : c ≠ '\\' := by
  rintro rfl
  exact absurd white (by decide)

theorem kept_of_plain (noEscape : '\\' ∉ text) : Kept text := by
  intro line captures rest
  induction text with
  | nil => rfl
  | cons c text ih =>
      rw [List.mem_cons, not_or] at noEscape
      rw [List.cons_append, fillReferences_cons (.inl (Ne.symm noEscape.1)), ih noEscape.2]
      rfl

theorem kept_escape (noReference : isReferenceDigit c = false) : Kept ['\\', c] :=
  fun _ _ _ => fillReferences_escape noReference

/-- What is filled in for a text does not depend on what stands behind it. -/
def FillsApart (text : List Char) : Prop :=
  ∀ line captures rest, fillReferences line captures (text ++ rest) =
    fillReferences line captures text ++ fillReferences line captures rest

theorem Kept.fillsApart (kept : Kept text) : FillsApart text := by
  intro line captures rest
  have alone := kept line captures []
  rw [List.append_nil] at alone
  rw [kept, alone]
  exact congrArg (· ++ _) (List.append_nil text).symm

theorem fillsApart_reference (reference : isReferenceDigit c = true) :
    FillsApart ['\\', c] := by
  intro line captures rest
  change fillReferences line captures ('\\' :: c :: rest) = _
  rw [fillReferences_reference reference, fillReferences_reference reference, List.append_assoc]
  rfl

theorem FillsApart.append {other : List Char} (apart : FillsApart text)
    (otherApart : FillsApart other) : FillsApart (text ++ other) := by
  intro line captures rest
  rw [List.append_assoc, apart, otherApart, apart, List.append_assoc]

/-! ### Quoted texts -/

theorem quote_cons (c : Char) (text : List Char) :
    quote (c :: text) = (if isMeta c then ['\\', c] else [c]) ++ quote text := by
  by_cases known : isMeta c <;> simp [quote, known]

theorem isMeta_of_sign (sign : signs.contains c = true) : isMeta c = true := by
  simp only [signs, List.contains_cons, List.contains_nil, Bool.or_false, Bool.or_eq_true,
    beq_iff_eq] at sign
  rcases sign with rfl | rfl | rfl | rfl <;> rfl

theorem partOfEscape?_of_isMeta (known : isMeta c = true) :
    partOfEscape? c = some (.literal ⟨c, false⟩) := by
  simp only [isMeta, List.contains_cons, List.contains_nil, Bool.or_false, Bool.or_eq_true,
    beq_iff_eq] at known
  rcases known with rfl | rfl | rfl | rfl | rfl | rfl | rfl | rfl | rfl | rfl | rfl | rfl | rfl |
    rfl | rfl | rfl | rfl | rfl <;> rfl

theorem partOfChar_of_not_isMeta (plain : isMeta c = false) :
    partOfChar c = .literal ⟨c, false⟩ := by
  unfold partOfChar
  split
  · cases plain
  · cases plain
  · cases plain
  · rfl

theorem structures_of_not_isMeta (plain : isMeta c = false) : structures c = false := by
  by_contra structured
  rw [Bool.not_eq_false, structures, Bool.or_eq_true] at structured
  rcases structured with other | sign
  · simp only [List.contains_cons, List.contains_nil, Bool.or_false, Bool.or_eq_true,
      beq_iff_eq] at other
    rcases other with rfl | rfl | rfl <;> cases plain
  · rw [isMeta_of_sign sign] at plain
    cases plain

/-- A character is quoted by a backslash, or it is skipped as white space, or it stands for
itself. -/
theorem quoted_cases (extended : Bool) (c : Char) : isMeta c = true ∨
    isMeta c = false ∧ (extended = true ∧ Unicode.isWhite c = true ∨ Solid extended c) := by
  cases known : isMeta c with
  | true => exact .inl rfl
  | false =>
      refine .inr ⟨rfl, ?_⟩
      by_cases space : extended = true ∧ Unicode.isWhite c = true
      · exact .inl space
      · have noComment : c ≠ '#' := by rintro rfl; cases known
        exact .inr fun extendsMode =>
          ⟨Bool.eq_false_iff.mpr fun white => space ⟨extendsMode, white⟩, noComment⟩

theorem ClearBehind.quoted {extended : Bool} {barred : List Char} (known : barred ⊆ signs)
    (clear : ClearBehind extended barred rest) (text : List Char) :
    ClearBehind extended barred (quote text ++ rest) := by
  induction text with
  | nil => exact clear
  | cons c text ih =>
      rw [quote_cons, List.append_assoc]
      rcases quoted_cases extended c with escaped | ⟨plain, ⟨rfl, white⟩ | solid⟩
      · rw [if_pos escaped]
        have noSign : '\\' ∉ barred := fun member => by simpa [signs] using known member
        exact .of_notMem (fun _ => by decide) noSign
      · rw [if_neg (Bool.eq_false_iff.mp plain)]
        exact ih.skip (spaceless_white white)
      · rw [if_neg (Bool.eq_false_iff.mp plain)]
        refine .of_notMem solid fun member => ?_
        rw [isMeta_of_sign (List.contains_iff_mem.mpr (known member))] at plain
        cases plain

/-- What a quoted text adds to a pattern are literals, which can be taken out. -/
theorem ReadsThin.quoted {extended : Bool} {full thin : List Char}
    (thinClear : ClearBehind extended signs thin) (further : ReadsThin extended full thin)
    (text : List Char) : ReadsThin extended (quote text ++ full) thin := by
  induction text with
  | nil => exact further
  | cons c text ih =>
      rw [quote_cons, List.append_assoc]
      rcases quoted_cases extended c with escaped | ⟨plain, ⟨rfl, white⟩ | solid⟩
      · rw [if_pos escaped]
        have takes (fuel : Nat) :
            Takes (readAtom fuel) extended [] ['\\', c] (.literal ⟨c, false⟩) :=
          takes_escape fuel (partOfEscape?_of_isMeta escaped)
        exact .drop rfl (fun _ => by decide) takes thinClear ih
      · rw [if_neg (Bool.eq_false_iff.mp plain)]
        exact .skipFull (spaceless_white white) ih
      · rw [if_neg (Bool.eq_false_iff.mp plain)]
        have noEscape : c ≠ '\\' := by rintro rfl; cases plain
        have noClass : c ≠ '[' := by rintro rfl; cases plain
        have takes (fuel : Nat) : Takes (readAtom fuel) extended [] [c] (.literal ⟨c, false⟩) :=
          partOfChar_of_not_isMeta plain ▸ takes_char fuel noEscape noClass
        exact .drop (structures_of_not_isMeta plain) solid takes thinClear ih

/-! ### Freestanding references -/

/-- The back-references of a closing pattern stand by themselves: outside of classes,
escapes, comments and the heads of groups, and not before the sign of a repetition.  The
flag says whether the extended mode is on at the start of the text. -/
inductive Freestanding : Bool → List Char → Prop where
  | nil {extended : Bool} : Freestanding extended []
  | blank {c : Char} {rest : List Char} (white : Unicode.isWhite c = true)
      (further : Freestanding true rest) : Freestanding true (c :: rest)
  | comment {text rest : List Char} (inline : '\n' ∉ text)
      (kept : Kept ('#' :: text ++ ['\n'])) (further : Freestanding true rest) :
      Freestanding true ('#' :: text ++ ['\n'] ++ rest)
  | bar {extended : Bool} {rest : List Char} (further : Freestanding extended rest) :
      Freestanding extended ('|' :: rest)
  | atom {extended : Bool} {barred : List Char} {c : Char} {more rest : List Char} {part : Expr}
      (noStructure : structures c = false) (solid : Solid extended c)
      (takes : ∀ fuel, (c :: more).length ≤ fuel →
        Takes (readAtom fuel) extended barred (c :: more) part)
      (kept : Kept (c :: more)) (known : barred ⊆ signs) (clear : Clear extended barred rest)
      (further : Freestanding extended rest) : Freestanding extended (c :: more ++ rest)
  | repetition {extended : Bool} {barred : List Char} {c : Char} {more rest : List Char}
      {copies : (Nat × Option Nat) × Bool} (sign : signs.contains c = true)
      (takes : Takes readRepetition extended barred (c :: more) copies)
      (kept : Kept (c :: more)) (known : barred ⊆ signs) (clear : Clear extended barred rest)
      (further : Freestanding extended rest) : Freestanding extended (c :: more ++ rest)
  | reference {extended : Bool} {digit : Char} {rest : List Char}
      (reference : isReferenceDigit digit = true) (clear : Clear extended signs rest)
      (further : Freestanding extended rest) : Freestanding extended ('\\' :: digit :: rest)
  | modes {extended : Bool} {more rest : List Char} {change : ModeChange}
      (switches : Switches extended ('(' :: more) (.modes change)) (kept : Kept ('(' :: more))
      (further : Freestanding ((change.value? .extended).getD extended) rest) :
      Freestanding extended ('(' :: more ++ rest)
  | capture {extended : Bool} {barred more body rest : List Char}
      {name? : List (List Char) → Option (List (List Char))}
      (opens : Opens extended barred ('(' :: more) name?) (kept : Kept ('(' :: more))
      (known : barred ⊆ signs) (clear : Clear extended barred body)
      (inside : Freestanding extended body) (further : Freestanding extended rest) :
      Freestanding extended ('(' :: more ++ (body ++ ')' :: rest))
  | group {extended : Bool} {more body rest : List Char} {change : ModeChange}
      (switches : Switches extended ('(' :: more) (.group change)) (kept : Kept ('(' :: more))
      (inside : Freestanding ((change.value? .extended).getD extended) body)
      (further : Freestanding extended rest) :
      Freestanding extended ('(' :: more ++ (body ++ ')' :: rest))

namespace Freestanding

variable {extended : Bool} {closing barred : List Char}

/-- A character that means something by itself, or just itself, needs nothing behind it. -/
theorem char {c : Char} (noStructure : structures c = false) (solid : Solid extended c)
    (noEscape : c ≠ '\\') (noClass : c ≠ '[') (further : Freestanding extended closing) :
    Freestanding extended (c :: closing) :=
  .atom noStructure solid (fun fuel _ => takes_char fuel noEscape noClass)
    (kept_of_plain (by simpa using noEscape.symm)) (List.nil_subset _) clear_nil further

theorem bracketed {text : List Char} {negated : Bool} {inner : ClassExpr}
    (read : (readClass (text.length + 1)).run ⟨'[' :: text, false, 0, []⟩ =
      some ((negated, inner), ⟨[], false, 0, []⟩))
    (kept : Kept ('[' :: text)) (further : Freestanding false closing) :
    Freestanding false ('[' :: text ++ closing) :=
  .atom rfl (by decide) (fun _ enough => takes_class read enough) kept (List.nil_subset _)
    clear_nil further

/-- A sign for any number of copies, of which more are preferred. -/
theorem sign {c : Char} (sign : signs.contains c = true) (uncounted : c ≠ '\x7b')
    (greedy : Clear extended ['?'] closing) (further : Freestanding extended closing) :
    Freestanding extended (c :: closing) := by
  have noEscape : c ≠ '\\' := by rintro rfl; cases sign
  exact .repetition sign (takes_sign uncounted) (kept_of_plain (by simpa using noEscape.symm))
    (by decide) greedy further

theorem fillsApart (free : Freestanding extended closing) : FillsApart closing := by
  have one {c : Char} (noEscape : c ≠ '\\') : FillsApart [c] :=
    (kept_of_plain (by simpa using noEscape.symm)).fillsApart
  induction free with
  | nil => exact fun _ _ _ => rfl
  | blank white _ ih => exact (one (ne_backslash_of_isWhite white)).append ih
  | comment _ kept _ ih => exact kept.fillsApart.append ih
  | bar _ ih => exact (one (by decide)).append ih
  | atom _ _ _ kept _ _ _ ih => exact kept.fillsApart.append ih
  | repetition _ _ kept _ _ _ ih => exact kept.fillsApart.append ih
  | reference reference _ _ ih => exact (fillsApart_reference reference).append ih
  | modes _ kept _ ih => exact kept.fillsApart.append ih
  | capture _ kept _ _ _ _ insideIH furtherIH =>
      exact kept.fillsApart.append (insideIH.append ((one (by decide)).append furtherIH))
  | group _ kept _ _ insideIH furtherIH =>
      exact kept.fillsApart.append (insideIH.append ((one (by decide)).append furtherIH))

/-- What is barred behind a part of the pattern is barred behind it once the pattern is
filled in. -/
theorem clearBehind (free : Freestanding extended closing) (known : barred ⊆ signs)
    (clear : Clear extended barred closing) :
    ClearBehind extended barred (fillReferences line captures closing) := by
  have noEnd : ')' ∉ barred := fun member => by simpa [signs] using known member
  have solidStart {extended : Bool} {c : Char} {more filled : List Char} (solid : Solid extended c)
      (clear : Clear extended barred (c :: more)) : ClearBehind extended barred (c :: filled) :=
    .of_notMem solid ((clear_cons solid).mp clear)
  induction free with
  | nil => exact .nil noEnd
  | blank white _ ih =>
      rw [Clear, spaceless_white white] at clear
      rw [fillReferences_cons (.inl (ne_backslash_of_isWhite white)), ← List.singleton_append]
      exact (ih clear).skip (spaceless_white white)
  | comment inline kept _ ih =>
      rw [Clear, spaceless_comment inline] at clear
      rw [kept]
      exact (ih clear).skip (spaceless_comment inline)
  | bar _ ih =>
      rw [fillReferences_cons (.inl (by decide))]
      exact solidStart (fun _ => by decide) clear
  | atom _ solid _ kept _ _ _ ih =>
      rw [kept]
      exact solidStart solid clear
  | repetition sign _ kept _ _ _ ih =>
      rw [kept]
      exact solidStart (solid_of_sign sign) clear
  | reference reference behind _ ih =>
      rw [fillReferences_reference reference]
      exact .quoted known (ih fun sign member => behind sign (known member)) _
  | modes _ kept _ ih =>
      rw [kept]
      exact solidStart solid_parenthesis clear
  | capture _ kept _ _ _ _ insideIH furtherIH =>
      rw [kept]
      exact solidStart solid_parenthesis clear
  | group _ kept _ _ insideIH furtherIH =>
      rw [kept]
      exact solidStart solid_parenthesis clear

/-- Reading the pattern with nothing filled in thins what is read of it with the groups of a
match filled in. -/
theorem readsThin (free : Freestanding extended closing) :
    ReadsThin extended (fillReferences line captures closing) (fillReferences [] [] closing) := by
  induction free with
  | nil => exact .nil
  | blank white _ ih =>
      rw [fillReferences_cons (.inl (ne_backslash_of_isWhite white)),
        fillReferences_cons (.inl (ne_backslash_of_isWhite white))]
      change ReadsThin true ([_] ++ _) ([_] ++ _)
      exact .skipThin (spaceless_white white) (.skipFull (spaceless_white white) ih)
  | comment inline kept _ ih =>
      rw [kept, kept]
      exact .skipThin (spaceless_comment inline) (.skipFull (spaceless_comment inline) ih)
  | bar _ ih =>
      rw [fillReferences_cons (.inl (by decide)), fillReferences_cons (.inl (by decide))]
      exact ih.bar
  | atom noStructure solid takes kept known clear further ih =>
      rw [kept, kept]
      exact .atom noStructure solid takes (further.clearBehind known clear)
        (further.clearBehind known clear) ih
  | repetition sign takes kept known clear further ih =>
      rw [kept, kept]
      exact .repetition sign takes (further.clearBehind known clear)
        (further.clearBehind known clear) ih
  | reference reference clear further ih =>
      rw [fillReferences_reference reference, fillReferences_reference reference]
      exact .quoted (further.clearBehind (List.Subset.refl _) clear) ih _
  | modes switches kept _ ih =>
      rw [kept, kept]
      exact ih.modes switches
  | capture opens kept known clear inside further insideIH furtherIH =>
      rw [kept, kept, inside.fillsApart, inside.fillsApart,
        fillReferences_cons (.inl (by decide)), fillReferences_cons (.inl (by decide))]
      exact .capture opens (inside.clearBehind known clear) (inside.clearBehind known clear)
        insideIH furtherIH
  | group switches kept inside further insideIH furtherIH =>
      rw [kept, kept, inside.fillsApart, inside.fillsApart,
        fillReferences_cons (.inl (by decide)), fillReferences_cons (.inl (by decide))]
      exact .group switches insideIH furtherIH

end Freestanding

/-! ### Plans -/

/-- A quoted text has no anchor. -/
theorem stripAnchor_quote_append (text rest : List Char) :
    stripAnchor (quote text ++ rest) =
      (quote text ++ (stripAnchor rest).1, (stripAnchor rest).2) := by
  induction text with
  | nil => rfl
  | cons c text ih =>
      rw [quote_cons, List.append_assoc, List.append_assoc]
      by_cases known : isMeta c = true
      · have noAnchor : c ≠ 'G' := by rintro rfl; cases known
        rw [if_pos known, List.cons_append, List.singleton_append, stripAnchor, ih]
        exact if_neg noAnchor
      · have noEscape : ∀ d others, c = '\\' → quote text ++ rest = d :: others → False := by
          rintro d others rfl
          exact absurd rfl known
        rw [if_neg known, List.singleton_append, stripAnchor.eq_2 _ _ noEscape, ih]
        rfl

/-- Anchors can be taken out before references are filled in. -/
theorem stripAnchor_fillReferences (text : List Char) :
    (stripAnchor (fillReferences line captures text)).1 =
      fillReferences line captures (stripAnchor text).1 := by
  induction text using fillReferences.induct with
  | case1 c rest reference ih =>
      have noAnchor : c ≠ 'G' := by rintro rfl; exact absurd reference (by decide)
      rw [fillReferences_reference reference, stripAnchor_quote_append, ih, stripAnchor_escape,
        if_neg noAnchor, fillReferences_reference reference]
  | case2 c rest noReference ih =>
      rw [Bool.not_eq_true] at noReference
      rw [fillReferences_escape noReference, stripAnchor_escape, stripAnchor_escape, ih]
      split
      · rfl
      · rw [fillReferences_escape noReference]
  | case3 c rest noEscape ih =>
      have unescaped : c ≠ '\\' ∨ rest = [] := by
        cases rest with
        | nil => exact .inr rfl
        | cons d rest => exact .inl fun backslash => noEscape d rest backslash rfl
      have filled : c ≠ '\\' ∨ fillReferences line captures rest = [] :=
        unescaped.imp_right fun ended => by rw [ended]; rfl
      have stripped : c ≠ '\\' ∨ (stripAnchor rest).1 = [] :=
        unescaped.imp_right fun ended => by rw [ended]; rfl
      rw [fillReferences_cons unescaped, stripAnchor_cons filled, stripAnchor_cons unescaped,
        fillReferences_cons stripped, ih]
  | case4 => rfl

/-- The plan of a pattern, whatever its size. -/
def plan? (text : List Char) : Option Plan := do
  (← Expr.parse? (stripAnchor text).1).lower? {}

theorem compile?_eq_some_iff {text : String} : (∃ compiled, compile? text = some compiled) ↔
    ∃ plan, plan? text.toList = some plan ∧ plan.fits = true := by
  have compileEq : compile? text = (plan? text.toList).bind fun plan =>
      if plan.fits then some (.ofPlan plan (stripAnchor text.toList).2) else none := by
    simp only [compile?, plan?, Option.bind_eq_bind, Option.bind_assoc]
  rw [compileEq]
  cases plan? text.toList with
  | none => simp
  | some plan => cases fitsEq : plan.fits <;> simp [fitsEq]

/-- A closing pattern has a plan with nothing filled in if it has one for some match. -/
theorem Freestanding.plan? {closing : List Char}
    (free : Freestanding false (stripAnchor closing).1) {plan : Plan}
    (means : plan? (fillReferences line captures closing) = some plan) :
    ∃ thin, plan? (fillReferences [] [] closing) = some thin := by
  obtain ⟨expr, parses, lowers⟩ := Option.bind_eq_some_iff.mp means
  rw [stripAnchor_fillReferences] at parses
  obtain ⟨thinExpr, thinParses, thins⟩ := free.readsThin.parse? parses
  obtain ⟨thin, thinLowers⟩ := thins.lower? lowers
  refine ⟨thin, ?_⟩
  rw [Pattern.plan?, stripAnchor_fillReferences, thinParses]
  exact thinLowers

end

end Pattern

end Scopelight
