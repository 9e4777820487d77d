import Scopelight.Proofs.ClosingTemplates

/-!
# Quoted texts

A quoted text is a pattern for the text itself, whatever characters it has.  It has no
anchor, it is read as the row of its characters, and the plan of this row is the text.
-/

namespace Scopelight

namespace Pattern

/-- The plan that matches a text. -/
def Plan.ofText : List Char → Plan
  | [] => .empty
  | first :: rest => .text first rest

/-- A character as an expression for itself. -/
def Expr.ofChar (c : Char) : Expr :=
  .literal ⟨c, false⟩

variable {text : List Char} {captures : Nat} {names : List (List Char)}

theorem stripAnchor_quote (text : List Char) : stripAnchor (quote text) = (quote text, false) := by
  have stripped := stripAnchor_quote_append text []
  rwa [List.append_nil, stripAnchor, List.append_nil] at stripped

/-- A quoted character is a part of its own, whatever stands behind it. -/
theorem exists_takes_quoted (c : Char) :
    ∃ first more, (∀ text, quote (c :: text) = first :: more ++ quote text) ∧
      structures first = false ∧
      ∀ fuel, Takes (readAtom fuel) false [] (first :: more) (.ofChar c) := by
  cases known : isMeta c with
  | true =>
      refine ⟨'\\', [c], fun text => ?_, rfl, fun fuel => ?_⟩
      · rw [quote_cons, if_pos known]
      · exact takes_escape fuel (partOfEscape?_of_isMeta known)
  | false =>
      have noEscape : c ≠ '\\' := by rintro rfl; cases known
      have noClass : c ≠ '[' := by rintro rfl; cases known
      refine ⟨c, [], fun text => ?_, structures_of_not_isMeta known, fun fuel => ?_⟩
      · rw [quote_cons, if_neg (Bool.eq_false_iff.mp known)]
      · rw [Expr.ofChar, ← partOfChar_of_not_isMeta known]
        exact takes_char fuel noEscape noClass

/-- A quoted text is read as its characters, each by itself. -/
theorem run_readAlternatives_quote {fuel : Nat} {parts : List Expr}
    (enough : (quote text).length < fuel) :
    (readAlternatives fuel [] parts).run ⟨quote text, false, captures, names⟩ =
      some (.ofParts (parts.reverse ++ text.map .ofChar), ⟨[], false, captures, names⟩) := by
  induction text generalizing fuel parts with
  | nil =>
      obtain ⟨fuel, rfl⟩ := Nat.exists_eq_add_one_of_ne_zero (Nat.ne_zero_of_lt enough)
      rw [quote, run_readAlternatives_end (.inl rfl), List.map_nil, List.append_nil]
      rfl
  | cons c text ih =>
      obtain ⟨fuel, rfl⟩ := Nat.exists_eq_add_one_of_ne_zero (Nat.ne_zero_of_lt enough)
      obtain ⟨first, more, quoteEq, noStructure, takes⟩ := exists_takes_quoted c
      have solid : Solid false first := fun extended => by cases extended
      rw [quoteEq] at enough ⊢
      have enoughBehind : (quote text).length < fuel := by
        simp only [List.length_append, List.length_cons] at enough
        omega
      obtain ⟨after, read, same⟩ := (takes fuel).continues clear_nil captures names
      refine (run_readAlternatives_atom solid rfl noStructure).mpr
        ⟨_, after, read, ?_⟩
      rw [same, ih enoughBehind, List.reverse_cons, List.append_assoc, List.map_cons,
        List.singleton_append]

theorem depth_ofParts_ofChar (text : List Char) :
    (Expr.ofParts (text.map .ofChar)).depth ≤ 1 := by
  induction text with
  | nil => exact Nat.zero_le 1
  | cons c text ih =>
      cases text with
      | nil => exact Nat.zero_le 1
      | cons d text =>
          cases text with
          | nil => exact Nat.le_refl 1
          | cons e text => exact Nat.max_le.mpr ⟨Nat.le_refl 1, ih⟩

theorem parse?_quote (text : List Char) :
    Expr.parse? (quote text) = some (.ofParts (text.map .ofChar)) := by
  have shallow : (Expr.ofParts (text.map .ofChar)).depth ≤ depthLimit :=
    (depth_ofParts_ofChar text).trans (by decide)
  simp [Expr.parse?, run_readAlternatives_quote, shallow]

theorem branches?_ofChar (c : Char) : (Expr.ofChar c).branches? {} = some ([.text c []], {}) := by
  have setEq : Plan.ofSet (.single c.toNat) = .text c [] := by
    simp [Plan.ofSet, CharSet.single, CharSet.range, CharSet.only?]
  change some ([Plan.ofSet (.single c.toNat)], _) = _
  rw [setEq]

/-- The plans of characters in a row are joined into one text. -/
theorem branches?_ofParts_ofChar (first : Char) (rest : List Char) :
    (Expr.ofParts ((first :: rest).map .ofChar)).branches? {} = some ([.text first rest], {}) := by
  induction rest generalizing first with
  | nil => exact branches?_ofChar first
  | cons second rest ih =>
      have rowEq : Expr.ofParts ((first :: second :: rest).map .ofChar) =
          .concat (.ofChar first) (.ofParts ((second :: rest).map .ofChar)) := rfl
      simp only [rowEq, Expr.branches?, branches?_ofChar, Option.bind_eq_bind, Option.bind_some, ih]
      rfl

/-- The plan of a quoted text is the text. -/
theorem plan?_quote (text : List Char) : plan? (quote text) = some (.ofText text) := by
  rw [plan?, stripAnchor_quote, parse?_quote]
  cases text with
  | nil => rfl
  | cons first rest =>
      change (Expr.ofParts ((first :: rest).map .ofChar)).lower? {} = _
      rw [Expr.lower?, branches?_ofParts_ofChar]
      rfl

/-- A quoted text compiles to the program of the text, unless this is too large. -/
theorem compile?_quote {text : List Char} (fits : (Plan.ofText text).fits = true) :
    compile? (String.ofList (quote text)) = some (.ofPlan (.ofText text) false) := by
  obtain ⟨expr, parses, lowers⟩ := Option.bind_eq_some_iff.mp (plan?_quote text)
  rw [stripAnchor_quote] at parses
  simp [compile?, stripAnchor_quote, parses, lowers, fits]

end Pattern

end Scopelight
