import Scopelight.Proofs.PatternParts
import Scopelight.Proofs.ThinnedExpressions

/-!
# Reading thinned patterns

A pattern is thinned if quoted characters are taken out of it at places where they stand by
themselves.  Reading what is left takes the same turns as reading the whole pattern, but
for those that take the quoted characters, and gives a thinned expression.
-/

namespace Scopelight

namespace Pattern

open Reader

/-- None of some characters stands first behind the space at the start of a text, however
the group ends that the text stands in. -/
def ClearBehind (extended : Bool) (barred text : List Char) : Prop :=
  ∀ tail, Ends tail → Clear extended barred (text ++ tail)

theorem clear_cons {extended : Bool} {barred rest : List Char} {c : Char}
    (solid : Solid extended c) : Clear extended barred (c :: rest) ↔ c ∉ barred := by
  simp only [Clear, solid.spaceless, List.head?_cons, ne_eq, Option.some.injEq]
  exact ⟨fun clear member => clear c member rfl, fun noSign _ member same => noSign (same ▸ member)⟩

namespace ClearBehind

variable {extended : Bool} {barred rest : List Char} {c : Char}

theorem of_notMem (solid : Solid extended c) (noSign : c ∉ barred) :
    ClearBehind extended barred (c :: rest) :=
  fun _ _ => (clear_cons solid).mpr noSign

theorem nil (noEnd : ')' ∉ barred) : ClearBehind extended barred [] := by
  rintro _ (rfl | ⟨rest, rfl⟩)
  · cases extended <;> simp [Clear, spaceless, dropSpace]
  · exact (clear_cons fun _ => by decide).mpr noEnd

theorem skip {space : List Char} (clear : ClearBehind extended barred rest)
    (skipped : ∀ text, spaceless extended (space ++ text) = spaceless extended text) :
    ClearBehind extended barred (space ++ rest) := by
  intro tail ends
  rw [List.append_assoc, Clear, skipped]
  exact clear tail ends

end ClearBehind

/-- What two readings have read so far, before a text that the second one reads next.  If
that starts with the sign of a repetition, the sign repeats the same part in both. -/
structure SoFar (extended : Bool) (next : List Char)
    (branches parts thinBranches thinParts : List Expr) : Prop where
  branches : List.Forall₂ Expr.Thins branches thinBranches
  row : Expr.ThinsRow parts thinParts
  operand : Clear extended signs next ∨ parts = [] ∨
    ∃ part others thin thinOthers, parts = part :: others ∧ thinParts = thin :: thinOthers ∧
      Expr.Keeps part thin ∧ Expr.ThinsRow others thinOthers

/-- Where the first text is read as a pattern, the second one is read too, up to the same
end, and gives what is left of the same expression. -/
def ReadsThin (extended : Bool) (full thin : List Char) : Prop :=
  ∀ ⦃fuel thinFuel captures names branches parts thinBranches thinParts tail thinTail expr after⦄,
    Ends tail → Ends thinTail →
    (full ++ tail).length < fuel → (thin ++ thinTail).length < thinFuel →
    SoFar extended (thin ++ thinTail) branches parts thinBranches thinParts →
    (readAlternatives fuel branches parts).run ⟨full ++ tail, extended, captures, names⟩ =
      some (expr, after) →
    ∃ thinExpr last lastCaptures lastNames, after = ⟨tail, last, lastCaptures, lastNames⟩ ∧
      (readAlternatives thinFuel thinBranches thinParts).run
          ⟨thin ++ thinTail, extended, captures, names⟩ =
        some (thinExpr, ⟨thinTail, last, lastCaptures, lastNames⟩) ∧
      expr.Thins thinExpr

section

variable {extended : Bool} {branches parts thinBranches thinParts : List Expr}
  {next barred full thin more : List Char} {c : Char} {part : Expr}

namespace SoFar

theorem congr {next' : List Char} (same : spaceless extended next = spaceless extended next')
    (soFar : SoFar extended next branches parts thinBranches thinParts) :
    SoFar extended next' branches parts thinBranches thinParts := by
  refine ⟨soFar.branches, soFar.row, soFar.operand.imp_left fun clear => ?_⟩
  rwa [Clear, ← same]

theorem start : SoFar extended next [] [] [] [] :=
  ⟨.nil, .nil, .inr (.inl rfl)⟩

theorem keep {extended' : Bool} {next' : List Char} {thinPart : Expr}
    (soFar : SoFar extended next branches parts thinBranches thinParts)
    (keeps : part.Keeps thinPart) :
    SoFar extended' next' branches (part :: parts) thinBranches (thinPart :: thinParts) :=
  ⟨soFar.branches, .keep keeps soFar.row, .inr (.inr ⟨_, _, _, _, rfl, rfl, keeps, soFar.row⟩)⟩

theorem drop (soFar : SoFar extended next branches parts thinBranches thinParts)
    (clear : Clear extended signs next) (value : Literal) :
    SoFar extended next branches (.literal value :: parts) thinBranches thinParts :=
  ⟨soFar.branches, .drop value soFar.row, .inl clear⟩

theorem branch {next' : List Char}
    (soFar : SoFar extended next branches parts thinBranches thinParts) :
    SoFar extended next' (Expr.ofParts parts.reverse :: branches) []
      (Expr.ofParts thinParts.reverse :: thinBranches) [] :=
  ⟨.cons soFar.row.reverse.ofParts soFar.branches, .nil, .inr (.inl rfl)⟩

theorem ofBranches (soFar : SoFar extended next branches parts thinBranches thinParts) :
    (Expr.ofBranches (Expr.ofParts parts.reverse :: branches).reverse).Thins
      (Expr.ofBranches (Expr.ofParts thinParts.reverse :: thinBranches).reverse) :=
  Expr.thins_ofBranches <| List.forall₂_reverse_iff.mpr <|
    .cons soFar.row.reverse.ofParts soFar.branches

theorem repeated {next' : List Char} {operand : Expr} {others : List Expr}
    (soFar : SoFar extended next branches parts thinBranches thinParts)
    (signed : ¬Clear extended signs next) (taken : takeOperand parts = some (operand, others))
    (least : Nat) (most : Option Nat) (greedy : Bool) :
    ∃ thin thinOthers, takeOperand thinParts = some (thin, thinOthers) ∧
      SoFar extended next' branches (.repeated operand least most greedy :: others)
        thinBranches (.repeated thin least most greedy :: thinOthers) := by
  rcases soFar.operand with clear | rfl | ⟨part, others', thin, thinOthers, rfl, rfl, keeps, row⟩
  · exact absurd clear signed
  · cases taken
  · obtain ⟨rfl, rfl, thinTaken⟩ := keeps.takeOperand thinOthers taken
    have kept := Expr.Keeps.repeated least most greedy keeps.thins
    exact ⟨thin, thinOthers, thinTaken, soFar.branches, .keep kept row,
      .inr (.inr ⟨_, _, _, _, rfl, rfl, kept, row⟩)⟩

end SoFar

/-- A turn that takes a text leaves enough fuel for what stands behind it. -/
theorem enough_of_lt {text tail : List Char} {fuel : Nat}
    (enough : ((c :: more ++ text) ++ tail).length < fuel + 1) :
    (c :: more).length ≤ fuel ∧ (text ++ tail).length < fuel := by
  simp only [List.length_append, List.length_cons] at enough ⊢
  omega

namespace ReadsThin

theorem nil : ReadsThin extended [] [] := by
  intro fuel thinFuel captures names branches parts thinBranches thinParts tail thinTail expr after
    ends thinEnds enough thinEnough soFar read
  obtain ⟨fuel, rfl⟩ := Nat.exists_eq_add_one_of_ne_zero (Nat.ne_zero_of_lt enough)
  obtain ⟨thinFuel, rfl⟩ := Nat.exists_eq_add_one_of_ne_zero (Nat.ne_zero_of_lt thinEnough)
  rw [List.nil_append, run_readAlternatives_end ends] at read
  cases read
  exact ⟨_, _, _, _, rfl, run_readAlternatives_end thinEnds, soFar.ofBranches⟩

theorem skipFull {space : List Char}
    (skipped : ∀ text, spaceless extended (space ++ text) = spaceless extended text)
    (further : ReadsThin extended full thin) : ReadsThin extended (space ++ full) thin := by
  intro fuel thinFuel captures names branches parts thinBranches thinParts tail thinTail expr after
    ends thinEnds enough thinEnough soFar read
  rw [List.append_assoc] at read enough
  rw [run_readAlternatives_of_spaceless (skipped _)] at read
  rw [List.length_append] at enough
  exact further ends thinEnds (by omega) thinEnough soFar read

theorem skipThin {space : List Char}
    (skipped : ∀ text, spaceless extended (space ++ text) = spaceless extended text)
    (further : ReadsThin extended full thin) : ReadsThin extended full (space ++ thin) := by
  intro fuel thinFuel captures names branches parts thinBranches thinParts tail thinTail expr after
    ends thinEnds enough thinEnough soFar read
  rw [List.append_assoc] at soFar thinEnough
  rw [List.length_append] at thinEnough
  rw [List.append_assoc, run_readAlternatives_of_spaceless (skipped _)]
  exact further ends thinEnds enough (by omega) (soFar.congr (skipped _)) read

theorem bar (further : ReadsThin extended full thin) :
    ReadsThin extended ('|' :: full) ('|' :: thin) := by
  intro fuel thinFuel captures names branches parts thinBranches thinParts tail thinTail expr after
    ends thinEnds enough thinEnough soFar read
  obtain ⟨fuel, rfl⟩ := Nat.exists_eq_add_one_of_ne_zero (Nat.ne_zero_of_lt enough)
  obtain ⟨thinFuel, rfl⟩ := Nat.exists_eq_add_one_of_ne_zero (Nat.ne_zero_of_lt thinEnough)
  have solid : Solid extended '|' := fun _ => by decide
  rw [run_readAlternatives_bar solid rfl rfl] at read
  rw [run_readAlternatives_bar solid rfl rfl]
  exact further ends thinEnds (Nat.lt_of_succ_lt_succ enough)
    (Nat.lt_of_succ_lt_succ thinEnough) soFar.branch read

theorem atom (noStructure : structures c = false) (solid : Solid extended c)
    (takes : ∀ fuel, (c :: more).length ≤ fuel →
      Takes (readAtom fuel) extended barred (c :: more) part)
    (clear : ClearBehind extended barred full) (thinClear : ClearBehind extended barred thin)
    (further : ReadsThin extended full thin) :
    ReadsThin extended (c :: more ++ full) (c :: more ++ thin) := by
  intro fuel thinFuel captures names branches parts thinBranches thinParts tail thinTail expr after
    ends thinEnds enough thinEnough soFar read
  obtain ⟨fuel, rfl⟩ := Nat.exists_eq_add_one_of_ne_zero (Nat.ne_zero_of_lt enough)
  obtain ⟨thinFuel, rfl⟩ := Nat.exists_eq_add_one_of_ne_zero (Nat.ne_zero_of_lt thinEnough)
  rw [List.append_assoc] at read
  obtain ⟨textLe, enough⟩ := enough_of_lt enough
  obtain ⟨thinTextLe, thinEnough⟩ := enough_of_lt thinEnough
  obtain ⟨part', between, atomRead, read⟩ :=
    (run_readAlternatives_atom solid rfl noStructure).mp read
  obtain ⟨after', takesRead, continues⟩ :=
    (takes fuel textLe).continues (clear tail ends) captures names
  cases atomRead.symm.trans takesRead
  rw [continues] at read
  obtain ⟨thinExpr, last, lastCaptures, lastNames, afterEq, thinRead, thins⟩ :=
    further ends thinEnds enough thinEnough
      (soFar.keep (.same part)) read
  refine ⟨thinExpr, last, lastCaptures, lastNames, afterEq, ?_, thins⟩
  obtain ⟨thinAfter, thinTakesRead, thinContinues⟩ :=
    (takes thinFuel thinTextLe).continues (thinClear thinTail thinEnds) captures names
  rw [List.append_assoc]
  refine (run_readAlternatives_atom solid rfl noStructure).mpr
    ⟨part, thinAfter, thinTakesRead, ?_⟩
  rw [thinContinues, thinRead]

/-- A literal is taken out where no sign of a repetition stands behind it. -/
theorem drop {value : Literal} (noStructure : structures c = false) (solid : Solid extended c)
    (takes : ∀ fuel, Takes (readAtom fuel) extended [] (c :: more) (.literal value))
    (thinClear : ClearBehind extended signs thin) (further : ReadsThin extended full thin) :
    ReadsThin extended (c :: more ++ full) thin := by
  intro fuel thinFuel captures names branches parts thinBranches thinParts tail thinTail expr after
    ends thinEnds enough thinEnough soFar read
  obtain ⟨fuel, rfl⟩ := Nat.exists_eq_add_one_of_ne_zero (Nat.ne_zero_of_lt enough)
  rw [List.append_assoc] at read
  obtain ⟨-, enough⟩ := enough_of_lt enough
  obtain ⟨part', between, atomRead, read⟩ :=
    (run_readAlternatives_atom solid rfl noStructure).mp read
  obtain ⟨after', takesRead, continues⟩ := (takes fuel).continues clear_nil captures names
  cases atomRead.symm.trans takesRead
  rw [continues] at read
  exact further ends thinEnds enough thinEnough
    (soFar.drop (thinClear thinTail thinEnds) value) read

theorem repetition {copies : (Nat × Option Nat) × Bool} (sign : signs.contains c = true)
    (takes : Takes readRepetition extended barred (c :: more) copies)
    (clear : ClearBehind extended barred full) (thinClear : ClearBehind extended barred thin)
    (further : ReadsThin extended full thin) :
    ReadsThin extended (c :: more ++ full) (c :: more ++ thin) := by
  intro fuel thinFuel captures names branches parts thinBranches thinParts tail thinTail expr after
    ends thinEnds enough thinEnough soFar read
  obtain ⟨fuel, rfl⟩ := Nat.exists_eq_add_one_of_ne_zero (Nat.ne_zero_of_lt enough)
  obtain ⟨thinFuel, rfl⟩ := Nat.exists_eq_add_one_of_ne_zero (Nat.ne_zero_of_lt thinEnough)
  rw [List.append_assoc] at read soFar
  obtain ⟨-, enough⟩ := enough_of_lt enough
  obtain ⟨-, thinEnough⟩ := enough_of_lt thinEnough
  have solid : Solid extended c := solid_of_sign sign
  have signed : ¬Clear extended signs (c :: more ++ (thin ++ thinTail)) := by
    intro clear
    exact clear.head_ne (List.contains_iff_mem.mp sign) solid rfl
  obtain ⟨operand, others, copies', between, taken, signRead, read⟩ :=
    (run_readAlternatives_sign solid rfl sign).mp read
  obtain ⟨after', takesRead, continues⟩ := takes.continues (clear tail ends) captures names
  cases signRead.symm.trans takesRead
  rw [continues] at read
  obtain ⟨thinOperand, thinOthers, thinTaken, repeated⟩ := soFar.repeated signed taken
    copies.1.1 copies.1.2 copies.2
  obtain ⟨thinExpr, last, lastCaptures, lastNames, afterEq, thinRead, thins⟩ :=
    further ends thinEnds enough thinEnough
      repeated read
  refine ⟨thinExpr, last, lastCaptures, lastNames, afterEq, ?_, thins⟩
  obtain ⟨thinAfter, thinTakesRead, thinContinues⟩ :=
    takes.continues (thinClear thinTail thinEnds) captures names
  rw [List.append_assoc]
  refine (run_readAlternatives_sign solid rfl sign).mpr
    ⟨thinOperand, thinOthers, copies, thinAfter, thinTaken, thinTakesRead, ?_⟩
  rw [thinContinues, thinRead]

/-- The mode after a change of modes. -/
theorem modes {change : ModeChange} (switches : Switches extended ('(' :: more) (.modes change))
    (further : ReadsThin ((change.value? .extended).getD extended) full thin) :
    ReadsThin extended ('(' :: more ++ full) ('(' :: more ++ thin) := by
  intro fuel thinFuel captures names branches parts thinBranches thinParts tail thinTail expr after
    ends thinEnds enough thinEnough soFar read
  obtain ⟨fuel, rfl⟩ := Nat.exists_eq_add_one_of_ne_zero (Nat.ne_zero_of_lt enough)
  obtain ⟨thinFuel, rfl⟩ := Nat.exists_eq_add_one_of_ne_zero (Nat.ne_zero_of_lt thinEnough)
  rw [List.append_assoc] at read
  obtain ⟨textLe, enough⟩ := enough_of_lt enough
  obtain ⟨thinTextLe, thinEnough⟩ := enough_of_lt thinEnough
  obtain ⟨head, between, headRead, read⟩ :=
    (run_readAlternatives_group solid_parenthesis rfl rfl).mp read
  cases headRead.symm.trans (switches _ captures names)
  obtain ⟨thinExpr, last, lastCaptures, lastNames, afterEq, thinRead, thins⟩ :=
    further ends thinEnds enough thinEnough
      (soFar.keep (.same (.modes change))) read
  refine ⟨thinExpr, last, lastCaptures, lastNames, afterEq, ?_, thins⟩
  rw [List.append_assoc]
  exact (run_readAlternatives_group solid_parenthesis rfl rfl).mpr
    ⟨_, _, switches _ captures names, thinRead⟩

/-- The body of a group is read up to its parenthesis, and then what stands behind it. -/
theorem closed {inner : Bool} {body thinBody rest thinRest tail thinTail : List Char}
    {fuel thinFuel captures : Nat} {names : List (List Char)} {expr : Expr} {after : ReaderState}
    {wrap : Expr → Expr}
    (keeps : ∀ {body thin : Expr}, body.Thins thin → (wrap body).Keeps (wrap thin))
    (inside : ReadsThin inner body thinBody) (further : ReadsThin extended rest thinRest)
    (ends : Ends tail) (thinEnds : Ends thinTail)
    (enough : ((body ++ ')' :: rest) ++ tail).length < fuel)
    (thinEnough : ((thinBody ++ ')' :: thinRest) ++ thinTail).length < thinFuel)
    (soFar : SoFar extended next branches parts thinBranches thinParts)
    (read : ∃ bodyExpr state left,
      (readAlternatives fuel [] []).run
          ⟨(body ++ ')' :: rest) ++ tail, inner, captures, names⟩ = some (bodyExpr, state) ∧
        state.rest = ')' :: left ∧
        (readAlternatives fuel branches (wrap bodyExpr :: parts)).run
          { state with rest := left, extended } = some (expr, after)) :
    ∃ thinExpr last lastCaptures lastNames, after = ⟨tail, last, lastCaptures, lastNames⟩ ∧
      (∃ bodyExpr state left,
        (readAlternatives thinFuel [] []).run
            ⟨(thinBody ++ ')' :: thinRest) ++ thinTail, inner, captures, names⟩ =
              some (bodyExpr, state) ∧
          state.rest = ')' :: left ∧
          (readAlternatives thinFuel thinBranches (wrap bodyExpr :: thinParts)).run
            { state with rest := left, extended } =
              some (thinExpr, ⟨thinTail, last, lastCaptures, lastNames⟩)) ∧
      expr.Thins thinExpr := by
  simp only [List.append_assoc, List.cons_append] at read enough thinEnough ⊢
  obtain ⟨bodyExpr, state, left, bodyRead, leftEq, read⟩ := read
  obtain ⟨thinBodyExpr, bodyMode, bodyCaptures, bodyNames, rfl, thinBodyRead, bodyThins⟩ :=
    inside (.inr ⟨_, rfl⟩) (.inr ⟨thinRest ++ thinTail, rfl⟩) enough thinEnough .start bodyRead
  obtain rfl := (List.cons.inj leftEq).2
  simp only [List.length_append, List.length_cons] at enough thinEnough
  have restEnough : (rest ++ tail).length < fuel := by rw [List.length_append]; omega
  have thinRestEnough : (thinRest ++ thinTail).length < thinFuel := by
    rw [List.length_append]
    omega
  obtain ⟨thinExpr, last, lastCaptures, lastNames, afterEq, thinRead, thins⟩ :=
    further ends thinEnds restEnough thinRestEnough (soFar.keep (keeps bodyThins)) read
  exact ⟨thinExpr, last, lastCaptures, lastNames, afterEq,
    ⟨thinBodyExpr, _, _, thinBodyRead, rfl, thinRead⟩, thins⟩

theorem capture {name? : List (List Char) → Option (List (List Char))}
    {body thinBody rest thinRest : List Char} (opens : Opens extended barred ('(' :: more) name?)
    (clear : ClearBehind extended barred body) (thinClear : ClearBehind extended barred thinBody)
    (inside : ReadsThin extended body thinBody) (further : ReadsThin extended rest thinRest) :
    ReadsThin extended ('(' :: more ++ (body ++ ')' :: rest))
      ('(' :: more ++ (thinBody ++ ')' :: thinRest)) := by
  intro fuel thinFuel captures names branches parts thinBranches thinParts tail thinTail expr after
    ends thinEnds enough thinEnough soFar read
  obtain ⟨fuel, rfl⟩ := Nat.exists_eq_add_one_of_ne_zero (Nat.ne_zero_of_lt enough)
  obtain ⟨thinFuel, rfl⟩ := Nat.exists_eq_add_one_of_ne_zero (Nat.ne_zero_of_lt thinEnough)
  rw [List.append_assoc] at read
  obtain ⟨-, enough⟩ := enough_of_lt enough
  obtain ⟨-, thinEnough⟩ := enough_of_lt thinEnough
  obtain ⟨head, between, headRead, read⟩ :=
    (run_readAlternatives_group solid_parenthesis rfl rfl).mp read
  have opened := opens ((body ++ ')' :: rest) ++ tail) captures names
    (by rw [List.append_assoc]; exact clear _ (.inr ⟨rest ++ tail, rfl⟩))
  have thinOpened := opens ((thinBody ++ ')' :: thinRest) ++ thinTail) captures names
    (by rw [List.append_assoc]; exact thinClear _ (.inr ⟨thinRest ++ thinTail, rfl⟩))
  cases nameEq : name? names with
  | none =>
      rw [nameEq] at opened
      cases headRead.symm.trans opened
  | some later =>
      rw [nameEq] at opened thinOpened
      obtain ⟨after', openedRead, afterEq'⟩ := opened
      obtain ⟨thinAfter, thinOpenedRead, thinAfterEq⟩ := thinOpened
      cases headRead.symm.trans openedRead
      simp only [run_readAlternatives_of_afterSpace (afterEq'.trans (afterSpace_mk _ _).symm)]
        at read
      obtain ⟨thinExpr, last, lastCaptures, lastNames, afterEq, thinRead, thins⟩ :=
        closed (.capture (captures + 1)) inside further ends thinEnds enough thinEnough soFar
          read
      refine ⟨thinExpr, last, lastCaptures, lastNames, afterEq, ?_, thins⟩
      rw [List.append_assoc]
      refine (run_readAlternatives_group solid_parenthesis rfl rfl).mpr
        ⟨_, _, thinOpenedRead, ?_⟩
      simp only [run_readAlternatives_of_afterSpace (thinAfterEq.trans (afterSpace_mk _ _).symm)]
      exact thinRead

theorem group {change : ModeChange} {body thinBody rest thinRest : List Char}
    (switches : Switches extended ('(' :: more) (.group change))
    (inside : ReadsThin ((change.value? .extended).getD extended) body thinBody)
    (further : ReadsThin extended rest thinRest) :
    ReadsThin extended ('(' :: more ++ (body ++ ')' :: rest))
      ('(' :: more ++ (thinBody ++ ')' :: thinRest)) := by
  intro fuel thinFuel captures names branches parts thinBranches thinParts tail thinTail expr after
    ends thinEnds enough thinEnough soFar read
  obtain ⟨fuel, rfl⟩ := Nat.exists_eq_add_one_of_ne_zero (Nat.ne_zero_of_lt enough)
  obtain ⟨thinFuel, rfl⟩ := Nat.exists_eq_add_one_of_ne_zero (Nat.ne_zero_of_lt thinEnough)
  rw [List.append_assoc] at read
  obtain ⟨-, enough⟩ := enough_of_lt enough
  obtain ⟨-, thinEnough⟩ := enough_of_lt thinEnough
  obtain ⟨head, between, headRead, read⟩ :=
    (run_readAlternatives_group solid_parenthesis rfl rfl).mp read
  cases headRead.symm.trans (switches _ captures names)
  obtain ⟨thinExpr, last, lastCaptures, lastNames, afterEq, thinRead, thins⟩ :=
    closed (.group change) inside further ends thinEnds enough thinEnough soFar read
  refine ⟨thinExpr, last, lastCaptures, lastNames, afterEq, ?_, thins⟩
  rw [List.append_assoc]
  exact (run_readAlternatives_group solid_parenthesis rfl rfl).mpr
    ⟨_, _, switches _ captures names, thinRead⟩

/-- If a text is a pattern, so is what is left of it. -/
theorem parse? (reads : ReadsThin false full thin) {expr : Expr}
    (parses : Expr.parse? full = some expr) :
    ∃ thinExpr, Expr.parse? thin = some thinExpr ∧ expr.Thins thinExpr := by
  obtain ⟨⟨result, last⟩, read, ended⟩ := Option.bind_eq_some_iff.mp parses
  have enough (text : List Char) : (text ++ []).length < text.length + 1 := by simp
  rw [← List.append_nil full] at read
  obtain ⟨thinExpr, mode, captures, names, rfl, thinRead, thins⟩ :=
    reads (.inl rfl) (.inl rfl) (by simp) (enough thin) .start read
  rw [List.append_nil] at thinRead
  simp only [List.isEmpty_nil, Bool.true_and, decide_eq_true_eq, Option.ite_none_right_eq_some,
    Option.some.injEq] at ended
  obtain ⟨shallow, rfl⟩ := ended
  refine ⟨thinExpr, ?_, thins⟩
  have thinShallow : thinExpr.depth ≤ depthLimit := Nat.le_trans thins.depth_le shallow
  simp [Expr.parse?, thinRead, thinShallow]

end ReadsThin

end

end Pattern

end Scopelight
