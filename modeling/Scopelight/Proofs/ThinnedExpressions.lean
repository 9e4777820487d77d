import Mathlib.Data.List.Forall2
import Scopelight.Pattern.Lowering
import Scopelight.Pattern.Parser

/-!
# Thinned expressions

An expression from which literals have been taken out asks for less than the whole one: it
is nested no deeper, and where the whole one has a plan, so has what is left of it.  Only
literals that stand in a row by themselves can be taken out; the operand of a repetition
stays.
-/

namespace Scopelight

namespace Pattern

namespace Expr

/-- The second expression is what is left of the first one when some literals are taken out
of its rows. -/
inductive Thins : Expr → Expr → Prop where
  | refl (expr : Expr) : Thins expr expr
  | dropped (value : Literal) : Thins (.literal value) .empty
  | repeated {body thin : Expr} (least : Nat) (most : Option Nat) (greedy : Bool)
      (thins : Thins body thin) :
      Thins (.repeated body least most greedy) (.repeated thin least most greedy)
  | capture {body thin : Expr} (index : Nat) (thins : Thins body thin) :
      Thins (.capture index body) (.capture index thin)
  | group {body thin : Expr} (change : ModeChange) (thins : Thins body thin) :
      Thins (.group change body) (.group change thin)
  | concat {first rest thinFirst thinRest : Expr} (firstThins : Thins first thinFirst)
      (restThins : Thins rest thinRest) :
      Thins (.concat first rest) (.concat thinFirst thinRest)
  | dropFirst {rest thin : Expr} (value : Literal) (thins : Thins rest thin) :
      Thins (.concat (.literal value) rest) thin
  | dropRest {first rest thin : Expr} (firstThins : Thins first thin)
      (restThins : Thins rest .empty) : Thins (.concat first rest) thin
  | alternate {first rest thinFirst thinRest : Expr} (firstThins : Thins first thinFirst)
      (restThins : Thins rest thinRest) :
      Thins (.alternate first rest) (.alternate thinFirst thinRest)

/-- The depth that an expression adds as the rest of a row. -/
def rowDepth : Expr → Nat
  | .concat first rest => (concat first rest).depth
  | expr => expr.depth + 1

/-- The depth that an expression adds as the rest of a row of branches. -/
def branchDepth : Expr → Nat
  | .alternate first rest => (alternate first rest).depth
  | expr => expr.depth + 1

theorem depth_concat (first rest : Expr) :
    (concat first rest).depth = max (first.depth + 1) rest.rowDepth := by
  cases rest <;> rfl

theorem depth_alternate (first rest : Expr) :
    (alternate first rest).depth = max (first.depth + 1) rest.branchDepth := by
  cases rest <;> rfl

theorem rowDepth_concat (first rest : Expr) :
    (concat first rest).rowDepth = max (first.depth + 1) rest.rowDepth :=
  depth_concat first rest

theorem branchDepth_concat (first rest : Expr) :
    (concat first rest).branchDepth = max (first.depth + 1) rest.rowDepth + 1 :=
  congrArg (· + 1) (depth_concat first rest)

theorem branchDepth_alternate (first rest : Expr) :
    (alternate first rest).branchDepth = max (first.depth + 1) rest.branchDepth :=
  depth_alternate first rest

theorem depth_le_rowDepth (expr : Expr) : expr.depth ≤ expr.rowDepth := by
  cases expr <;> simp [rowDepth]

theorem rowDepth_le (expr : Expr) : expr.rowDepth ≤ expr.depth + 1 := by
  cases expr <;> simp [rowDepth]

theorem branchDepth_le (expr : Expr) : expr.branchDepth ≤ expr.depth + 1 := by
  cases expr <;> simp [branchDepth]

namespace Thins

variable {full thin : Expr}

/-- What is left adds no more depth, wherever it stands. -/
theorem depths_le (thins : full.Thins thin) : thin.depth ≤ full.depth ∧
    thin.rowDepth ≤ full.rowDepth ∧ thin.branchDepth ≤ full.branchDepth := by
  induction thins with
  | refl => exact ⟨Nat.le_refl _, Nat.le_refl _, Nat.le_refl _⟩
  | dropped => simp [depth, rowDepth, branchDepth]
  | repeated least most greedy _ ih => simp only [depth, rowDepth, branchDepth]; omega
  | capture index _ ih => simp only [depth, rowDepth, branchDepth]; omega
  | group change _ ih => simp only [depth, rowDepth, branchDepth]; omega
  | concat _ _ firstIH restIH =>
      simp only [rowDepth_concat, branchDepth_concat, depth_concat]
      omega
  | @dropFirst rest thin value _ ih =>
      have thinLe := thin.depth_le_rowDepth
      have branchLe := thin.branchDepth_le
      simp only [rowDepth_concat, branchDepth_concat, depth_concat]
      omega
  | @dropRest first rest thin _ _ firstIH restIH =>
      have rowLe := thin.rowDepth_le
      have branchLe := thin.branchDepth_le
      simp only [rowDepth_concat, branchDepth_concat, depth_concat]
      omega
  | alternate _ _ firstIH restIH =>
      simp only [rowDepth, branchDepth_alternate, depth_alternate]
      omega

theorem depth_le (thins : full.Thins thin) : thin.depth ≤ full.depth :=
  thins.depths_le.1

/-- Where the whole expression has plans, so has what is left of it, under the same modes
behind it. -/
theorem branches? (thins : full.Thins thin) {modes after : Modes} {plans : List Plan}
    (lowers : full.branches? modes = some (plans, after)) :
    ∃ thinPlans, thin.branches? modes = some (thinPlans, after) := by
  induction thins generalizing modes after plans with
  | refl => exact ⟨plans, lowers⟩
  | dropped value =>
      obtain ⟨set, -, lowers⟩ := Option.map_eq_some_iff.mp lowers
      cases lowers
      exact ⟨[.empty], rfl⟩
  | repeated least most greedy _ ih =>
      obtain ⟨⟨inner, between⟩, innerLowers, lowers⟩ := Option.bind_eq_some_iff.mp lowers
      cases lowers
      obtain ⟨thinInner, thinLowers⟩ := ih innerLowers
      exact ⟨_, by simp [Expr.branches?, thinLowers]; rfl⟩
  | capture index _ ih =>
      obtain ⟨⟨inner, between⟩, innerLowers, lowers⟩ := Option.bind_eq_some_iff.mp lowers
      cases lowers
      obtain ⟨thinInner, thinLowers⟩ := ih innerLowers
      exact ⟨_, by simp [Expr.branches?, thinLowers]; rfl⟩
  | group change _ ih =>
      obtain ⟨⟨inner, between⟩, innerLowers, lowers⟩ := Option.bind_eq_some_iff.mp lowers
      cases lowers
      obtain ⟨thinInner, thinLowers⟩ := ih innerLowers
      exact ⟨_, by simp [Expr.branches?, thinLowers]; rfl⟩
  | concat _ _ firstIH restIH =>
      obtain ⟨⟨first, between⟩, firstLowers, lowers⟩ := Option.bind_eq_some_iff.mp lowers
      obtain ⟨⟨rest, last⟩, restLowers, lowers⟩ := Option.bind_eq_some_iff.mp lowers
      cases lowers
      obtain ⟨thinFirst, thinFirstLowers⟩ := firstIH firstLowers
      obtain ⟨thinRest, thinRestLowers⟩ := restIH restLowers
      exact ⟨_, by simp [Expr.branches?, thinFirstLowers, thinRestLowers]; rfl⟩
  | dropFirst value _ ih =>
      obtain ⟨⟨first, between⟩, firstLowers, lowers⟩ := Option.bind_eq_some_iff.mp lowers
      obtain ⟨⟨rest, last⟩, restLowers, lowers⟩ := Option.bind_eq_some_iff.mp lowers
      cases lowers
      obtain ⟨set, -, firstEq⟩ := Option.map_eq_some_iff.mp firstLowers
      cases firstEq
      exact ih restLowers
  | dropRest _ _ firstIH restIH =>
      obtain ⟨⟨first, between⟩, firstLowers, lowers⟩ := Option.bind_eq_some_iff.mp lowers
      obtain ⟨⟨rest, last⟩, restLowers, lowers⟩ := Option.bind_eq_some_iff.mp lowers
      cases lowers
      obtain ⟨_, nothing⟩ := restIH restLowers
      cases nothing
      exact firstIH firstLowers
  | alternate _ _ firstIH restIH =>
      obtain ⟨⟨first, between⟩, firstLowers, lowers⟩ := Option.bind_eq_some_iff.mp lowers
      obtain ⟨⟨rest, last⟩, restLowers, lowers⟩ := Option.bind_eq_some_iff.mp lowers
      cases lowers
      obtain ⟨thinFirst, thinFirstLowers⟩ := firstIH firstLowers
      obtain ⟨thinRest, thinRestLowers⟩ := restIH restLowers
      exact ⟨_, by simp [Expr.branches?, thinFirstLowers, thinRestLowers]; rfl⟩

theorem lower? (thins : full.Thins thin) {modes : Modes} {plan : Plan}
    (lowers : full.lower? modes = some plan) : ∃ thinPlan, thin.lower? modes = some thinPlan := by
  obtain ⟨⟨plans, after⟩, branchesEq, -⟩ := Option.bind_eq_some_iff.mp lowers
  obtain ⟨thinPlans, thinEq⟩ := thins.branches? branchesEq
  exact ⟨.alternation thinPlans, by simp [Expr.lower?, thinEq]⟩

end Thins

/-! ### Rows of parts -/

/-- A part of a row and what is left of it.  It stays the operand of a repetition if it
was one. -/
inductive Keeps : Expr → Expr → Prop where
  | same (part : Expr) : Keeps part part
  | repeated {body thin : Expr} (least : Nat) (most : Option Nat) (greedy : Bool)
      (thins : Thins body thin) :
      Keeps (.repeated body least most greedy) (.repeated thin least most greedy)
  | capture {body thin : Expr} (index : Nat) (thins : Thins body thin) :
      Keeps (.capture index body) (.capture index thin)
  | group {body thin : Expr} (change : ModeChange) (thins : Thins body thin) :
      Keeps (.group change body) (.group change thin)

theorem Keeps.thins {part thin : Expr} (keeps : Keeps part thin) : part.Thins thin := by
  cases keeps with
  | same => exact .refl _
  | repeated least most greedy thins => exact .repeated least most greedy thins
  | capture index thins => exact .capture index thins
  | group change thins => exact .group change thins

/-- The parts of a row and what is left of them, where literals are taken out. -/
inductive ThinsRow : List Expr → List Expr → Prop where
  | nil : ThinsRow [] []
  | keep {part thin : Expr} {parts thins : List Expr} (keeps : Keeps part thin)
      (row : ThinsRow parts thins) : ThinsRow (part :: parts) (thin :: thins)
  | drop {parts thins : List Expr} (value : Literal) (row : ThinsRow parts thins) :
      ThinsRow (.literal value :: parts) thins

namespace ThinsRow

variable {parts thins : List Expr}

theorem append {others otherThins : List Expr} (row : ThinsRow parts thins)
    (other : ThinsRow others otherThins) : ThinsRow (parts ++ others) (thins ++ otherThins) := by
  induction row with
  | nil => exact other
  | keep keeps _ ih => exact .keep keeps ih
  | drop value _ ih => exact .drop value ih

theorem reverse (row : ThinsRow parts thins) : ThinsRow parts.reverse thins.reverse := by
  induction row with
  | nil => exact .nil
  | keep keeps _ ih =>
      rw [List.reverse_cons, List.reverse_cons]
      exact ih.append (.keep keeps .nil)
  | drop value _ ih =>
      rw [List.reverse_cons]
      simpa using ih.append (.drop value .nil)

theorem ofParts (row : ThinsRow parts thins) : (ofParts parts).Thins (ofParts thins) := by
  induction row with
  | nil => exact .refl _
  | @keep part thin parts thins keeps row ih =>
      cases parts with
      | nil =>
          cases row
          exact keeps.thins
      | cons next parts =>
          cases thins with
          | nil => exact .dropRest keeps.thins ih
          | cons thinNext thins => exact .concat keeps.thins ih
  | @drop parts thins value row ih =>
      cases parts with
      | nil =>
          cases row
          exact .dropped value
      | cons next parts => exact .dropFirst value ih

end ThinsRow

theorem thins_ofBranches {branches thins : List Expr} (each : List.Forall₂ Thins branches thins) :
    (ofBranches branches).Thins (ofBranches thins) := by
  induction each with
  | nil => exact .refl _
  | cons first rest ih =>
      cases rest with
      | nil => exact first
      | cons _ _ => exact .alternate first ih

/-- The same operand is taken from what is left of a row if its latest part was kept. -/
theorem Keeps.takeOperand {part thin operand : Expr} {parts others : List Expr}
    (keeps : Keeps part thin) (thins : List Expr)
    (taken : takeOperand (part :: parts) = some (operand, others)) :
    operand = part ∧ others = parts ∧ takeOperand (thin :: thins) = some (thin, thins) := by
  cases keeps with
  | same =>
      unfold Pattern.takeOperand at taken ⊢
      split at taken
      · cases taken
      · cases taken
      · cases taken
      · cases taken
        simp_all
  | repeated => cases taken; exact ⟨rfl, rfl, rfl⟩
  | capture => cases taken; exact ⟨rfl, rfl, rfl⟩
  | group => cases taken; exact ⟨rfl, rfl, rfl⟩

end Expr

end Pattern

end Scopelight
