import Scopelight.Pattern.Modes
import Scopelight.Pattern.Plan

/-!
# Lowering

The plan of an expression.  Lowering carries the modes from left to right through the
expression; a mode change holds up to the end of the group it stands in, alternatives
included.
-/

namespace Scopelight

namespace Pattern

/-- The plans of the branches of an expression under the modes at its start, and the modes
after it. -/
def Expr.branches? : Expr → Modes → Option (List Plan × Modes)
  | .empty, current => some ([.empty], current)
  | .modes change, current => some ([.empty], current.apply change)
  | .literal value, current => (value.set? current).map fun set => ([.ofSet set], current)
  | .dot, current => (dotSet? current).map fun set => ([.ofSet set], current)
  | .assertion kind, current => some ([.look (kind.look current)], current)
  | .short kind negated, current =>
      (ClassExpr.set? current (.short kind negated)).map fun set => ([.ofSet set], current)
  | .property name negated, current =>
      (ClassExpr.set? current (.property name negated)).map fun set => ([.ofSet set], current)
  | .bracketed negated inner, current =>
      (ClassExpr.set? current (.bracketed negated inner)).map fun set =>
        ([.ofSet set], current)
  | .repeated body least most greedy, current => do
      let (plans, after) ← body.branches? current
      return ([(Plan.alternation plans).repetition least most (greedy != after.swapGreed)],
        after)
  | .capture index body, current => do
      let (plans, _) ← body.branches? current
      return ([.capture index (.alternation plans)], current)
  | .group change body, current => do
      let (plans, _) ← body.branches? (current.apply change)
      return ([.alternation plans], current)
  | .concat first rest, current => do
      let (firstPlans, between) ← first.branches? current
      let (restPlans, after) ← rest.branches? between
      return ([(Plan.alternation firstPlans).append (.alternation restPlans)], after)
  | .alternate first rest, current => do
      let (firstPlans, between) ← first.branches? current
      let (restPlans, after) ← rest.branches? between
      return (.alternation firstPlans :: restPlans, after)

/-- The plan of an expression under the modes at its start.  Some classes have no meaning
under some modes. -/
def Expr.lower? (expr : Expr) (modes : Modes) : Option Plan := do
  let (plans, _) ← expr.branches? modes
  return .alternation plans

end Pattern

end Scopelight
