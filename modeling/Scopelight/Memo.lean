/-!
# Tabulated functions

A function on the numbers below a bound, tabulated so that each value is computed at most
once and only when it is asked for.  The type records the function, so a table can be
replaced by the function it tabulates wherever one reasons about it.
-/

namespace Scopelight

/-- A table of the values of a function below a bound. -/
structure Memo {Value : Type} (function : Nat → Value) (size : Nat) where
  cells : Array (Thunk Value)
  cellsEq : ∀ index : Nat,
    (cells[index]?).map Thunk.get = if index < size then some (function index) else none

namespace Memo

variable {Value : Type} {function : Nat → Value} {size : Nat}

def build (function : Nat → Value) (size : Nat) : Memo function size where
  cells := (Array.range size).map fun index => Thunk.mk fun _ => function index
  cellsEq := by
    intro index
    by_cases inside : index < size
    · simp [inside, Thunk.get]
    · simp [inside]

/-- The value at an index below the bound. -/
def get? (memo : Memo function size) (index : Nat) : Option Value :=
  (memo.cells[index]?).map Thunk.get

theorem get?_eq (memo : Memo function size) (index : Nat) :
    memo.get? index = if index < size then some (function index) else none :=
  memo.cellsEq index

end Memo

end Scopelight
