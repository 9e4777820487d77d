import Scopelight.Pattern.Parser

/-!
# Steps of readers

What a successful run of a reader says about the steps that it is made of.  A run of one
reader after another is a run of each with a state between them, and the basic readers
have states that are known.
-/

namespace Scopelight

namespace Pattern

/-- The state after the space at its start. -/
def ReaderState.afterSpace (state : ReaderState) : ReaderState :=
  if state.extended then { state with rest := Reader.dropSpace false state.rest } else state

/-- The state after its first character. -/
def ReaderState.afterOne (state : ReaderState) : ReaderState :=
  { state with rest := state.rest.tail }

namespace Reader

variable {First Second : Type} {state : ReaderState} {result : Second × ReaderState}

theorem run_bind_eq_some {reader : Reader First} {further : First → Reader Second} :
    (reader >>= further).run state = some result ↔
      ∃ value between, reader.run state = some (value, between) ∧
        (further value).run between = some result := by
  simp [StateT.run_bind, Option.bind_eq_some_iff]

theorem run_pure_eq_some {value : Second} :
    (pure value : Reader Second).run state = some result ↔ result = (value, state) := by
  rw [StateT.run_pure, Option.pure_def, Option.some_inj, eq_comm]

theorem run_failure : (failure : Reader Second).run state = none :=
  rfl

theorem run_unless_eq_some {refused : Prop} [Decidable refused] {first : First → Reader Second}
    {reader : Reader Second} :
    (if refused then failure >>= first else reader).run state = some result ↔
      ¬refused ∧ reader.run state = some result := by
  by_cases holds : refused
  · have fails : (failure >>= first).run state = none := rfl
    rw [if_pos holds, fails]
    simp [holds]
  · simp [holds]

theorem run_lift_eq_some {value : Option Second} :
    (liftM value : Reader Second).run state = some result ↔
      ∃ inner, value = some inner ∧ result = (inner, state) := by
  cases value with
  | none => simp
  | some inner => exact run_pure_eq_some.trans (by simp)

theorem run_lift_bind_eq_some {value : Option First} {further : First → Reader Second} :
    (liftM value >>= further).run state = some result ↔
      ∃ inner, value = some inner ∧ (further inner).run state = some result := by
  cases value with
  | none => simp
  | some inner => simp

theorem run_get_bind {further : ReaderState → Reader Second} :
    ((get : Reader ReaderState) >>= further).run state = (further state).run state :=
  rfl

theorem run_set_bind {after : ReaderState} {further : PUnit → Reader Second} :
    ((set after : Reader PUnit) >>= further).run state = (further ⟨⟩).run after :=
  rfl

theorem run_modify_bind {change : ReaderState → ReaderState}
    {further : PUnit → Reader Second} :
    ((modify change : Reader PUnit) >>= further).run state =
      (further ⟨⟩).run (change state) :=
  rfl

theorem run_peek_bind {further : Option Char → Reader Second} :
    (peek >>= further).run state = (further state.rest.head?).run state :=
  rfl

theorem run_bump_bind {further : Unit → Reader Second} :
    (bump >>= further).run state = (further ()).run state.afterOne :=
  rfl

theorem run_skipSpace_bind {further : Unit → Reader Second} :
    (skipSpace >>= further).run state = (further ()).run state.afterSpace :=
  rfl

theorem run_advance_bind {further : Unit → Reader Second} :
    (advance >>= further).run state = (further ()).run state.afterOne.afterSpace :=
  rfl

theorem run_next_bind_eq_some {further : Char → Reader Second} :
    (next >>= further).run state = some result ↔
      ∃ c rest, state.rest = c :: rest ∧ (further c).run state = some result := by
  obtain ⟨text, extended, captures, names⟩ := state
  cases text with
  | nil =>
      have fails : (next >>= further).run ⟨[], extended, captures, names⟩ = none := rfl
      simp [fails]
  | cons head rest =>
      change (further head).run _ = some result ↔ _
      simp

theorem run_take?_bind {text : List Char} {further : Bool → Reader Second} :
    (take? text >>= further).run state =
      if text.isPrefixOf state.rest then
        (further true).run { state with rest := state.rest.drop text.length }
      else (further false).run state := by
  simp only [take?, bind_assoc, run_get_bind]
  split <;> rfl

theorem run_advanceIf {taken : Prop} [Decidable taken] {reader : Reader Second} :
    (if taken then advance >>= fun _ => reader else reader).run state =
      reader.run (if taken then state.afterOne.afterSpace else state) := by
  split <;> rfl

/-- A reader that goes on only if the text starts with neither of two texts. -/
theorem run_unlessTaken_eq_some {left right : List Char} {first : First → Reader Second}
    {reader : Reader Second} :
    (take? left >>= fun one => take? right >>= fun other =>
        if (one || other) = true then failure >>= first else reader).run state = some result ↔
      left.isPrefixOf state.rest = false ∧ right.isPrefixOf state.rest = false ∧
        reader.run state = some result := by
  rw [run_take?_bind]
  split
  · next starts =>
      rw [run_take?_bind]
      split
      all_goals
        rw [run_unless_eq_some]
        simp [starts]
  · next noStart =>
      rw [run_take?_bind]
      split
      · next starts =>
          rw [run_unless_eq_some]
          simp [starts]
      · next noOther => simp [Bool.eq_false_iff.mpr noStart, Bool.eq_false_iff.mpr noOther]

end Reader

end Pattern

end Scopelight
