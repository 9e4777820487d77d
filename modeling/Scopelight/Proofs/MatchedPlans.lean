import Scopelight.Proofs.ProgramPaths
import Scopelight.Proofs.ScannerPriority

/-!
# Matches of plans

A search with the program of a plan finds a match at a position exactly if the plan takes
something there, and what it reports is one of the parts of the text that the plan takes:
the end of the match and the ends of its groups belong to one and the same spot.
-/

namespace Scopelight

namespace Pattern

variable {code : Array Inst}

theorem Inst.moves_of_silent {inst : Inst} {cursor : Cursor} {places : List Nat} {next : Nat}
    (goes : inst.silent? cursor = some places) (member : next ∈ places) (saves : Saves) :
    inst.Moves ⟨cursor, saves⟩ next ⟨cursor, inst.note cursor.offset saves⟩ := by
  cases inst with
  | look condition place =>
      obtain rfl := Option.some.inj goes
      split at member
      · next holds => exact ⟨List.mem_singleton.mp member, holds, rfl⟩
      · cases member
  | jump place | save slot place =>
      obtain rfl := Option.some.inj goes
      exact ⟨List.mem_singleton.mp member, rfl⟩
  | split left right =>
      obtain rfl := Option.some.inj goes
      refine ⟨?_, rfl⟩
      simpa using member
  | char | chars | accept => cases goes

theorem Inst.moves_of_after {inst : Inst} {cursor : Cursor} {c : Char} {rest : List Char}
    {next : Nat} (takes : inst.after? c = some next) (restEq : cursor.rest = c :: rest)
    (saves : Saves) :
    inst.Moves ⟨cursor, saves⟩ next ⟨cursor.after c rest, saves⟩ := by
  have passes : cursor.Passes [c] (cursor.after c rest) := Cursor.passes_singleton restEq
  cases inst with
  | char expected place =>
      simp only [Inst.after?] at takes
      split at takes
      · next same =>
          subst same
          exact ⟨(Option.some.inj takes).symm, passes, rfl⟩
      · cases takes
  | chars set place =>
      simp only [Inst.after?] at takes
      split at takes
      · next contained =>
          exact ⟨(Option.some.inj takes).symm, c, contained, passes, rfl⟩
      · cases takes
  | look | save | jump | split | accept => cases takes

/-- A move takes no character and notes what its instruction notes, or it takes one. -/
theorem Inst.Moves.cases {inst : Inst} {first last : Spot} {next : Nat}
    (moves : inst.Moves first next last) :
    (∃ places, inst.silent? first.cursor = some places ∧ next ∈ places ∧
        last.cursor = first.cursor) ∨
      ∃ c rest, inst.after? c = some next ∧ first.cursor.rest = c :: rest ∧
        last.cursor = first.cursor.after c rest := by
  cases inst with
  | char expected place =>
      obtain ⟨rfl, ⟨rest, restEq, cursorEq⟩, -⟩ := moves
      exact .inr ⟨expected, rest, by simp [Inst.after?], restEq, cursorEq⟩
  | chars set place =>
      obtain ⟨rfl, c, contained, ⟨rest, restEq, cursorEq⟩, -⟩ := moves
      exact .inr ⟨c, rest, by simp [Inst.after?, contained], restEq, cursorEq⟩
  | look condition place =>
      obtain ⟨rfl, holds, rfl⟩ := moves
      exact .inl ⟨[next], by simp [Inst.silent?, holds], by simp, rfl⟩
  | save slot place =>
      obtain ⟨rfl, rfl⟩ := moves
      exact .inl ⟨[next], rfl, by simp, rfl⟩
  | jump place =>
      obtain ⟨rfl, rfl⟩ := moves
      exact .inl ⟨[next], rfl, by simp, rfl⟩
  | split left right =>
      obtain ⟨chosen, rfl⟩ := moves
      exact .inl ⟨[left, right], rfl, by simpa using chosen, rfl⟩
  | accept => cases moves

theorem accepts_iff_arrives {cursor : Cursor} {place : Nat} (saves : Saves) :
    Accepts code cursor place ↔ ∃ count last, Arrives code count place ⟨cursor, saves⟩ last := by
  constructor
  · intro accepts
    induction accepts generalizing saves with
    | accept instEq => exact ⟨0, _, .accept instEq⟩
    | silent instEq goes member _ ih =>
        obtain ⟨count, last, arrives⟩ := ih _
        exact ⟨count + 1, last, .move instEq (Inst.moves_of_silent goes member saves) arrives⟩
    | take instEq restEq takes _ ih =>
        obtain ⟨count, last, arrives⟩ := ih saves
        exact ⟨count + 1, last, .move instEq (Inst.moves_of_after takes restEq saves) arrives⟩
  · rintro ⟨count, last, arrives⟩
    generalize spotEq : (⟨cursor, saves⟩ : Spot) = spot at arrives
    induction arrives generalizing cursor saves with
    | accept instEq => exact .accept instEq
    | @move _ _ _ _ _ middle _ instEq moves _ ih =>
        subst spotEq
        have later := @ih middle.cursor middle.saves rfl
        rcases moves.cases with ⟨places, goes, member, same⟩ | ⟨c, rest, takes, restEq, afterEq⟩
        · rw [same] at later
          exact .silent instEq goes member later
        · rw [afterEq] at later
          exact .take instEq restEq takes later

/-- Every path on from a thread continues one from the start of the match. -/
def Thread.Continues (code : Array Inst) (origin cursor : Cursor) (thread : Thread) : Prop :=
  thread.start = origin.offset ∧
    ∀ count last, Arrives code count thread.place ⟨cursor, thread.saves⟩ last →
      ∃ more, Arrives code more 0 ⟨origin, []⟩ last

theorem continues_invariant (code : Array Inst) (origin : Cursor) :
    ThreadInvariant code (Thread.Continues code origin) fun accepted =>
      ∃ count last, Arrives code count 0 ⟨origin, []⟩ last ∧
        accepted = ⟨origin.offset, last.cursor.offset, last.saves⟩ where
  silent := by
    rintro cursor thread inst places next instEq goes member ⟨startEq, continues⟩
    refine ⟨startEq, fun count last arrives => ?_⟩
    exact continues _ last (.move instEq (Inst.moves_of_silent goes member _) arrives)
  take := by
    rintro cursor thread inst c rest next instEq restEq takes ⟨startEq, continues⟩
    refine ⟨startEq, fun count last arrives => ?_⟩
    exact continues _ last (.move instEq (Inst.moves_of_after takes restEq _) arrives)
  accept := by
    rintro cursor thread instEq ⟨startEq, continues⟩
    obtain ⟨count, arrives⟩ := continues 0 _ (.accept instEq)
    exact ⟨count, _, arrives, by rw [startEq]⟩

variable {plan : Plan} {anchored : Bool}

/-- What is found at a position is a part of the text that the plan takes there. -/
theorem matchAt?_takes {cursor : Cursor} {accepted : Acceptance}
    (found : matchAt? (Compiled.ofPlan plan anchored).code cursor = some accepted) :
    ∃ spot, plan.Takes ⟨cursor, []⟩ spot ∧
      accepted = ⟨cursor.offset, spot.cursor.offset, spot.saves⟩ := by
  have starts : Thread.Continues (Compiled.ofPlan plan anchored).code cursor cursor
      ⟨0, cursor.offset, []⟩ := ⟨rfl, fun count last arrives => ⟨count, arrives⟩⟩
  obtain ⟨count, spot, arrives, acceptedEq⟩ :=
    (continues_invariant _ cursor).matchAt starts found
  exact ⟨spot, (arrives_ofPlan_iff plan anchored).mp ⟨count, arrives⟩, acceptedEq⟩

theorem matchAt?_isSome_iff_takes {cursor : Cursor} :
    (matchAt? (Compiled.ofPlan plan anchored).code cursor).isSome = true ↔
      ∃ spot, plan.Takes ⟨cursor, []⟩ spot := by
  rw [matchAt?_isSome_iff, accepts_iff_arrives [], exists_comm]
  exact exists_congr fun spot => arrives_ofPlan_iff plan anchored

namespace Compiled

variable {line : List Char} {start : Nat} {anchor : Option Nat}

theorem Admits.takes {accepted : Acceptance}
    (admits : (ofPlan plan anchored).Admits line start anchor accepted) :
    ∃ position ∈ positions line, start ≤ position.offset ∧
      ∃ spot, plan.Takes ⟨position, []⟩ spot ∧
        accepted = ⟨position.offset, spot.cursor.offset, spot.saves⟩ := by
  obtain ⟨position, member, reached, -, found⟩ := admits
  exact ⟨position, member, reached, matchAt?_takes found⟩

/-- Where a plan takes something, its pattern admits a match, unless it needs the anchor. -/
theorem exists_admits_of_takes {position : Cursor} (member : position ∈ positions line)
    (reached : start ≤ position.offset) {spot : Spot} (takes : plan.Takes ⟨position, []⟩ spot) :
    ∃ accepted, accepted.start = position.offset ∧
      (ofPlan plan false).Admits line start anchor accepted := by
  obtain ⟨accepted, found⟩ :=
    Option.isSome_iff_exists.mp (matchAt?_isSome_iff_takes.mpr ⟨spot, takes⟩)
  have free : (ofPlan plan false).anchored = true →
      anchor = some start ∧ position.offset = start := fun absurd => by cases absurd
  exact ⟨accepted, (matchAt?_noted found).startEq, position, member, reached, free, found⟩

end Compiled

end Pattern

end Scopelight
