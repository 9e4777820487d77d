import Scopelight.Proofs.LeftmostSearch

/-!
# Invariants of threads

A thread goes on in two ways only: past an instruction that takes no character, at the same
position, and past one that takes the next character.  What both ways keep holds of every
thread of a run, and so says something of the match that the run finds.
-/

namespace Scopelight

namespace Pattern

/-- A property of threads that goes on with them, and what follows from it for a thread that
accepts. -/
structure ThreadInvariant (code : Array Inst) (keeps : Cursor → Thread → Prop)
    (good : Acceptance → Prop) : Prop where
  silent : ∀ {cursor thread inst places next}, code[thread.place]? = some inst →
    inst.silent? cursor = some places → next ∈ places → keeps cursor thread →
    keeps cursor ⟨next, thread.start, inst.note cursor.offset thread.saves⟩
  take : ∀ {cursor thread inst c rest next}, code[thread.place]? = some inst →
    cursor.rest = c :: rest → inst.after? c = some next → keeps cursor thread →
    keeps (cursor.after c rest) { thread with place := next }
  accept : ∀ {cursor thread}, code[thread.place]? = some .accept → keeps cursor thread →
    good ⟨thread.start, cursor.offset, thread.saves⟩

namespace ThreadInvariant

variable {code : Array Inst} {keeps : Cursor → Thread → Prop} {good : Acceptance → Prop}
  {cursor : Cursor} {threads : List Thread}

theorem walk (invariant : ThreadInvariant code keeps good) {waiting : List Thread}
    {kept : Nat → Bool} {reached after : Set Nat}
    (walk : Walk code cursor kept threads reached after waiting)
    (holds : ∀ thread ∈ threads, keeps cursor thread) :
    ∀ thread ∈ waiting, keeps cursor thread := by
  induction walk with
  | nil => exact holds
  | drop _ _ ih => exact ih fun thread member => holds thread (List.mem_cons_of_mem _ member)
  | wait _ _ _ _ ih =>
      intro thread member
      rcases List.mem_cons.mp member with rfl | behind
      · exact holds thread List.mem_cons_self
      · exact ih (fun other found => holds other (List.mem_cons_of_mem _ found)) thread behind
  | go _ instEq goes _ ih =>
      refine ih fun thread member => ?_
      rcases List.mem_append.mp member with next | behind
      · obtain ⟨place, placeMem, rfl⟩ := List.mem_map.mp next
        exact invariant.silent instEq goes (List.mem_filter.mp placeMem).1
          (holds _ List.mem_cons_self)
      · exact holds thread (List.mem_cons_of_mem _ behind)

/-- A turn reports a match of one of its threads, and goes on with the others. -/
theorem turn (invariant : ThreadInvariant code keeps good)
    (holds : ∀ thread ∈ threads, keeps cursor thread) :
    (∀ accepted ∈ (turn code cursor threads).1, good accepted) ∧
      ∀ c rest, cursor.rest = c :: rest →
        ∀ thread ∈ (Pattern.turn code cursor threads).2, keeps (cursor.after c rest) thread := by
  obtain ⟨_, walk⟩ := settle_walk code cursor threads
  have waitingHolds := invariant.walk walk holds
  unfold Pattern.turn
  generalize settle code cursor threads = waiting at waitingHolds
  induction waiting with
  | nil => simp [advance]
  | cons thread waiting ih =>
      have here := waitingHolds thread List.mem_cons_self
      obtain ⟨acceptedGood, nextHolds⟩ :=
        ih fun other member => waitingHolds other (List.mem_cons_of_mem _ member)
      rcases advance_cons code cursor.offset cursor.rest.head? thread waiting with
        ⟨accepts, completes⟩ | ⟨inst, d, place, instEq, takenEq, takes, goes⟩ | ⟨-, -, goes⟩
      · rw [completes]
        refine ⟨fun accepted found => ?_, by simp⟩
        obtain rfl := Option.some.inj found
        exact invariant.accept accepts here
      · rw [goes]
        refine ⟨acceptedGood, fun c rest restEq other member => ?_⟩
        rcases List.mem_cons.mp member with rfl | behind
        · obtain rfl : c = d := by simpa [restEq] using takenEq
          exact invariant.take instEq restEq takes here
        · exact nextHolds c rest restEq other behind
      · rw [goes]
        exact ⟨acceptedGood, nextHolds⟩

/-- A run in which no thread starts finds a match of the threads that it starts with. -/
theorem runAt (invariant : ThreadInvariant code keeps good) {best : Option Acceptance}
    (holds : ∀ thread ∈ threads, keeps cursor thread)
    (bestGood : ∀ accepted ∈ best, good accepted) :
    ∀ accepted ∈ runAt code 0 cursor threads best, good accepted := by
  obtain ⟨before, offset, rest⟩ := cursor
  induction rest generalizing before offset threads best with
  | nil =>
      obtain ⟨complete, -⟩ := invariant.turn holds
      intro accepted found
      rw [runAt_eq_proceed, enter_of_known (.inr (Nat.zero_le _))] at found
      rcases Option.or_eq_some_iff.mp found with here | ⟨-, before⟩
      · exact complete accepted here
      · exact bestGood accepted before
  | cons c rest ih =>
      obtain ⟨complete, nextHolds⟩ := invariant.turn holds
      intro accepted found
      rw [runAt_eq_proceed, enter_of_known (.inr (Nat.zero_le _))] at found
      refine ih ?_ (some c) (offset + c.utf8Size) (nextHolds c rest rfl) accepted found
      intro other otherFound
      rcases Option.or_eq_some_iff.mp otherFound with here | ⟨-, before⟩
      · exact complete other here
      · exact bestGood other before

/-- The match that starts at a position is good if the invariant holds of the thread that
starts there. -/
theorem matchAt (invariant : ThreadInvariant code keeps good)
    (holds : keeps cursor ⟨0, cursor.offset, []⟩) {accepted : Acceptance}
    (found : matchAt? code cursor = some accepted) : good accepted := by
  refine invariant.runAt ?_ (by simp) accepted found
  intro thread member
  rwa [List.mem_singleton.mp member]

end ThreadInvariant

end Pattern

end Scopelight
