import Scopelight.Proofs.MatchedPlans

/-!
# The bounds of groups

The ends of groups are noted on the way through a match.  So every group of a match lies
between the start and the end of the match.
-/

namespace Scopelight

namespace Pattern

/-- What is noted on the way from one spot to another lies between them. -/
structure Spot.NotesBetween (first last : Spot) : Prop where
  offsetLe : first.cursor.offset ≤ last.cursor.offset
  between : ∀ note ∈ last.saves, note ∈ first.saves ∨
    first.cursor.offset ≤ note.2 ∧ note.2 ≤ last.cursor.offset

namespace Spot.NotesBetween

variable {first middle last : Spot}

theorem of_saves_eq (offsetLe : first.cursor.offset ≤ last.cursor.offset)
    (savesEq : last.saves = first.saves) : first.NotesBetween last :=
  ⟨offsetLe, fun _ member => .inl (savesEq ▸ member)⟩

theorem refl (spot : Spot) : spot.NotesBetween spot :=
  .of_saves_eq (Nat.le_refl _) rfl

theorem note (slot : Nat) (spot : Spot) : spot.NotesBetween (spot.note slot) := by
  refine ⟨Nat.le_refl _, fun note member => ?_⟩
  rcases List.mem_cons.mp member with rfl | before
  · exact .inr ⟨Nat.le_refl _, Nat.le_refl _⟩
  · exact .inl before

theorem trans (earlier : first.NotesBetween middle) (later : middle.NotesBetween last) :
    first.NotesBetween last := by
  have reached := earlier.offsetLe
  have onward := later.offsetLe
  refine ⟨reached.trans onward, fun note member => ?_⟩
  rcases later.between note member with before | ⟨behind, within⟩
  · rcases earlier.between note before with old | ⟨behind, within⟩
    · exact .inl old
    · exact .inr ⟨behind, within.trans onward⟩
  · exact .inr ⟨reached.trans behind, within⟩

end Spot.NotesBetween

theorem Plan.Takes.notesBetween {plan : Plan} {first last : Spot}
    (takes : plan.Takes first last) : first.NotesBetween last := by
  induction plan generalizing first last with
  | empty =>
      obtain rfl : last = first := takes
      exact .refl last
  | text c rest => exact .of_saves_eq takes.offset_le takes.2
  | chars set =>
      have onward := takes.offset_le
      obtain ⟨-, -, -, savesEq⟩ := takes
      exact .of_saves_eq onward savesEq
  | look condition =>
      obtain ⟨-, rfl⟩ := takes
      exact .refl last
  | capture index body ih =>
      obtain ⟨inner, innerTakes, rfl⟩ := takes
      exact (Spot.NotesBetween.note _ first).trans ((ih innerTakes).trans (.note _ inner))
  | repeated least most greedy body ih =>
      obtain ⟨count, -, -, copies⟩ := takes
      exact copies.keeps (fun spot => first.NotesBetween spot)
        (fun copy before => before.trans (ih copy)) (.refl first)
  | seq left right leftIH rightIH =>
      obtain ⟨middle, takesLeft, takesRight⟩ := takes
      exact (leftIH takesLeft).trans (rightIH takesRight)
  | alt left right leftIH rightIH =>
      rcases takes with takes | takes
      · exact leftIH takes
      · exact rightIH takes

/-- The groups of a match lie inside it. -/
theorem Compiled.Admits.captures_between {plan : Plan} {anchored : Bool} {line : List Char}
    {position : Nat} {anchor : Option Nat} {accepted : Acceptance} {groups start stop : Nat}
    (admits : (ofPlan plan anchored).Admits line position anchor accepted)
    (member : some (start, stop) ∈ accepted.captures groups) :
    accepted.start ≤ start ∧ stop ≤ accepted.stop := by
  rcases List.mem_cons.mp member with whole | group
  · cases whole
    exact ⟨Nat.le_refl _, Nat.le_refl _⟩
  · obtain ⟨index, -, span⟩ := List.mem_map.mp group
    obtain ⟨origin, -, -, spot, takes, rfl⟩ := admits.takes
    have inside : ∀ note ∈ spot.saves, origin.offset ≤ note.2 ∧ note.2 ≤ spot.cursor.offset :=
      fun note noted => (takes.notesBetween.between note noted).resolve_left List.not_mem_nil
    have ends := Saves.forall_group?
      (fun offset => origin.offset ≤ offset ∧ offset ≤ spot.cursor.offset) inside span
    exact ⟨ends.1.1, ends.2.2⟩

end Pattern

end Scopelight
