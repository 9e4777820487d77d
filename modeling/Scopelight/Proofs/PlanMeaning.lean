import Scopelight.Proofs.LeftmostSearch

/-!
# What plans match

A plan matches a part of a text and notes the ends of the groups in it.  The relation
`Plan.Takes` says this without a program: from one spot, which is a position with what was
noted before it, to the spot after the match.  It does not say which of several matches is
preferred.
-/

namespace Scopelight

namespace Pattern

/-- A position in a text with the ends of groups noted so far. -/
structure Spot where
  cursor : Cursor
  saves : Saves

def Spot.note (slot : Nat) (spot : Spot) : Spot :=
  ⟨spot.cursor, (slot, spot.cursor.offset) :: spot.saves⟩

/-- A position follows another one after some characters. -/
def Cursor.Passes : List Char → Cursor → Cursor → Prop
  | [], first, last => last = first
  | c :: text, first, last =>
      ∃ rest, first.rest = c :: rest ∧ Passes text (first.after c rest) last

/-- So many steps of a relation one after another. -/
inductive Times {Point : Type} (relation : Point → Point → Prop) : Nat → Point → Point → Prop
  | zero (point : Point) : Times relation 0 point point
  | succ {count : Nat} {first middle last : Point} (before : Times relation count first middle)
      (step : relation middle last) : Times relation (count + 1) first last

/-- A plan matches what lies between two spots. -/
def Plan.Takes : Plan → Spot → Spot → Prop
  | .empty, first, last => last = first
  | .text c rest, first, last =>
      first.cursor.Passes (c :: rest) last.cursor ∧ last.saves = first.saves
  | .chars set, first, last =>
      ∃ c, set.contains c.toNat = true ∧ first.cursor.Passes [c] last.cursor ∧
        last.saves = first.saves
  | .look condition, first, last =>
      condition.holds first.cursor.before first.cursor.rest.head? = true ∧ last = first
  | .capture index body, first, last =>
      ∃ inner, body.Takes (first.note (2 * index)) inner ∧
        last = inner.note (2 * index + 1)
  | .repeated least most _ body, first, last =>
      ∃ count, least ≤ count ∧ (∀ bound ∈ most, count ≤ max least bound) ∧
        Times body.Takes count first last
  | .seq left right, first, last =>
      ∃ middle, left.Takes first middle ∧ right.Takes middle last
  | .alt left right, first, last => left.Takes first last ∨ right.Takes first last

/-- The slots in which a plan notes the ends of its groups. -/
def Plan.slots : Plan → List Nat
  | .capture index body => 2 * index :: (2 * index + 1) :: body.slots
  | .repeated _ _ _ body => body.slots
  | .seq first rest => first.slots ++ rest.slots
  | .alt first rest => first.slots ++ rest.slots
  | _ => []

namespace Times

variable {Point : Type} {relation : Point → Point → Prop} {first middle last : Point}
  {count more : Nat}

theorem single (step : relation first last) : Times relation 1 first last :=
  .succ (.zero first) step

theorem trans (before : Times relation count first middle)
    (after : Times relation more middle last) : Times relation (count + more) first last := by
  induction after with
  | zero => exact before
  | succ _ step ih => exact .succ (ih before) step

theorem cons (step : relation first middle) (after : Times relation count middle last) :
    Times relation (count + 1) first last := by
  rw [Nat.add_comm]
  exact (single step).trans after

/-- Many steps are some steps and then the others. -/
theorem split (steps : Times relation (count + more) first last) :
    ∃ middle, Times relation count first middle ∧ Times relation more middle last := by
  induction more generalizing last with
  | zero => exact ⟨last, steps, .zero last⟩
  | succ more ih =>
      cases steps with
      | succ before step =>
          obtain ⟨middle, firstSteps, lastSteps⟩ := ih before
          exact ⟨middle, firstSteps, .succ lastSteps step⟩

theorem cases_cons (steps : Times relation (count + 1) first last) :
    ∃ middle, relation first middle ∧ Times relation count middle last := by
  rw [Nat.add_comm] at steps
  obtain ⟨middle, one, others⟩ := steps.split
  cases one with
  | succ none step =>
      cases none
      exact ⟨middle, step, others⟩

theorem zero_iff : Times relation 0 first last ↔ last = first := by
  constructor
  · intro steps
    cases steps
    rfl
  · rintro rfl
    exact .zero last

/-- Some steps are none, or at least one. -/
theorem exists_iff :
    (∃ count, Times relation count first last) ↔
      (∃ count, Times relation (count + 1) first last) ∨ last = first := by
  constructor
  · rintro ⟨_ | count, steps⟩
    · exact .inr (zero_iff.mp steps)
    · exact .inl ⟨count, steps⟩
  · rintro (⟨count, steps⟩ | rfl)
    · exact ⟨count + 1, steps⟩
    · exact ⟨0, .zero last⟩

/-- More than so many steps are so many and then at least one. -/
theorem exists_gt_iff (least : Nat) :
    (∃ count, least < count ∧ Times relation count first last) ↔
      ∃ middle, Times relation least first middle ∧
        ∃ count, Times relation (count + 1) middle last := by
  constructor
  · rintro ⟨count, leastLt, steps⟩
    obtain ⟨more, rfl⟩ : ∃ more, count = least + (more + 1) := ⟨count - (least + 1), by omega⟩
    obtain ⟨middle, before, after⟩ := steps.split
    exact ⟨middle, before, more, after⟩
  · rintro ⟨middle, before, more, after⟩
    exact ⟨least + (more + 1), by omega, before.trans after⟩

/-- What one step keeps, many steps keep. -/
theorem keeps (steps : Times relation count first last) (property : Point → Prop)
    (keep : ∀ {before after}, relation before after → property before → property after)
    (holds : property first) : property last := by
  induction steps with
  | zero => exact holds
  | succ _ step ih => exact keep step (ih holds)

end Times

namespace Cursor

variable {first middle last : Cursor}

theorem Passes.trans {left right : List Char} (before : first.Passes left middle)
    (after : middle.Passes right last) : first.Passes (left ++ right) last := by
  induction left generalizing first with
  | nil =>
      obtain rfl : middle = first := before
      exact after
  | cons c left ih =>
      obtain ⟨rest, restEq, before⟩ := before
      exact ⟨rest, restEq, ih before⟩

/-- What is passed lies before the rest of the text. -/
theorem Passes.rest_eq {text : List Char} (passes : first.Passes text last) :
    first.rest = text ++ last.rest ∧ last.offset = first.offset + Text.byteLength text := by
  induction text generalizing first with
  | nil =>
      obtain rfl : last = first := passes
      exact ⟨rfl, rfl⟩
  | cons c text ih =>
      obtain ⟨rest, restEq, passes⟩ := passes
      obtain ⟨laterEq, offsetEq⟩ := ih passes
      refine ⟨by rw [restEq, List.cons_append, ← laterEq]; rfl, ?_⟩
      rw [offsetEq, after, Text.byteLength_cons, Nat.add_assoc]

theorem passes_singleton {c : Char} {rest : List Char} (restEq : first.rest = c :: rest) :
    first.Passes [c] (first.after c rest) :=
  ⟨rest, restEq, rfl⟩

end Cursor

namespace Plan

variable {plan : Plan} {first last : Spot}

/-- A match passes a part of the text. -/
theorem Takes.passes (takes : plan.Takes first last) :
    ∃ text, first.cursor.Passes text last.cursor := by
  induction plan generalizing first last with
  | empty =>
      obtain rfl : last = first := takes
      exact ⟨[], rfl⟩
  | text c rest => exact ⟨_, takes.1⟩
  | chars set =>
      obtain ⟨c, -, passes, -⟩ := takes
      exact ⟨[c], passes⟩
  | look condition =>
      obtain ⟨-, rfl⟩ := takes
      exact ⟨[], rfl⟩
  | capture index body ih =>
      obtain ⟨inner, innerTakes, rfl⟩ := takes
      have passed := ih innerTakes
      exact passed
  | repeated least most greedy body ih =>
      obtain ⟨count, -, -, copies⟩ := takes
      refine copies.keeps (fun spot => ∃ text, first.cursor.Passes text spot.cursor)
        (fun copy passed => ?_) ⟨[], rfl⟩
      obtain ⟨before, passed⟩ := passed
      obtain ⟨text, passes⟩ := ih copy
      exact ⟨before ++ text, passed.trans passes⟩
  | seq left right leftIH rightIH =>
      obtain ⟨middle, takesLeft, takesRight⟩ := takes
      obtain ⟨before, passed⟩ := leftIH takesLeft
      obtain ⟨text, passes⟩ := rightIH takesRight
      exact ⟨before ++ text, passed.trans passes⟩
  | alt left right leftIH rightIH =>
      rcases takes with takes | takes
      · exact leftIH takes
      · exact rightIH takes

theorem Takes.offset_le (takes : plan.Takes first last) :
    first.cursor.offset ≤ last.cursor.offset := by
  obtain ⟨text, passes⟩ := takes.passes
  rw [passes.rest_eq.2]
  exact Nat.le_add_right _ _

theorem last?_note_of_ne (spot : Spot) {slot other : Nat} (differs : other ≠ slot) :
    (spot.note other).saves.last? slot = spot.saves.last? slot := by
  simp [Spot.note, Saves.last?, differs]

/-- A plan notes nothing in slots other than those of its groups. -/
theorem Takes.last?_eq (takes : plan.Takes first last) {slot : Nat}
    (unnoted : slot ∉ plan.slots) : last.saves.last? slot = first.saves.last? slot := by
  induction plan generalizing first last with
  | empty =>
      obtain rfl : last = first := takes
      rfl
  | text c rest => rw [takes.2]
  | chars set =>
      obtain ⟨-, -, -, savesEq⟩ := takes
      rw [savesEq]
  | look condition => rw [takes.2]
  | capture index body ih =>
      obtain ⟨inner, innerTakes, rfl⟩ := takes
      simp only [slots, List.mem_cons, not_or] at unnoted
      rw [last?_note_of_ne inner (Ne.symm unnoted.2.1), ih innerTakes unnoted.2.2,
        last?_note_of_ne first (Ne.symm unnoted.1)]
  | repeated least most greedy body ih =>
      obtain ⟨count, -, -, copies⟩ := takes
      refine copies.keeps (fun spot => spot.saves.last? slot = first.saves.last? slot)
        (fun copy same => ?_) rfl
      exact (ih copy unnoted).trans same
  | seq left right leftIH rightIH =>
      obtain ⟨middle, takesLeft, takesRight⟩ := takes
      simp only [slots, List.mem_append, not_or] at unnoted
      rw [rightIH takesRight unnoted.2, leftIH takesLeft unnoted.1]
  | alt left right leftIH rightIH =>
      simp only [slots, List.mem_append, not_or] at unnoted
      rcases takes with takes | takes
      · exact leftIH takes unnoted.1
      · exact rightIH takes unnoted.2

/-- A match takes a character if the least length of its plan is above zero. -/
theorem Takes.advances_of_minLength (takes : plan.Takes first last) {length : Nat}
    (lengthEq : plan.minLength = some length) (positive : 0 < length) :
    first.cursor.offset < last.cursor.offset := by
  induction plan generalizing first last length with
  | empty | look =>
      obtain rfl : 0 = length := Option.some.inj lengthEq
      exact absurd positive (Nat.lt_irrefl 0)
  | text c rest =>
      have sizePos := c.utf8Size_pos
      rw [takes.1.rest_eq.2, Text.byteLength_cons]
      omega
  | chars set =>
      obtain ⟨c, -, passes, -⟩ := takes
      have sizePos := c.utf8Size_pos
      rw [passes.rest_eq.2, Text.byteLength_cons]
      omega
  | capture index body ih =>
      obtain ⟨inner, innerTakes, rfl⟩ := takes
      have advances := ih innerTakes lengthEq positive
      exact advances
  | repeated least most greedy body ih =>
      obtain ⟨count, leastLe, -, copies⟩ := takes
      obtain ⟨own, ownEq, rfl⟩ := Option.map_eq_some_iff.mp lengthEq
      have leastPos : 0 < least := Nat.pos_of_mul_pos_right positive
      have ownPos : 0 < own := Nat.pos_of_mul_pos_left positive
      obtain ⟨others, rfl⟩ : ∃ others, count = others + 1 := ⟨count - 1, by omega⟩
      cases copies with
      | @succ _ _ middle _ before copy =>
          have reached : first.cursor.offset ≤ middle.cursor.offset :=
            before.keeps (fun spot => first.cursor.offset ≤ spot.cursor.offset)
              (fun copy reached => reached.trans copy.offset_le) (Nat.le_refl _)
          exact reached.trans_lt (ih copy ownEq ownPos)
  | seq left right leftIH rightIH =>
      obtain ⟨middle, takesLeft, takesRight⟩ := takes
      obtain ⟨leftLength, leftEq, restEq⟩ := Option.bind_eq_some_iff.mp lengthEq
      obtain ⟨rightLength, rightEq, sumEq⟩ := Option.bind_eq_some_iff.mp restEq
      obtain rfl : leftLength + rightLength = length := Option.some.inj sumEq
      by_cases leftPos : 0 < leftLength
      · exact (leftIH takesLeft leftEq leftPos).trans_le takesRight.offset_le
      · exact takesLeft.offset_le.trans_lt (rightIH takesRight rightEq (by omega))
  | alt left right leftIH rightIH =>
      obtain ⟨leftLength, leftEq, restEq⟩ := Option.bind_eq_some_iff.mp lengthEq
      obtain ⟨rightLength, rightEq, minEq⟩ := Option.bind_eq_some_iff.mp restEq
      obtain rfl : min leftLength rightLength = length := Option.some.inj minEq
      rcases takes with takes | takes
      · exact leftIH takes leftEq (by omega)
      · exact rightIH takes rightEq (by omega)

theorem Takes.advances (takes : plan.Takes first last) (consumes : plan.consumes = true) :
    first.cursor.offset < last.cursor.offset := by
  obtain ⟨length, lengthEq, positive⟩ := (Option.any_eq_true _ _).mp consumes
  exact takes.advances_of_minLength lengthEq (of_decide_eq_true positive)

end Plan

end Pattern

end Scopelight
