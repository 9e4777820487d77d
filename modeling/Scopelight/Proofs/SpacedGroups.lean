import Scopelight.Proofs.ClassifiedPieces

/-!
# Spaced groups

A plan whose groups follow one another with nothing but white space between them matches a
text of this form: its groups lie in a row from the start of the match to the end.
-/

namespace Scopelight

namespace Pattern

/-- Matches only white space. -/
def Plan.isBlank : Plan → Bool
  | .repeated _ _ _ (.chars set) => decide (set = .unicodeSpaces)
  | _ => false

/-- Groups from a number on that are wanted, take something and have no groups inside, with
white space between them. -/
def Plan.spaced (wanted : Nat → Bool) : Nat → Plan → Bool
  | group, .capture index body =>
      decide (index = group) && wanted group && body.consumes && body.slots.isEmpty
  | group, .seq (.capture index body) (.seq gap rest) =>
      (Plan.capture index body).spaced wanted group && gap.isBlank &&
        rest.spaced wanted (group + 1)
  | _, _ => false

namespace Plan

variable {line : List Char} {first last : Spot}

/-- White space is passed and nothing is noted. -/
theorem isBlank_takes {gap : Plan} (blankGap : gap.isBlank = true) (takes : gap.Takes first last)
    (inside : first.cursor.In line) :
    last.cursor.In line ∧ BlankBetween line first.cursor.offset last.cursor.offset := by
  unfold isBlank at blankGap
  split at blankGap
  · next set =>
      obtain rfl := of_decide_eq_true blankGap
      obtain ⟨count, -, -, copies⟩ := takes
      obtain ⟨text, passes, white⟩ := copies.keeps
        (fun spot => ∃ text, first.cursor.Passes text spot.cursor ∧
          ∀ c ∈ text, Unicode.isWhite c = true)
        (by
          rintro before after ⟨c, contained, step, -⟩ ⟨text, passes, white⟩
          refine ⟨text ++ [c], passes.trans step, fun d member => ?_⟩
          rcases List.mem_append.mp member with old | new
          · exact white d old
          · obtain rfl := List.mem_singleton.mp new
            exact contained)
        ⟨[], rfl, by simp⟩
      exact ⟨passes.stays inside, passes.blank inside white⟩
  · cases blankGap

theorem isBlank_slots {gap : Plan} (blankGap : gap.isBlank = true) : gap.slots = [] := by
  unfold isBlank at blankGap
  split at blankGap
  · rfl
  · cases blankGap

theorem isBlank_captureCount {gap : Plan} (blankGap : gap.isBlank = true) :
    gap.captureCount = 0 := by
  unfold isBlank at blankGap
  split at blankGap
  · rfl
  · cases blankGap

theorem captureCount_of_slots {plan : Plan} (noSlots : plan.slots = []) :
    plan.captureCount = 0 := by
  induction plan with
  | empty | text | chars | look => rfl
  | capture index body => cases noSlots
  | repeated least most greedy body ih => exact ih noSlots
  | seq left right leftIH rightIH | alt left right leftIH rightIH =>
      obtain ⟨leftNone, rightNone⟩ := List.append_eq_nil_iff.mp noSlots
      simp [captureCount, leftIH leftNone, rightIH rightNone]

variable {wanted : Nat → Bool} {group : Nat}

theorem spaced_slots {plan : Plan} (spaced : plan.spaced wanted group = true) :
    ∀ slot ∈ plan.slots, 2 * group ≤ slot := by
  induction group, plan using Plan.spaced.induct with
  | case1 group index body =>
      simp only [Plan.spaced, Bool.and_eq_true, decide_eq_true_eq, List.isEmpty_iff] at spaced
      obtain ⟨⟨⟨rfl, -⟩, -⟩, noSlots⟩ := spaced
      simp only [slots, noSlots, List.mem_cons, List.not_mem_nil, or_false]
      omega
  | case2 group index body gap rest _ restIH =>
      simp only [Plan.spaced, Bool.and_eq_true, decide_eq_true_eq, List.isEmpty_iff] at spaced
      obtain ⟨⟨⟨⟨⟨rfl, -⟩, -⟩, noSlots⟩, blankGap⟩, restSpaced⟩ := spaced
      intro slot member
      simp only [slots, noSlots, isBlank_slots blankGap, List.nil_append, List.cons_append,
        List.mem_cons] at member
      rcases member with rfl | rfl | member
      · exact Nat.le_refl _
      · exact Nat.le_add_right _ _
      · have := restIH restSpaced slot member
        omega
  | case3 => simp [Plan.spaced] at spaced

/-- A group without groups inside notes its ends and nothing else. -/
theorem capture_takes {index : Nat} {body : Plan} (noSlots : body.slots = [])
    (consumes : body.consumes = true) (takes : (Plan.capture index body).Takes first last) :
    last.saves.last? (2 * index) = some first.cursor.offset ∧
      last.saves.last? (2 * index + 1) = some last.cursor.offset ∧
      first.cursor.offset < last.cursor.offset := by
  obtain ⟨inner, innerTakes, rfl⟩ := takes
  refine ⟨?_, by simp [Spot.note, Saves.last?], innerTakes.advances consumes⟩
  rw [last?_note_of_ne inner (by omega), innerTakes.last?_eq (by simp [noSlots])]
  simp [Spot.note, Saves.last?]

variable {structural : Scope → Bool} {captures : Captures}

/-- The groups that a plan with spaced groups notes lie in a row, also with white space
before the first of them. -/
theorem spaced_row {plan : Plan} (spaced : plan.spaced wanted group = true)
    (telling : ∀ group, wanted group = true →
      ∃ names, captures.get? group = some names ∧ ¬ Vague structural names)
    (takes : plan.Takes first last) (inside : first.cursor.In line) :
    ∃ count, plan.captureCount + 1 = group + count ∧
      ∀ (saves : Saves) (start : Nat),
        (∀ slot ∈ plan.slots, saves.last? slot = last.saves.last? slot) →
        start ≤ first.cursor.offset → BlankBetween line start first.cursor.offset →
        GroupRow structural line captures group ((List.range' group count).map saves.group?)
          start last.cursor.offset := by
  induction group, plan using Plan.spaced.induct generalizing first with
  | case1 group index body =>
      simp only [Plan.spaced, Bool.and_eq_true, decide_eq_true_eq, List.isEmpty_iff] at spaced
      obtain ⟨⟨⟨rfl, isWanted⟩, consumes⟩, noSlots⟩ := spaced
      obtain ⟨names, named, tells⟩ := telling index isWanted
      obtain ⟨startEq, stopEq, proper⟩ := capture_takes noSlots consumes takes
      refine ⟨1, by simp [captureCount, captureCount_of_slots noSlots], ?_⟩
      intro saves start same startLe blank
      have groupEq : saves.group? index = some (first.cursor.offset, last.cursor.offset) := by
        simp [Saves.group?, same (2 * index) (by simp [slots]),
          same (2 * index + 1) (by simp [slots]), startEq, stopEq]
      simp only [List.range'_one, List.map_cons, List.map_nil, groupEq]
      exact .cons named tells startLe proper blank (.nil _ _)
  | case2 group index body gap rest _ restIH =>
      simp only [Plan.spaced, Bool.and_eq_true, decide_eq_true_eq, List.isEmpty_iff] at spaced
      obtain ⟨⟨⟨⟨⟨rfl, isWanted⟩, consumes⟩, noSlots⟩, blankGap⟩, restSpaced⟩ := spaced
      obtain ⟨names, named, tells⟩ := telling index isWanted
      obtain ⟨closed, groupTakes, next, gapTakes, restTakes⟩ := takes
      obtain ⟨text, passes⟩ := groupTakes.passes
      obtain ⟨nextInside, gapBlank⟩ :=
        isBlank_takes blankGap gapTakes (passes.stays inside)
      obtain ⟨startEq, stopEq, proper⟩ := capture_takes noSlots consumes groupTakes
      obtain ⟨count, countEq, row⟩ := restIH restSpaced restTakes nextInside
      have kept : ∀ slot < 2 * (index + 1), last.saves.last? slot = closed.saves.last? slot := by
        intro slot before
        rw [restTakes.last?_eq fun member => ?_, gapTakes.last?_eq (by
          simp [isBlank_slots blankGap])]
        have := spaced_slots restSpaced slot member
        omega
      refine ⟨count + 1, ?_, fun saves start same startLe blank => ?_⟩
      · simp only [captureCount, captureCount_of_slots noSlots, isBlank_captureCount blankGap]
        omega
      · have groupEq : saves.group? index =
            some (first.cursor.offset, closed.cursor.offset) := by
          simp [Saves.group?, same (2 * index) (by simp [slots]),
            same (2 * index + 1) (by simp [slots]), kept (2 * index) (by omega),
            kept (2 * index + 1) (by omega), startEq, stopEq]
        simp only [List.range'_succ, List.map_cons, groupEq]
        refine .cons named tells startLe proper blank
          (row saves closed.cursor.offset (fun slot member => same slot ?_)
            gapTakes.offset_le gapBlank)
        simp [slots, member]
  | case3 => simp [Plan.spaced] at spaced

end Plan

end Pattern

end Scopelight
