import Scopelight.Proofs.PlanMeaning

/-!
# What matches begin with

Often the text alone tells where a plan cannot match: a match that takes something begins
with one of certain characters, and a match inside a text needs no characters that the text
does not have.  Some plans match one text, and nothing else, wherever this text comes next.
-/

namespace Scopelight

namespace Pattern

theorem Cursor.exists_passes {text after : List Char} {first : Cursor}
    (restEq : first.rest = text ++ after) : ∃ last, first.Passes text last := by
  induction text generalizing first with
  | nil => exact ⟨first, rfl⟩
  | cons c text ih =>
      have afterEq : (first.after c (text ++ after)).rest = text ++ after := rfl
      obtain ⟨last, passes⟩ := ih afterEq
      exact ⟨last, text ++ after, restEq, passes⟩

/-- Only the empty text is passed without a change of the offset. -/
theorem Cursor.Passes.stays_of_offset_le {text : List Char} {first last : Cursor}
    (passes : first.Passes text last) (stays : last.offset ≤ first.offset) : last = first := by
  cases text with
  | nil => exact passes
  | cons c text =>
      have sizePos := c.utf8Size_pos
      have offsetEq := passes.rest_eq.2
      rw [Text.byteLength_cons] at offsetEq
      omega

namespace Plan

/-- Whether a match that takes something may begin with a character. -/
def beginsBy (c : Char) : Plan → Bool
  | .empty => false
  | .text first _ => first == c
  | .chars set => set.contains c.toNat
  | .look _ => false
  | .capture _ body => body.beginsBy c
  | .repeated _ _ _ body => body.beginsBy c
  | .seq first rest => first.beginsBy c || (!first.consumes && rest.beginsBy c)
  | .alt first rest => first.beginsBy c || rest.beginsBy c

/-- Whether a plan matches nothing where a character comes next. -/
def avoids (c : Char) (plan : Plan) : Bool :=
  plan.consumes && !plan.beginsBy c

/-- Whether a match may lie in a text that has only some characters. -/
def fitsIn (alphabet : List Char) : Plan → Bool
  | .empty => true
  | .text first rest => (first :: rest).all alphabet.contains
  | .chars set => alphabet.any fun c => set.contains c.toNat
  | .look _ => true
  | .capture _ body => body.fitsIn alphabet
  | .repeated least _ _ body => least == 0 || body.fitsIn alphabet
  | .seq first rest => first.fitsIn alphabet && rest.fitsIn alphabet
  | .alt first rest => first.fitsIn alphabet || rest.fitsIn alphabet

/-- Whether a plan matches a text, and nothing else, where this text comes next. -/
def matchesOnly : Plan → List Char → Bool
  | .text first rest, whole => whole == first :: rest
  | .chars set, [c] => set.contains c.toNat
  | .seq first rest, c :: others => first.matchesOnly [c] && rest.matchesOnly others
  | _, _ => false

/-- A plan matches nothing where a rest of a text begins. -/
def Silent (plan : Plan) (rest : List Char) : Prop :=
  ∀ first last : Spot, first.cursor.rest = rest → ¬ plan.Takes first last

variable {plan : Plan} {first last : Spot} {c : Char} {rest text after : List Char}

theorem Takes.cursor_eq (takes : plan.Takes first last)
    (stays : last.cursor.offset ≤ first.cursor.offset) : last.cursor = first.cursor := by
  obtain ⟨text, passes⟩ := takes.passes
  exact passes.stays_of_offset_le stays

/-- The first of some copies that takes something stands where they all begin. -/
theorem exists_copy_of_advances {count : Nat} (copies : Times plan.Takes count first last)
    (advances : first.cursor.offset < last.cursor.offset) :
    ∃ before behind, before.cursor = first.cursor ∧ plan.Takes before behind ∧
      before.cursor.offset < behind.cursor.offset := by
  induction copies with
  | zero => exact absurd advances (Nat.lt_irrefl _)
  | @succ count first middle last earlier copy ih =>
      by_cases passed : first.cursor.offset < middle.cursor.offset
      · exact ih passed
      · have repeats : (Plan.repeated 0 none true plan).Takes first middle :=
          ⟨count, Nat.zero_le _, by simp, earlier⟩
        have stays := repeats.cursor_eq (Nat.le_of_not_lt passed)
        exact ⟨middle, last, stays, copy, stays ▸ advances⟩

theorem Takes.beginsBy (takes : plan.Takes first last) (restEq : first.cursor.rest = c :: rest)
    (advances : first.cursor.offset < last.cursor.offset) : plan.beginsBy c = true := by
  induction plan generalizing first last with
  | empty =>
      obtain rfl : last = first := takes
      exact absurd advances (Nat.lt_irrefl _)
  | text own others =>
      obtain ⟨_, ownEq, -⟩ := takes.1
      obtain ⟨rfl, -⟩ := List.cons.inj (ownEq.symm.trans restEq)
      exact beq_self_eq_true own
  | chars set =>
      obtain ⟨own, contained, ⟨_, ownEq, -⟩, -⟩ := takes
      obtain ⟨rfl, -⟩ := List.cons.inj (ownEq.symm.trans restEq)
      exact contained
  | look condition =>
      obtain ⟨-, rfl⟩ := takes
      exact absurd advances (Nat.lt_irrefl _)
  | capture index body ih =>
      obtain ⟨inner, innerTakes, rfl⟩ := takes
      exact ih innerTakes restEq advances
  | repeated least most greedy body ih =>
      obtain ⟨count, -, -, copies⟩ := takes
      obtain ⟨before, behind, same, copy, passed⟩ := exists_copy_of_advances copies advances
      exact ih copy (same ▸ restEq) passed
  | seq left right leftIH rightIH =>
      obtain ⟨middle, takesLeft, takesRight⟩ := takes
      rw [Plan.beginsBy, Bool.or_eq_true, Bool.and_eq_true, Bool.not_eq_true']
      by_cases passed : first.cursor.offset < middle.cursor.offset
      · exact .inl (leftIH takesLeft restEq passed)
      · have stays := takesLeft.cursor_eq (Nat.le_of_not_lt passed)
        refine .inr ⟨Bool.eq_false_iff.mpr fun consumes => ?_, ?_⟩
        · exact passed (takesLeft.advances consumes)
        · exact rightIH takesRight (stays ▸ restEq) (stays ▸ advances)
  | alt left right leftIH rightIH =>
      rw [Plan.beginsBy, Bool.or_eq_true]
      rcases takes with takes | takes
      · exact .inl (leftIH takes restEq advances)
      · exact .inr (rightIH takes restEq advances)

theorem Takes.fitsIn {alphabet : List Char} (takes : plan.Takes first last)
    (within : ∀ c ∈ first.cursor.rest, c ∈ alphabet) : plan.fitsIn alphabet = true := by
  induction plan generalizing first last with
  | empty | look => rfl
  | text own others =>
      rw [takes.1.rest_eq.1] at within
      refine List.all_eq_true.mpr fun c member => ?_
      exact List.contains_iff_mem.mpr (within c (List.mem_append_left _ member))
  | chars set =>
      obtain ⟨own, contained, passes, -⟩ := takes
      rw [passes.rest_eq.1] at within
      exact List.any_eq_true.mpr ⟨own, within own (by simp), contained⟩
  | capture index body ih =>
      obtain ⟨inner, innerTakes, rfl⟩ := takes
      exact ih innerTakes within
  | repeated least most greedy body ih =>
      obtain ⟨count, leastLe, -, copies⟩ := takes
      rw [Plan.fitsIn, Bool.or_eq_true, beq_iff_eq]
      cases count with
      | zero => exact .inl (Nat.le_zero.mp leastLe)
      | succ count =>
          obtain ⟨middle, copy, -⟩ := copies.cases_cons
          exact .inr (ih copy within)
  | seq left right leftIH rightIH =>
      obtain ⟨middle, takesLeft, takesRight⟩ := takes
      rw [Plan.fitsIn, Bool.and_eq_true]
      refine ⟨leftIH takesLeft within, rightIH takesRight fun c member => within c ?_⟩
      obtain ⟨text, passes⟩ := takesLeft.passes
      rw [passes.rest_eq.1]
      exact List.mem_append_right _ member
  | alt left right leftIH rightIH =>
      rw [Plan.fitsIn, Bool.or_eq_true]
      rcases takes with takes | takes
      · exact .inl (leftIH takes within)
      · exact .inr (rightIH takes within)

theorem silent_of_avoids (avoids : plan.avoids c = true) (rest : List Char) :
    plan.Silent (c :: rest) := by
  intro first last restEq takes
  obtain ⟨consumes, notBegins⟩ := (Bool.and_eq_true _ _).mp avoids
  rw [takes.beginsBy restEq (takes.advances consumes)] at notBegins
  cases notBegins

theorem text_avoids {first : Char} (differs : c ≠ first) (rest : List Char) :
    (Plan.text first rest).avoids c = true := by
  have sizePos := first.utf8Size_pos
  have consumes : (Plan.text first rest).consumes = true := by
    rw [Plan.consumes, minLength, Option.any_some, decide_eq_true_eq, Text.byteLength_cons]
    omega
  rw [avoids, consumes, Plan.beginsBy]
  simpa using Ne.symm differs

theorem silent_of_fitsIn {alphabet : List Char} (notFits : plan.fitsIn alphabet = false)
    (within : ∀ c ∈ rest, c ∈ alphabet) : plan.Silent rest := by
  intro first last restEq takes
  rw [takes.fitsIn (restEq ▸ within)] at notFits
  cases notFits

theorem takes_of_matchesOnly (only : plan.matchesOnly text = true)
    (passes : first.cursor.Passes text last.cursor) (savesEq : last.saves = first.saves) :
    plan.Takes first last := by
  fun_induction matchesOnly plan text generalizing first last with
  | case1 own others text =>
      obtain rfl := beq_iff_eq.mp only
      exact ⟨passes, savesEq⟩
  | case2 set c => exact ⟨c, only, passes, savesEq⟩
  | case3 left right c text leftIH rightIH =>
      obtain ⟨leftOnly, rightOnly⟩ := (Bool.and_eq_true _ _).mp only
      obtain ⟨rest, restEq, passes⟩ := passes
      have passesLeft : first.cursor.Passes [c] (first.cursor.after c rest) :=
        Cursor.passes_singleton restEq
      exact ⟨⟨first.cursor.after c rest, first.saves⟩, leftIH leftOnly passesLeft rfl,
        rightIH rightOnly passes savesEq⟩
  | case4 => cases only

theorem passes_of_matchesOnly (only : plan.matchesOnly text = true)
    (restEq : first.cursor.rest = text ++ after) (takes : plan.Takes first last) :
    first.cursor.Passes text last.cursor ∧ last.saves = first.saves := by
  fun_induction matchesOnly plan text generalizing first last after with
  | case1 own others text =>
      obtain rfl := beq_iff_eq.mp only
      exact takes
  | case2 set c =>
      obtain ⟨other, -, passes, savesEq⟩ := takes
      obtain ⟨rfl, -⟩ := List.cons.inj (passes.rest_eq.1.symm.trans restEq)
      exact ⟨passes, savesEq⟩
  | case3 left right c text leftIH rightIH =>
      obtain ⟨leftOnly, rightOnly⟩ := (Bool.and_eq_true _ _).mp only
      obtain ⟨middle, takesLeft, takesRight⟩ := takes
      obtain ⟨leftPasses, middleSaves⟩ := leftIH leftOnly restEq takesLeft
      have middleRest := leftPasses.rest_eq.1
      rw [restEq, List.singleton_append, List.cons_append, List.cons_inj_right] at middleRest
      obtain ⟨rightPasses, savesEq⟩ := rightIH rightOnly middleRest.symm takesRight
      exact ⟨leftPasses.trans rightPasses, savesEq.trans middleSaves⟩
  | case4 => cases only

theorem captureCount_of_matchesOnly (only : plan.matchesOnly text = true) :
    plan.captureCount = 0 := by
  fun_induction matchesOnly plan text with
  | case1 | case2 => rfl
  | case3 left right c text leftIH rightIH =>
      obtain ⟨leftOnly, rightOnly⟩ := (Bool.and_eq_true _ _).mp only
      rw [captureCount, leftIH leftOnly, rightIH rightOnly, Nat.max_self]
  | case4 => cases only

end Plan

end Pattern

end Scopelight
