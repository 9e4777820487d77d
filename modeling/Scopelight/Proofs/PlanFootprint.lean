import Mathlib.Algebra.BigOperators.Ring.List
import Mathlib.Algebra.Ring.Nat
import Scopelight.Pattern.Scanner

/-!
# Bounds of footprints

The footprint of a plan depends on which states are shared, and with that on the slots in
which states are remembered.  A bound does not: it is what a plan takes if nothing is
shared, rounded up.  A plan whose bound keeps within the limit fits, so its pattern
compiles.
-/

namespace Scopelight

namespace Pattern

variable {First Second State Item : Type}

/-- The tally of a result that comes with a shelf. -/
abbrev Shelf.tallyOf (result : First × Shelf × Tally) : Tally :=
  result.2.2

/-- From a tally with room for a cost a count succeeds, and takes no more than the cost. -/
def Tally.Affords (tally : Tally) (cost : Nat) (tallyOf : State → Tally)
    (counted : Option State) : Prop :=
  tally.memory + cost ≤ limit →
    ∃ result, counted = some result ∧ (tallyOf result).memory ≤ tally.memory + cost

namespace Tally.Affords

variable {tally : Tally} {cost more : Nat}

theorem done {tallyOf : State → Tally} {result : State}
    (within : (tallyOf result).memory ≤ tally.memory + cost) :
    tally.Affords cost tallyOf (some result) :=
  fun _ => ⟨result, rfl, within⟩

theorem mono {tallyOf : State → Tally} {counted : Option State}
    (affords : tally.Affords cost tallyOf counted) (le : cost ≤ more) :
    tally.Affords more tallyOf counted := by
  intro room
  obtain ⟨result, countedEq, within⟩ := affords (by omega)
  exact ⟨result, countedEq, by omega⟩

theorem bind (firstOf : First → Tally) {secondOf : Second → Tally} {first : Option First}
    {next : First → Option Second} (affords : tally.Affords cost firstOf first)
    (later : ∀ result, (firstOf result).Affords more secondOf (next result)) :
    tally.Affords (cost + more) secondOf (first >>= next) := by
  intro room
  obtain ⟨result, rfl, within⟩ := affords (by omega)
  obtain ⟨last, lastEq, lastWithin⟩ := later result (by omega)
  exact ⟨last, lastEq, by omega⟩

theorem map {firstOf : First → Tally} {secondOf : Second → Tally} {first : Option First}
    {change : First → Second} (affords : tally.Affords cost firstOf first)
    (same : ∀ result, secondOf (change result) = firstOf result) :
    tally.Affords cost secondOf (first.map change) := by
  intro room
  obtain ⟨result, rfl, within⟩ := affords room
  exact ⟨change result, rfl, by rwa [same]⟩

theorem yield {firstOf : First → Tally} {secondOf : Second → Tally} {first : Option First}
    {change : First → Second} (affords : tally.Affords cost firstOf first)
    (same : ∀ result, secondOf (change result) = firstOf result) :
    tally.Affords cost secondOf (first >>= fun result => pure (change result)) := by
  intro room
  obtain ⟨result, rfl, within⟩ := affords room
  exact ⟨change result, rfl, by rwa [same]⟩

theorem grow (tally : Tally) (states extra : Nat) :
    tally.Affords (32 * states + extra) id (tally.grow states extra) := by
  intro room
  have memoryEq : Tally.memory ⟨tally.states + states, tally.extra + extra⟩ =
      tally.memory + (32 * states + extra) := by
    simp only [memory]
    omega
  exact ⟨_, by rw [Tally.grow, bounded, if_pos (memoryEq ▸ room)], Nat.le_of_eq memoryEq⟩

theorem leave (tally : Tally) (forks : Bool) :
    tally.Affords 4 id (tally.leave forks) := by
  cases forks with
  | false => exact .done (Nat.le_add_right _ _)
  | true => exact (grow tally 0 forkBytes).mono (by decide)

/-- A row of steps costs what the steps cost together. -/
theorem foldlM (tallyOf : State → Tally) {step : State → Item → Option State}
    (costOf : Item → Nat)
    (affords : ∀ state item,
      (tallyOf state).Affords (costOf item) tallyOf (step state item))
    (items : List Item) (state : State) :
    (tallyOf state).Affords (items.map costOf).sum tallyOf (items.foldlM step state) := by
  induction items generalizing state with
  | nil => exact .done (Nat.le_add_right _ _)
  | cons item items ih =>
      rw [List.foldlM_cons, List.map_cons, List.sum_cons]
      exact (affords state item).bind tallyOf ih

theorem place (shelf : Shelf) (key : List Nat) (bytes : Nat) (tally : Tally) :
    tally.Affords (32 + bytes) Shelf.tallyOf (shelf.place key bytes tally) := by
  unfold Shelf.place
  split
  · exact .done (Nat.le_add_right _ _)
  · exact (grow tally 1 bytes).map fun _ => rfl

end Tally.Affords

open Tally (Affords)

/-! ### Sets of characters -/

theorem groupByHead_length (rows : List (List Unicode.ByteRange)) :
    (groupByHead rows).length ≤ rows.length ∧
      ((groupByHead rows).map fun group => group.2.length).sum ≤ rows.length := by
  induction rows using groupByHead.induct with
  | case1 => simp [groupByHead]
  | case2 rows ih =>
      rw [groupByHead, List.length_cons]
      omega
  | case3 row rows next tails groups grouped ih =>
      simp only [groupByHead, grouped, if_pos, List.length_cons, List.map_cons,
        List.sum_cons] at ih ⊢
      omega
  | case4 range row rows next tails groups grouped differs ih =>
      simp only [groupByHead, grouped, if_neg differs, List.length_cons, List.map_cons,
        List.sum_cons, List.length_nil] at ih ⊢
      omega
  | case5 range row rows grouped ih =>
      simp only [groupByHead, grouped, List.length_cons, List.map_cons, List.sum_cons,
        List.length_nil, List.map_nil, List.sum_nil]
      omega

/-- Each row takes at most one state at each depth. -/
theorem countRows_affords (target depth : Nat) (rows : List (List Unicode.ByteRange))
    (shelf : Shelf) (tally : Tally) :
    tally.Affords (72 * depth * rows.length + 32) Shelf.tallyOf
      (countRows target depth rows shelf tally) := by
  induction depth generalizing rows shelf tally with
  | zero => exact .done (Nat.le_add_right _ _)
  | succ depth ih =>
      let costOf (group : Unicode.ByteRange × List (List Unicode.ByteRange)) : Nat :=
        72 * depth * group.2.length + 32
      have costLe : ((groupByHead rows).map costOf).sum +
          (32 + Tally.rangeBytes * (groupByHead rows).length) ≤
          72 * (depth + 1) * rows.length + 32 := by
        obtain ⟨groupsLe, tailsLe⟩ := groupByHead_length rows
        have sumEq : ((groupByHead rows).map costOf).sum =
            72 * depth * ((groupByHead rows).map fun group => group.2.length).sum +
              32 * (groupByHead rows).length := by
          simp only [costOf, List.sum_map_add, List.sum_map_mul_left, List.map_const',
            List.sum_replicate, Nat.nsmul_eq_mul, Nat.mul_comm 32]
        have := Nat.mul_le_mul_left (72 * depth) tailsLe
        rw [sumEq, Tally.rangeBytes, Nat.mul_add, Nat.add_mul]
        omega
      refine Affords.mono ?_ costLe
      unfold countRows
      refine Affords.bind Shelf.tallyOf
        (Affords.foldlM Shelf.tallyOf costOf (fun state group => ?_) _ ([], shelf, tally))
        fun result => .place _ _ _ _
      obtain ⟨keys, shelf, tally⟩ := state
      obtain ⟨range, tails⟩ := group
      simp only
      split
      · exact .done (Nat.le_add_right _ _)
      · exact (ih tails shelf tally).yield fun _ => rfl

theorem countBackwards_affords (row : List Unicode.ByteRange) (state : Nat) (shelf : Shelf)
    (tally : Tally) :
    tally.Affords (32 * row.length) Shelf.tallyOf (countBackwards row state shelf tally) := by
  induction row generalizing state shelf tally with
  | nil => exact .done (Nat.le_refl _)
  | cons range row ih =>
      have counted := (Affords.place shelf [state, range.1, range.2] 0 tally).bind
        Shelf.tallyOf fun result => ih result.1 result.2.1 result.2.2
      exact counted.mono (by rw [List.length_cons]; omega)

/-- A bound of what a set of characters takes in either direction. -/
def CharSet.cost (set : CharSet) : Nat :=
  let rows := set.ranges.flatMap fun (first, last) => Unicode.byteSequences first last
  64 + 8 * set.ranges.length + 288 * rows.length +
    (rows.map fun row => 32 * row.length + 4).sum

theorem countSet_affords (backwards : Bool) (set : CharSet) (tally : Tally) :
    tally.Affords set.cost Prod.fst (countSet backwards set tally) := by
  unfold countSet CharSet.cost
  generalize set.ranges.flatMap _ = rows
  simp only
  split
  · refine Affords.mono (.yield (.grow tally 2 _) fun _ => rfl) ?_
    rw [Tally.rangeBytes]
    omega
  split
  · refine Affords.mono (.bind id (.grow tally 2 0) fun opened => .yield
      (.foldlM Prod.snd (fun row : List _ => 32 * row.length + 4) (fun state row => ?_) rows
        (Shelf.ofSlots 1000, opened)) fun _ => rfl) ?_
    · exact .bind Shelf.tallyOf (countBackwards_affords row _ state.1 state.2)
        fun result => .yield (.leave result.2.2 true) fun _ => rfl
    · omega
  · refine Affords.mono (.bind id (.grow tally 1 0) fun opened => .yield
      (countRows_affords tally.states 4 rows (.ofSlots 10000) opened) fun _ => rfl) ?_
    omega

/-! ### Repetitions -/

section Repetitions

variable {part : Counter} {cost : Nat}

theorem countFurther_affords (affords : ∀ tally : Tally, tally.Affords cost Prod.fst (part tally))
    (count : Nat) (forks : Bool) (tally : Tally) :
    tally.Affords (count * (cost + 4)) Prod.fst (countFurther part count forks tally) := by
  induction count generalizing forks tally with
  | zero => exact .done (Nat.le_add_right _ _)
  | succ count ih =>
      have unfolded : countFurther part (count + 1) forks tally =
          part tally >>= fun result =>
            result.1.leave forks >>= fun left => countFurther part count result.2 left := by
        rw [countFurther]
        cases part tally with
        | none => rfl
        | some result => cases leftEq : result.1.leave forks <;> simp [leftEq]
      rw [unfolded]
      refine Affords.mono (.bind Prod.fst (affords tally) fun result =>
        .bind id (.leave result.1 forks) (ih result.2)) ?_
      rw [Nat.succ_mul]
      omega

theorem countCopies_affords (affords : ∀ tally : Tally, tally.Affords cost Prod.fst (part tally))
    (count : Nat) (tally : Tally) :
    tally.Affords (count * (cost + 4) + 32) Prod.fst (countCopies part count tally) := by
  cases count with
  | zero => exact Affords.mono (.map (.grow tally 1 0) fun _ => rfl) (by omega)
  | succ count =>
      have unfolded : countCopies part (count + 1) tally =
          part tally >>= fun result => countFurther part count result.2 result.1 := by
        rw [countCopies]
        cases part tally <;> rfl
      rw [unfolded]
      refine Affords.mono (.bind Prod.fst (affords tally) fun result =>
        countFurther_affords affords count result.2 result.1) ?_
      rw [Nat.succ_mul]
      omega

theorem countOptional_affords
    (affords : ∀ tally : Tally, tally.Affords cost Prod.fst (part tally)) (count : Nat)
    (forks : Bool) (tally : Tally) :
    tally.Affords (count * (cost + 44) + 4) Prod.fst
      (countOptional part count forks tally) := by
  induction count generalizing forks tally with
  | zero => exact Affords.mono (.map (.leave tally forks) fun _ => rfl) (by omega)
  | succ count ih =>
      have unfolded : countOptional part (count + 1) forks tally =
          (tally.grow 1 (2 * Tally.forkBytes)).bind part >>= fun result =>
            result.1.leave forks >>= fun left => countOptional part count result.2 left := by
        rw [countOptional]
        cases (tally.grow 1 (2 * Tally.forkBytes)).bind part with
        | none => rfl
        | some result => cases leftEq : result.1.leave forks <;> simp [leftEq]
      rw [unfolded]
      refine Affords.mono (.bind Prod.fst (.bind id (.grow tally 1 _) affords)
        fun result => .bind id (.leave result.1 forks) (ih result.2)) ?_
      rw [Nat.add_mul, Tally.forkBytes]
      omega

/-- The last of the copies that are wanted, with the fork that goes back to it. -/
theorem countLoop_affords (affords : ∀ tally : Tally, tally.Affords cost Prod.fst (part tally))
    (before : Tally × Bool) :
    before.1.Affords (cost + 44) Prod.fst (do
      let result ← part before.1
      let opened ← result.1.grow 1 Tally.forkBytes
      return (← (← opened.leave before.2).leave result.2, true)) :=
  .mono (.bind Prod.fst (affords before.1) fun result =>
    .bind id (.grow result.1 1 _) fun grown => .bind id (.leave grown before.2) fun left =>
      .yield (.leave left result.2) fun _ => rfl) (Nat.le_refl (cost + 44))

/-- The copies between two bounds. -/
theorem countBetween_affords
    (affords : ∀ tally : Tally, tally.Affords cost Prod.fst (part tally)) (least most : Nat)
    (copied : Tally × Bool) :
    copied.1.Affords ((most - least) * (cost + 44) + 36) Prod.fst
      (if most ≤ least then some copied else do
        countOptional part (most - least) copied.2 (← copied.1.grow 1 0)) := by
  split
  · exact .done (Nat.le_add_right _ _)
  · exact .mono (.bind id (.grow copied.1 1 0)
      (countOptional_affords affords (most - least) copied.2)) (by omega)

/-- A bound of what a repetition takes whose body takes so much. -/
def repeatedCost (least : Nat) (most : Option Nat) (cost : Nat) : Nat :=
  (max least (most.getD 0) + 1) * (cost + 44) + 200

theorem countRepeated_affords
    (affords : ∀ tally : Tally, tally.Affords cost Prod.fst (part tally)) (least : Nat)
    (most : Option Nat) (consumes : Bool) (tally : Tally) :
    tally.Affords (repeatedCost least most cost) Prod.fst
      (countRepeated least most consumes part tally) := by
  unfold countRepeated repeatedCost
  split
  · refine Affords.mono (.bind id (.grow tally 1 _) fun opened =>
      .bind Prod.fst (affords opened) fun result =>
        .bind id (.grow result.1 1 0) fun grown =>
          .yield (.leave grown result.2) fun _ => rfl) ?_
    rw [Tally.forkBytes, Option.getD_some, show max 0 1 + 1 = 2 from rfl]
    omega
  · split
    · refine Affords.mono (.bind id (.grow tally 1 _) fun opened =>
        .bind Prod.fst (affords opened) fun result =>
          .yield (.leave result.1 result.2) fun _ => rfl) ?_
      rw [Tally.forkBytes, Option.getD_none, show max 0 0 + 1 = 1 from rfl]
      omega
    · refine Affords.mono (.bind Prod.fst (affords tally) fun result =>
        .bind id (.grow result.1 3 _) fun grown =>
          .yield (.leave grown result.2) fun _ => rfl) ?_
      rw [Tally.forkBytes, Option.getD_none, show max 0 0 + 1 = 1 from rfl]
      omega
  · next least =>
    have leastLe := Nat.mul_le_mul_left least (Nat.add_le_add_left (show 4 ≤ 44 by omega) cost)
    simp only [Option.getD_none, Nat.max_zero, Nat.succ_eq_add_one, Nat.add_mul]
    split
    · exact (countLoop_affords affords (tally, false)).mono (by omega)
    · exact Affords.mono (.bind Prod.fst (countCopies_affords affords least tally)
        (countLoop_affords affords)) (by omega)
  · next most _ =>
    have leastLe := Nat.mul_le_mul_left least (Nat.add_le_add_left (show 4 ≤ 44 by omega) cost)
    have together : max least most = least + (most - least) := by omega
    refine Affords.mono (.bind Prod.fst (countCopies_affords affords least tally)
      (countBetween_affords affords least most)) ?_
    rw [Option.getD_some, together, Nat.add_mul, Nat.add_mul]
    omega

end Repetitions

/-! ### Plans -/

/-- A bound of what a tree of words takes. -/
def textsCost (texts : List (List Nat)) : Nat :=
  let sizes (words : List (List Nat)) : Nat :=
    let (states, extra) := treeSize ((words.map List.length).foldl max 0 + 1) words
    32 * (states + 1) + extra
  sizes texts + sizes (texts.map List.reverse)

theorem countTexts_affords (backwards : Bool) (texts : List (List Nat)) (tally : Tally) :
    tally.Affords (textsCost texts) Prod.fst (countTexts backwards texts tally) := by
  unfold countTexts textsCost
  cases backwards with
  | false => exact .mono (.yield (.grow tally _ _) fun _ => rfl) (Nat.le_add_right _ _)
  | true => exact .mono (.yield (.grow tally _ _) fun _ => rfl) (Nat.le_add_left _ _)

theorem endBranch_affords {tally : Tally} {cost : Nat} {counted : Option (Tally × Bool)}
    (affords : tally.Affords cost Prod.fst counted) (number : Nat) :
    tally.Affords (cost + 72) Prod.fst (endBranch number counted) := by
  unfold endBranch
  refine Affords.bind Prod.fst affords fun result => ?_
  simp only
  split
  · exact .done (Nat.le_add_right _ _)
  · refine Affords.mono (.bind id (.grow result.1 _ _) fun grown =>
      .yield (.leave grown result.2) fun _ => rfl) ?_
    rw [Tally.forkBytes]
    split <;> omega

/-- A part between the states that note its ends, which only matter forwards. -/
theorem captured_affords {part : Counter} {cost : Nat}
    (affords : ∀ tally : Tally, tally.Affords cost Prod.fst (part tally)) (backwards : Bool)
    (tally : Tally) :
    tally.Affords (cost + 68) Prod.fst
      (if backwards then part tally
      else do
        let result ← part (← tally.grow 1 0)
        return (← (← result.1.grow 1 0).leave result.2, false)) := by
  split
  · exact (affords tally).mono (Nat.le_add_right _ _)
  · refine Affords.mono (.bind id (.grow tally 1 0) fun opened =>
      .bind Prod.fst (affords opened) fun result =>
        .bind id (.grow result.1 1 0) fun grown => .yield (.leave grown result.2) fun _ => rfl) ?_
    omega

/-- Two parts one after the other. -/
theorem joined_affords {left right : Counter} {leftCost rightCost : Nat}
    (leftAffords : ∀ tally : Tally, tally.Affords leftCost Prod.fst (left tally))
    (rightAffords : ∀ tally : Tally, tally.Affords rightCost Prod.fst (right tally))
    (tally : Tally) :
    tally.Affords (leftCost + rightCost + 4) Prod.fst (do
      let before ← left tally
      let result ← right before.1
      return (← result.1.leave before.2, result.2)) := by
  refine Affords.mono (.bind Prod.fst (leftAffords tally) fun before =>
    .bind Prod.fst (rightAffords before.1) fun result =>
      .yield (.leave result.1 before.2) fun _ => rfl) ?_
  omega

namespace Plan

/-- A bound of what a plan takes in either direction. -/
def cost : Plan → Nat
  | .empty => 104
  | .text first rest => 32 * (textBytes (first :: rest)).length + 72
  | .chars set => set.cost + 72
  | .look _ => 104
  | .capture _ body => body.cost + 140
  | .repeated least most _ body => repeatedCost least most body.cost + 72
  | .seq first rest => first.cost + rest.cost + 76
  | .alt first rest =>
      ((Plan.alt first rest).branches.mapM textBytes?).elim 0 textsCost +
        first.cost + rest.cost + 72

theorem count_affords (plan : Plan) (backwards : Bool) (number : Nat) (tally : Tally) :
    tally.Affords plan.cost Prod.fst (plan.count backwards number tally) := by
  induction plan generalizing number tally with
  | empty =>
      exact Affords.mono (endBranch_affords (.map (.grow tally 1 0) fun _ => rfl) number)
        (Nat.le_refl 104)
  | text first rest =>
      exact Affords.mono (endBranch_affords (.map (.grow tally _ 0) fun _ => rfl) number)
        (Nat.le_refl _)
  | chars set => exact endBranch_affords (countSet_affords backwards set tally) number
  | look condition =>
      exact Affords.mono (endBranch_affords (.map (.grow tally 1 0) fun _ => rfl) number)
        (Nat.le_refl 104)
  | capture index body ih =>
      exact endBranch_affords (captured_affords (ih 0) backwards tally) number
  | repeated least most greedy body ih =>
      exact endBranch_affords
        (countRepeated_affords (ih 0) least most body.consumes tally) number
  | seq first rest firstIH restIH =>
      rw [count, cost]
      split
      · exact (endBranch_affords (joined_affords (restIH 0) (firstIH 0) tally) number).mono
          (by omega)
      · exact endBranch_affords (joined_affords (firstIH 0) (restIH 0) tally) number
  | alt first rest firstIH restIH =>
      rw [count, cost]
      split
      · next texts textsEq =>
          split at textsEq
          · rw [textsEq]
            exact (countTexts_affords backwards texts tally).mono (by simp; omega)
          · cases textsEq
      · refine Affords.mono (.bind Prod.fst (endBranch_affords (firstIH 0 tally) _)
          fun result => restIH _ result.1) ?_
        omega

theorem fits_of_cost_le {plan : Plan} (small : plan.cost + 288 ≤ Tally.limit) :
    plan.fits = true := by
  have counts : ∀ backwards, (plan.countAll backwards).isSome = true := by
    intro backwards
    have counted : ∀ start : Tally, start.memory ≤ 112 → Option.isSome (do
        let result ← (Plan.capture 0 plan).count backwards 0 start
        (← result.1.grow 1 0).leave result.2) = true := by
      intro start startLe
      obtain ⟨last, lastEq, -⟩ := Affords.bind Prod.fst
        ((Plan.capture 0 plan).count_affords backwards 0 start) (fun result =>
          .bind id (.grow result.1 1 0) fun grown => .leave grown result.2)
        (by rw [cost]; omega)
      exact Option.isSome_iff_exists.mpr ⟨last, lastEq⟩
    have startLe (fixed : Bool) : Tally.memory (if fixed then ⟨1, 0⟩
        else ⟨3, Tally.rangeBytes + 2 * Tally.forkBytes⟩) ≤ 112 := by
      cases fixed <;> decide
    exact counted _ (startLe _)
  rw [fits, counts, counts]
  rfl

end Plan

/-- The plan of a pattern that has no anchors. -/
def plainPlan? (text : String) : Option Plan := do
  let (stripped, anchored) := stripAnchor text.toList
  if anchored then none else (← Expr.parse? stripped).lower? {}

/-- A pattern compiles to the program of its plan if the bound of the plan is small. -/
theorem compile?_of_plainPlan? {text : String} {plan : Plan}
    (planEq : plainPlan? text = some plan) (small : plan.cost + 288 ≤ Tally.limit) :
    compile? text = some (.ofPlan plan false) := by
  unfold plainPlan? at planEq
  unfold compile?
  generalize stripAnchor text.toList = strips at planEq ⊢
  obtain ⟨stripped, anchored⟩ := strips
  cases anchored with
  | true => cases planEq
  | false =>
      obtain ⟨expr, parses, lowers⟩ := Option.bind_eq_some_iff.mp planEq
      simp [parses, lowers, Plan.fits_of_cost_le small]

end Pattern

end Scopelight
