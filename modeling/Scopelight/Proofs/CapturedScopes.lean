import Scopelight.Proofs.LaidPieces

/-!
# The scopes of captured text

Groups of a match are laid down from left to right, with a stack of those that have not
ended.  Where of any two groups the later one lies inside the earlier one or behind it,
each byte of the match gets the scopes around the match and those of all groups that it
lies in, in the order of their numbers.
-/

namespace Scopelight

/-- Whether a group took part and an offset lies in its span. -/
def coversOffset (span : Option (Nat × Nat)) (offset : Nat) : Bool :=
  span.any fun (start, stop) => decide (start ≤ offset) && decide (offset < stop)

/-- The scopes of the groups over an offset, in the order of the groups, of which the first
has the given number. -/
def Captures.scopesOver (captures : Captures) (first : Nat) (groups : List (Option (Nat × Nat)))
    (offset : Nat) : List Scope :=
  (groups.zipIdx first).flatMap fun (span, group) =>
    if coversOffset span offset then (captures.get? group).getD [] else []

/-- Of two groups the later one lies inside the earlier one, or starts at its end or behind
it, if both took part. -/
def Nests (earlier later : Option (Nat × Nat)) : Prop :=
  ∀ first last, earlier = some (first, last) → ∀ start stop, later = some (start, stop) →
    (first ≤ start ∧ stop ≤ last) ∨ last ≤ start

/-- The groups of a match over a span.  The match itself is the first of them. -/
structure NestedGroups (start stop : Nat) (groups : List (Option (Nat × Nat))) : Prop where
  whole : groups.head? = some (some (start, stop))
  within : ∀ first last, some (first, last) ∈ groups → start ≤ first ∧ last ≤ stop
  nests : groups.Pairwise Nests

namespace Captures

variable {captures : Captures} {group offset : Nat} {groups : List (Option (Nat × Nat))}

@[simp]
theorem scopesOver_nil : captures.scopesOver group [] offset = [] :=
  rfl

theorem scopesOver_cons (span : Option (Nat × Nat)) :
    captures.scopesOver group (span :: groups) offset =
      (if coversOffset span offset then (captures.get? group).getD [] else []) ++
        captures.scopesOver (group + 1) groups offset := by
  simp [scopesOver, List.zipIdx_cons]

/-- Groups that start behind an offset have no scopes there. -/
theorem scopesOver_eq_nil
    (behind : ∀ start stop, some (start, stop) ∈ groups → offset < start) :
    captures.scopesOver group groups offset = [] := by
  induction groups generalizing group with
  | nil => rfl
  | cons span groups ih =>
      have notHere : coversOffset span offset = false := by
        cases span with
        | none => rfl
        | some span =>
            have := behind span.1 span.2 List.mem_cons_self
            simp [coversOffset, this]
      rw [scopesOver_cons, notHere,
        ih fun start stop member => behind start stop (List.mem_cons_of_mem _ member)]
      rfl

/-- Without declared groups there are no scopes. -/
theorem scopesOver_of_isEmpty (noCaptures : captures.isEmpty = true) :
    captures.scopesOver group groups offset = [] := by
  induction groups generalizing group with
  | nil => rfl
  | cons span groups ih =>
      have unnamed : captures.get? group = none := by
        simp [Captures.get?, List.isEmpty_iff.mp noCaptures]
      rw [scopesOver_cons, ih, unnamed]
      simp

end Captures

namespace Pieces

variable {pieces : Pieces} {base : List Scope} {captures : Captures} {group offset : Nat}
  {opened : OpenGroups} {spans : List (Option (Nat × Nat))}

/-- The scopes that have been laid over an offset, if any have. -/
def scopesAt? (pieces : Pieces) (offset : Nat) : Option (List Scope) :=
  (pieces.tokens.find? fun token =>
    decide (token.start ≤ offset) && decide (offset < token.stop)).map Token.scopes

/-- A step lays its scopes over what was not covered before, and changes nothing else. -/
theorem scopesAt?_produce (tiled : pieces.Tiled) (stop : Nat) (scopes : List Scope)
    (offset : Nat) :
    (pieces.produce stop scopes).scopesAt? offset =
      if pieces.covered ≤ offset ∧ offset < stop then some scopes
      else pieces.scopesAt? offset := by
  obtain ⟨tokens, covered⟩ := pieces
  unfold produce
  split
  case isTrue within =>
    have noneNew : ¬(covered ≤ offset ∧ offset < stop) := by
      simp only at within
      omega
    rw [if_neg noneNew]
  case isFalse beyond =>
    cases tokens with
    | nil => simp [scopesAt?]
    | cons last others =>
        have proper : last.start < last.stop := tiled.nonempty last (by simp [toList])
        simp only
        split
        case isTrue same =>
          obtain ⟨stopEq, rfl⟩ := same
          simp [scopesAt?, List.find?_cons]
          grind
        case isFalse =>
          simp [scopesAt?, List.find?_cons]
          grind

/-- What the text at an offset gets from open groups: the scopes of the innermost one that
has not ended there, or those around all groups. -/
def scopesWithin (base : List Scope) : OpenGroups → Nat → List Scope
  | [], _ => base
  | (scopes, stop) :: outer, offset =>
      if offset < stop then scopes else scopesWithin base outer offset

/-- Closing groups up to an offset lays over the text what it gets from them.  The groups
that stay open are some of those that were, and the innermost of them ends behind the
offset. -/
structure ClosesUpTo (base : List Scope) (start : Nat) (opened : OpenGroups) (pieces : Pieces)
    (rest : OpenGroups) (laid : Pieces) : Prop where
  tiled : laid.Tiled
  coveredGe : pieces.covered ≤ laid.covered
  coveredLe : pieces.covered ≤ start → laid.covered ≤ start
  scopesAtEq : ∀ offset, laid.scopesAt? offset =
    if pieces.covered ≤ offset ∧ offset < laid.covered then
      some (scopesWithin base opened offset)
    else pieces.scopesAt? offset
  withinEq : ∀ offset, start ≤ offset ∨ laid.covered ≤ offset →
    scopesWithin base opened offset = scopesWithin base rest offset
  subset : rest ⊆ opened
  openBehind : ∀ group ∈ rest.head?, start < group.2

theorem ClosesUpTo.refl (base : List Scope) {start : Nat} (tiled : pieces.Tiled)
    (openBehind : ∀ group ∈ opened.head?, start < group.2) :
    ClosesUpTo base start opened pieces opened pieces where
  tiled := tiled
  coveredGe := Nat.le_refl _
  coveredLe := id
  scopesAtEq := fun offset => by
    have nothing : ¬(pieces.covered ≤ offset ∧ offset < pieces.covered) := by omega
    rw [if_neg nothing]
  withinEq := fun _ _ => rfl
  subset := List.Subset.refl _
  openBehind := openBehind

theorem closeUpTo_closes (base : List Scope) (start : Nat) (opened : OpenGroups)
    (tiled : pieces.Tiled) :
    ClosesUpTo base start opened pieces (closeUpTo start opened pieces).1
      (closeUpTo start opened pieces).2 := by
  induction opened generalizing pieces with
  | nil => exact .refl base tiled (by simp)
  | cons innermost outer ih =>
      obtain ⟨scopes, stop⟩ := innermost
      unfold closeUpTo
      split
      case isFalse openStill => exact .refl base tiled (by simpa using openStill)
      case isTrue ended =>
        have closes := ih (tiled.produce stop scopes)
        have coveredEq := covered_produce pieces stop scopes
        have coveredGe := closes.coveredGe
        refine ⟨closes.tiled, by omega, fun le => closes.coveredLe (by omega), fun offset => ?_,
          fun offset behind => ?_, List.subset_cons_of_subset _ closes.subset,
          closes.openBehind⟩
        · rw [closes.scopesAtEq, scopesAt?_produce tiled, coveredEq, scopesWithin]
          grind
        · have past : ¬offset < stop := by omega
          rw [scopesWithin, if_neg past, closes.withinEq offset behind]

theorem closeUpTo_eq_closeAll (pieces : Pieces) {stop : Nat}
    (ended : ∀ group ∈ opened, group.2 ≤ stop) :
    closeUpTo stop opened pieces = ([], closeAll opened pieces) := by
  induction opened generalizing pieces with
  | nil => rfl
  | cons innermost outer ih =>
      obtain ⟨scopes, last⟩ := innermost
      have here : last ≤ stop := ended (scopes, last) List.mem_cons_self
      rw [closeUpTo, if_pos here, closeAll,
        ih _ fun group member => ended group (List.mem_cons_of_mem _ member)]

theorem scopesWithin_eq_innermost (endsBehind : ∀ group ∈ opened.head?, offset < group.2) :
    scopesWithin base opened offset = innermost base opened := by
  cases opened with
  | nil => rfl
  | cons group outer => rw [scopesWithin, if_pos (endsBehind group rfl), innermost]

/-- A group that starts inside the open groups, or behind those that it does not lie in, adds
its names to what the text gets from them. -/
theorem ClosesUpTo.scopesWithin_enter {start last : Nat} {rest : OpenGroups} {laid : Pieces}
    (closes : ClosesUpTo base start opened pieces rest laid)
    (inside : ∀ group ∈ opened, last ≤ group.2 ∨ group.2 ≤ start) (names : List Scope)
    (behind : start ≤ offset) :
    scopesWithin base ((innermost base rest ++ names, last) :: rest) offset =
      scopesWithin base opened offset ++
        if coversOffset (some (start, last)) offset then names else [] := by
  rw [closes.withinEq offset (.inl behind), scopesWithin]
  by_cases here : offset < last
  · have endsBehind : ∀ group ∈ rest.head?, offset < group.2 := by
      intro group isHead
      have openBehind := closes.openBehind group isHead
      have := inside group (closes.subset (List.mem_of_mem_head? isHead))
      omega
    simp [here, behind, coversOffset, scopesWithin_eq_innermost endsBehind]
  · simp [here, coversOffset]

/-- Where the laying of groups stands: the open groups end within the match, and what is
still to come starts where the line is not covered yet, inside each open group or behind
it. -/
structure Laying (stop : Nat) (opened : OpenGroups) (pieces : Pieces)
    (spans : List (Option (Nat × Nat))) : Prop where
  tiled : pieces.Tiled
  coveredLe : pieces.covered ≤ stop
  endsWithin : ∀ group ∈ opened, group.2 ≤ stop
  within : ∀ first last, some (first, last) ∈ spans → pieces.covered ≤ first ∧ last ≤ stop
  inside : ∀ first last, some (first, last) ∈ spans →
    ∀ group ∈ opened, last ≤ group.2 ∨ group.2 ≤ first
  nests : spans.Pairwise Nests

theorem Laying.skip {stop : Nat} {span : Option (Nat × Nat)}
    (laying : Laying stop opened pieces (span :: spans)) : Laying stop opened pieces spans where
  tiled := laying.tiled
  coveredLe := laying.coveredLe
  endsWithin := laying.endsWithin
  within := fun first last member => laying.within first last (List.mem_cons_of_mem _ member)
  inside := fun first last member => laying.inside first last (List.mem_cons_of_mem _ member)
  nests := (List.pairwise_cons.mp laying.nests).2

/-- The next group is entered: the groups that end before it are closed, the text before it
is laid down, and what is still to come lies inside it or behind it. -/
theorem Laying.enter {stop start last : Nat} {rest : OpenGroups} {laid : Pieces}
    (laying : Laying stop opened pieces (some (start, last) :: spans))
    (closes : ClosesUpTo base start opened pieces rest laid) (proper : start < last)
    (names : List Scope) :
    Laying stop ((innermost base rest ++ names, last) :: rest)
        (laid.produce start (innermost base rest)) spans ∧
      (laid.produce start (innermost base rest)).covered = start := by
  obtain ⟨coveredLe, lastLe⟩ := laying.within start last List.mem_cons_self
  have laidLe := closes.coveredLe coveredLe
  have coveredEq : (laid.produce start (innermost base rest)).covered = start := by
    rw [covered_produce]
    omega
  have later : ∀ first stop, some (first, stop) ∈ spans →
      (start ≤ first ∧ stop ≤ last) ∨ last ≤ first := fun first stop member =>
    (List.pairwise_cons.mp laying.nests).1 _ member start last rfl first stop rfl
  refine ⟨⟨closes.tiled.produce _ _, by omega, ?_, ?_, ?_, laying.skip.nests⟩, coveredEq⟩
  · intro group member
    rcases List.mem_cons.mp member with rfl | old
    · exact lastLe
    · exact laying.endsWithin group (closes.subset old)
  · intro first stop member
    have := later first stop member
    have := (laying.skip.within first stop member).2
    omega
  · intro first stop member group groupMem
    rcases List.mem_cons.mp groupMem with rfl | old
    · have := later first stop member
      simp only
      omega
    · exact laying.skip.inside first stop member group (closes.subset old)

/-- The text before the group has its scopes when the group is entered, and what is laid
behind goes on from the scopes inside the group. -/
theorem Laying.enter_scopesAt? {stop start last : Nat} {rest : OpenGroups} {laid : Pieces}
    (laying : Laying stop opened pieces (some (start, last) :: spans))
    (closes : ClosesUpTo base start opened pieces rest laid) (proper : start < last)
    (names later : List Scope)
    (noneBefore : offset < start → later = []) :
    (if start ≤ offset ∧ offset < stop then
        some (scopesWithin base ((innermost base rest ++ names, last) :: rest) offset ++ later)
      else (laid.produce start (innermost base rest)).scopesAt? offset) =
    if pieces.covered ≤ offset ∧ offset < stop then
      some (scopesWithin base opened offset ++
        ((if coversOffset (some (start, last)) offset then names else []) ++ later))
    else pieces.scopesAt? offset := by
  obtain ⟨coveredLe, lastLe⟩ := laying.within start last List.mem_cons_self
  have coveredGe := closes.coveredGe
  have laidLe := closes.coveredLe coveredLe
  rw [scopesAt?_produce closes.tiled, closes.scopesAtEq]
  by_cases behind : start ≤ offset
  case pos =>
    have inside := laying.inside start last List.mem_cons_self
    rw [closes.scopesWithin_enter inside names behind, List.append_assoc]
    grind
  case neg =>
    have notHere : coversOffset (some (start, last)) offset = false := by
      simp [coversOffset, behind]
    have gap (before : laid.covered ≤ offset) :
        scopesWithin base opened offset = innermost base rest := by
      rw [closes.withinEq offset (.inr before)]
      refine scopesWithin_eq_innermost fun group isHead => ?_
      have := closes.openBehind group isHead
      omega
    rw [notHere, noneBefore (by omega)]
    grind

/-- The groups that are left lay over the rest of the match what it gets from the open
groups and from them. -/
theorem layGroups_scopesAt? {stop : Nat} (laying : Laying stop opened pieces spans) :
    let laid := (layGroups base captures stop group spans opened pieces).produce stop base
    laid.Tiled ∧ laid.covered = stop ∧ ∀ offset, laid.scopesAt? offset =
      if pieces.covered ≤ offset ∧ offset < stop then
        some (scopesWithin base opened offset ++ captures.scopesOver group spans offset)
      else pieces.scopesAt? offset := by
  induction spans generalizing group opened pieces with
  | nil =>
      have closes := closeUpTo_closes base stop opened laying.tiled
      rw [closeUpTo_eq_closeAll pieces laying.endsWithin] at closes
      have coveredLe := closes.coveredLe laying.coveredLe
      have coveredGe := closes.coveredGe
      simp only at closes coveredLe coveredGe
      refine ⟨closes.tiled.produce _ _, ?_, fun offset => ?_⟩
      · rw [covered_produce, layGroups]
        omega
      · have behind := closes.withinEq offset
        rw [layGroups, scopesAt?_produce closes.tiled, closes.scopesAtEq,
          Captures.scopesOver_nil, List.append_nil]
        simp only [scopesWithin] at behind
        grind
  | cons span spans ih =>
      simp only [Captures.scopesOver_cons]
      cases span with
      | none => simpa [layGroups, coversOffset] using ih laying.skip
      | some span =>
          obtain ⟨start, last⟩ := span
          cases named : captures.get? group with
          | none => simpa [layGroups, named] using ih laying.skip
          | some names =>
              obtain ⟨coveredLe, lastLe⟩ := laying.within start last List.mem_cons_self
              have stopEq : min last stop = last := Nat.min_eq_left lastLe
              by_cases proper : start < last
              case neg =>
                have nowhere : ∀ offset, coversOffset (some (start, last)) offset = false := by
                  simp only [coversOffset, Option.any_some]
                  grind
                simpa [layGroups, named, stopEq, Nat.le_of_not_lt proper, nowhere] using
                  ih laying.skip
              case pos =>
                have closes := closeUpTo_closes base start opened laying.tiled
                obtain ⟨entered, enteredEq⟩ := laying.enter closes proper names
                simp only [layGroups, named, stopEq, if_neg (Nat.not_le_of_lt proper)]
                obtain ⟨tiled, coveredEq, scopesEq⟩ := ih entered
                refine ⟨tiled, coveredEq, fun offset => ?_⟩
                rw [scopesEq, enteredEq, Option.getD_some]
                refine laying.enter_scopesAt? closes proper names _ fun before => ?_
                refine Captures.scopesOver_eq_nil fun first stop member => ?_
                have := (entered.within first stop member).1
                omega

/-- The groups of a match are laid over it: each byte of the match gets the scopes around
the match and those of the groups that it lies in, in the order of the groups, and nothing
is laid outside the match. -/
theorem applyCaptures_scopesAt? (tiled : pieces.Tiled) {start stop : Nat}
    (coveredEq : pieces.covered = start) (startLe : start ≤ stop)
    {groups : List (Option (Nat × Nat))} (nested : NestedGroups start stop groups)
    (base : List Scope) (captures : Captures) :
    let laid := (pieces.applyCaptures base captures groups).produce stop base
    laid.Tiled ∧ laid.covered = stop ∧ ∀ offset, laid.scopesAt? offset =
      if start ≤ offset ∧ offset < stop then
        some (base ++ captures.scopesOver 0 groups offset)
      else pieces.scopesAt? offset := by
  unfold applyCaptures
  split
  case isTrue noCaptures =>
    refine ⟨tiled.produce _ _, ?_, fun offset => ?_⟩
    · rw [covered_produce]
      omega
    · rw [scopesAt?_produce tiled, coveredEq, Captures.scopesOver_of_isEmpty noCaptures,
        List.append_nil]
  case isFalse =>
    obtain ⟨others, groupsEq⟩ : ∃ others, groups = some (start, stop) :: others :=
      List.head?_eq_some_iff.mp nested.whole
    have laying : Laying stop [] pieces groups := {
      tiled := tiled
      coveredLe := by omega
      endsWithin := by simp
      within := coveredEq ▸ nested.within
      inside := by simp
      nests := nested.nests }
    have laid := @layGroups_scopesAt? pieces base captures 0 _ _ _ laying
    subst groupsEq
    rwa [coveredEq] at laid

/-- A match of five bytes with a group inside another, one behind both, a group that is
empty, one without a name and one that took no part. -/
theorem applyCaptures_scopesAt?_nested :
    let groups := [some (2, 7), some (2, 5), some (3, 4), none, some (5, 5), some (5, 7),
      some (6, 7)]
    let captures : Captures :=
      ⟨[(0, [⟨"all"⟩]), (1, [⟨"outer"⟩]), (2, [⟨"inner"⟩]), (3, [⟨"lost"⟩]), (4, [⟨"void"⟩]),
        (6, [⟨"last"⟩])]⟩
    let pieces : Pieces := ⟨[⟨0, 2, [⟨"text"⟩]⟩], 2⟩
    let laid := (pieces.applyCaptures [⟨"text"⟩] captures groups).produce 7 [⟨"text"⟩]
    pieces.Tiled ∧ NestedGroups 2 7 groups ∧ laid.Tiled ∧
      laid.scopesAt? 1 = some [⟨"text"⟩] ∧
      laid.scopesAt? 3 = some [⟨"text"⟩, ⟨"all"⟩, ⟨"outer"⟩, ⟨"inner"⟩] ∧
      laid.scopesAt? 4 = some [⟨"text"⟩, ⟨"all"⟩, ⟨"outer"⟩] ∧
      laid.scopesAt? 5 = some [⟨"text"⟩, ⟨"all"⟩] ∧
      laid.scopesAt? 6 = some [⟨"text"⟩, ⟨"all"⟩, ⟨"last"⟩] ∧ laid.scopesAt? 7 = none := by
  intro groups captures pieces laid
  have tiled : pieces.Tiled := by
    refine ⟨?_, ?_, ?_, ?_⟩ <;> simp [pieces, toList]
  have nested : NestedGroups 2 7 groups := by
    refine ⟨rfl, ?_, ?_⟩
    · simp [groups]
      omega
    · simp [groups, Nests]
  obtain ⟨laidTiled, -, scopesEq⟩ :=
    applyCaptures_scopesAt? tiled rfl (by decide) nested [⟨"text"⟩] captures
  refine ⟨tiled, nested, laidTiled, ?_, ?_, ?_, ?_, ?_, ?_⟩ <;> exact (scopesEq _).trans rfl

end Pieces

end Scopelight
