import Mathlib.Data.List.Chain
import Scopelight.Line.Pieces

/-!
# Pieces that are laid one after another

All pieces of a line come from one operation, which covers the line up to an offset with
some scopes.  So the pieces always tile what they cover: none is empty, each starts where
the one before it ends, and neighbours have different scopes.  What the offsets and the
scopes of a match with its groups can be is a closure of this operation.
-/

namespace Scopelight

/-- Tokens that tile a line of some length. -/
structure Tiling (tokens : List Token) (length : Nat) : Prop where
  nonempty : ∀ token ∈ tokens, token.start < token.stop
  adjacent : tokens.IsChain fun left right =>
    left.stop = right.start ∧ left.scopes ≠ right.scopes
  first : ∀ token ∈ tokens.head?, token.start = 0
  /-- The last token ends at the end of the line; without tokens the line is empty. -/
  last : (tokens.getLast?.map Token.stop).getD 0 = length

theorem Tiling.eq_nil {tokens : List Token} (tiling : Tiling tokens 0) : tokens = [] := by
  by_contra someToken
  have found := List.getLast?_eq_some_getLast someToken
  have stopZero := tiling.last
  rw [found] at stopZero
  have := tiling.nonempty _ (List.getLast_mem someToken)
  simp only [Option.map_some, Option.getD_some] at stopZero
  omega

theorem Tiling.concat {tokens : List Token} {length : Nat} (tiling : Tiling tokens length)
    (token : Token) (startEq : token.start = length) (nonempty : token.start < token.stop)
    (changes : ∀ last ∈ tokens.getLast?, last.scopes ≠ token.scopes) :
    Tiling (tokens ++ [token]) token.stop where
  nonempty := by
    intro other member
    rcases List.mem_append.mp member with old | new
    · exact tiling.nonempty other old
    · rw [List.mem_singleton.mp new]
      exact nonempty
  adjacent := by
    refine List.isChain_append.mpr ⟨tiling.adjacent, List.isChain_singleton token, ?_⟩
    intro last isLast head isHead
    obtain rfl : token = head := by simpa using isHead
    have ends := tiling.last
    rw [Option.mem_def.mp isLast] at ends
    exact ⟨by simpa [startEq] using ends, changes last isLast⟩
  first := by
    intro head isHead
    cases tokens with
    | nil =>
        obtain rfl : token = head := by simpa using isHead
        simpa [startEq] using tiling.last.symm
    | cons old tokens => exact tiling.first head isHead
  last := by simp

theorem Tiling.extend {tokens : List Token} {last : Token} {length stop : Nat}
    (tiling : Tiling (tokens ++ [last]) length) (longer : length < stop) :
    Tiling (tokens ++ [{ last with stop }]) stop where
  nonempty := by
    intro other member
    rcases List.mem_append.mp member with old | new
    · exact tiling.nonempty other (List.mem_append_left _ old)
    · have ends : last.stop = length := by simpa using tiling.last
      have := tiling.nonempty last (by simp)
      rw [List.mem_singleton.mp new]
      simp only
      omega
  adjacent := by
    obtain ⟨before, -, meets⟩ := List.isChain_append.mp tiling.adjacent
    refine List.isChain_append.mpr ⟨before, List.isChain_singleton _, ?_⟩
    intro previous isPrevious head isHead
    obtain rfl : { last with stop } = head := by simpa using isHead
    exact meets previous isPrevious last (by simp)
  first := by
    intro head isHead
    cases tokens with
    | nil =>
        obtain rfl : { last with stop } = head := by simpa using isHead
        exact tiling.first last (by simp)
    | cons old tokens => exact tiling.first head isHead
  last := by simp

/-- Every offset before the end lies in a token. -/
theorem Tiling.exists_token {tokens : List Token} {length offset : Nat}
    (tiling : Tiling tokens length) (inside : offset < length) :
    ∃ token ∈ tokens, token.start ≤ offset ∧ offset < token.stop := by
  have starts : ∀ token ∈ tokens.head?, token.start ≤ offset := fun token member =>
    (tiling.first token member).le.trans (Nat.zero_le _)
  have ends := inside
  rw [← tiling.last] at ends
  have adjacent := tiling.adjacent
  clear tiling inside
  induction tokens with
  | nil => exact absurd ends (Nat.not_lt_zero _)
  | cons first rest ih =>
      by_cases here : offset < first.stop
      · exact ⟨first, List.mem_cons_self, starts first rfl, here⟩
      · cases rest with
        | nil => exact absurd ends here
        | cons second rest =>
            obtain ⟨⟨meets, -⟩, later⟩ := List.isChain_cons_cons.mp adjacent
            obtain ⟨token, member, found⟩ := ih (fun token isSecond => by
              obtain rfl : second = token := Option.some.inj isSecond
              omega) (by simpa using ends) later
            exact ⟨token, List.mem_cons_of_mem _ member, found⟩

namespace Pieces

/-- The tokens laid down so far tile what they cover. -/
def Tiled (pieces : Pieces) : Prop :=
  Tiling pieces.toList pieces.covered

theorem tiled_empty : empty.Tiled where
  nonempty := by simp [empty, toList]
  adjacent := by simp [empty, toList]
  first := by simp [empty, toList]
  last := rfl

@[simp]
theorem covered_produce (pieces : Pieces) (stop : Nat) (scopes : List Scope) :
    (pieces.produce stop scopes).covered = max pieces.covered stop := by
  unfold produce
  split
  · omega
  · split
    · split <;> simp only <;> omega
    · simp only
      omega

theorem Tiled.produce {pieces : Pieces} (tiled : pieces.Tiled) (stop : Nat)
    (scopes : List Scope) : (pieces.produce stop scopes).Tiled := by
  obtain ⟨tokens, covered⟩ := pieces
  unfold Pieces.produce
  split
  case isTrue => exact tiled
  case isFalse beyond =>
    have advances : covered < stop := Nat.lt_of_not_le beyond
    cases tokens with
    | nil => exact Tiling.concat tiled _ rfl advances (by simp [toList])
    | cons last others =>
        have tiling : Tiling (others.reverse ++ [last]) covered := by
          simpa [Tiled, toList] using tiled
        simp only [Tiled, toList]
        split
        case isTrue same => simpa using tiling.extend advances
        case isFalse differs =>
          have meets : last.stop = covered := by simpa using tiling.last
          have added := tiling.concat ⟨covered, stop, scopes⟩ rfl advances
            (by simpa using fun scopesEq => differs ⟨meets, scopesEq⟩)
          simpa using added

/-- Pieces that come from others by laying down pieces that end at allowed offsets and
whose scopes go on from a base. -/
inductive Extends (stops : Nat → Prop) (base : List Scope) : Pieces → Pieces → Prop
  | refl (pieces : Pieces) : Extends stops base pieces pieces
  | produce {before after : Pieces} (extended : Extends stops base before after) {stop : Nat}
      {scopes : List Scope} (stopAllowed : stops stop) (scopesFrom : base <+: scopes) :
      Extends stops base before (after.produce stop scopes)

namespace Extends

variable {stops : Nat → Prop} {base : List Scope}

theorem trans {first second third : Pieces} (left : Extends stops base first second)
    (right : Extends stops base second third) : Extends stops base first third := by
  induction right with
  | refl => exact left
  | produce _ stopAllowed scopesFrom ih => exact ih.produce stopAllowed scopesFrom

theorem tiled {before after : Pieces} (extended : Extends stops base before after)
    (tiled : before.Tiled) : after.Tiled := by
  induction extended with
  | refl => exact tiled
  | produce _ _ _ ih => exact ih.produce _ _

theorem covered_le {before after : Pieces} {limit : Nat}
    (extended : Extends (· ≤ limit) base before after) (within : before.covered ≤ limit) :
    after.covered ≤ limit := by
  induction extended with
  | refl => exact within
  | produce _ stopAllowed _ ih =>
      rw [covered_produce]
      exact Nat.max_le.mpr ⟨ih, stopAllowed⟩

theorem scopes_from {before after : Pieces} (extended : Extends stops base before after)
    (fromBase : ∀ token ∈ before.tokens, base <+: token.scopes) :
    ∀ token ∈ after.tokens, base <+: token.scopes := by
  induction extended with
  | refl => exact fromBase
  | @produce after _ stop scopes _ scopesFrom ih =>
      obtain ⟨tokens, covered⟩ := after
      unfold Pieces.produce
      split
      · exact ih
      · cases tokens with
        | nil => simpa using scopesFrom
        | cons last others =>
            simp only
            split
            · simpa using ih
            · intro token member
              rcases List.mem_cons.mp member with rfl | old
              · exact scopesFrom
              · exact ih token old

end Extends

variable {stops : Nat → Prop} {base : List Scope}

theorem closeUpTo_extends (offset : Nat) {opened : OpenGroups} (pieces : Pieces)
    (allowed : ∀ group ∈ opened, base <+: group.1 ∧ stops group.2) :
    Extends stops base pieces (closeUpTo offset opened pieces).2 ∧
      ∀ group ∈ (closeUpTo offset opened pieces).1, base <+: group.1 ∧ stops group.2 := by
  induction opened generalizing pieces with
  | nil => exact ⟨.refl pieces, allowed⟩
  | cons group outer ih =>
      obtain ⟨scopes, stop⟩ := group
      unfold closeUpTo
      split
      · have here := allowed (scopes, stop) (by simp)
        have rest := ih (pieces.produce stop scopes)
          fun group member => allowed group (by simp [member])
        exact ⟨(Extends.produce (.refl pieces) here.2 here.1).trans rest.1, rest.2⟩
      · exact ⟨.refl pieces, allowed⟩

theorem closeAll_extends {opened : OpenGroups} (pieces : Pieces)
    (allowed : ∀ group ∈ opened, base <+: group.1 ∧ stops group.2) :
    Extends stops base pieces (closeAll opened pieces) := by
  induction opened generalizing pieces with
  | nil => exact .refl pieces
  | cons group outer ih =>
      have here := allowed group (by simp)
      exact (Extends.produce (.refl pieces) here.2 here.1).trans
        (ih _ fun group member => allowed group (by simp [member]))

theorem innermost_from (scopes : List Scope) {opened : OpenGroups}
    (fromBase : base <+: scopes)
    (allowed : ∀ group ∈ opened, base <+: group.1 ∧ stops group.2) :
    base <+: innermost scopes opened := by
  cases opened with
  | nil => exact fromBase
  | cons group outer => exact (allowed group (by simp)).1

/-- The offsets at which pieces may end go down with every offset. -/
def Lower (stops : Nat → Prop) : Prop :=
  ∀ {low high : Nat}, low ≤ high → stops high → stops low

theorem layGroups_extends (lower : Lower stops) {scopes : List Scope}
    (fromBase : base <+: scopes) (captures : Captures) (matchStop group : Nat)
    {spans : List (Option (Nat × Nat))}
    (allowed : ∀ start stop, some (start, stop) ∈ spans → stops stop)
    {opened : OpenGroups} (groups : ∀ group ∈ opened, base <+: group.1 ∧ stops group.2)
    (pieces : Pieces) :
    Extends stops base pieces
      (layGroups scopes captures matchStop group spans opened pieces) := by
  induction spans generalizing group opened pieces with
  | nil => exact closeAll_extends pieces groups
  | cons span spans ih =>
      have later : ∀ start stop, some (start, stop) ∈ spans → stops stop :=
        fun start stop member => allowed start stop (by simp [member])
      unfold layGroups
      split
      case h_2 => exact ih _ later groups pieces
      case h_1 names start stop named =>
        have stopAllowed : stops stop := allowed start stop (by simp)
        simp only
        split
        case isTrue => exact ih _ later groups pieces
        case isFalse proper =>
          have closed := closeUpTo_extends start pieces groups
          have outerFrom := innermost_from scopes fromBase closed.2
          have innerStop : stops (min stop matchStop) := lower (Nat.min_le_left _ _) stopAllowed
          have startAllowed : stops start := lower (by omega) innerStop
          refine closed.1.trans ((Extends.produce (.refl _) startAllowed outerFrom).trans
            (ih _ later ?_ _))
          intro group member
          rcases List.mem_cons.mp member with rfl | old
          · exact ⟨outerFrom.trans (List.prefix_append _ _), innerStop⟩
          · exact closed.2 group old

/-- A match lays down pieces with the scopes around it or more. -/
theorem layMatch_extends (lower : Lower stops) {before scopes : List Scope}
    (beforeFrom : base <+: before) (scopesFrom : base <+: scopes) (captures : Captures)
    {found : Match} (startAllowed : stops found.start) (stopAllowed : stops found.stop)
    (groups : ∀ start stop, some (start, stop) ∈ found.captures → stops stop)
    (pieces : Pieces) :
    Extends stops base pieces (pieces.layMatch before scopes captures found) := by
  refine .produce ?_ stopAllowed scopesFrom
  refine (Extends.produce (.refl pieces) startAllowed beforeFrom).trans ?_
  unfold applyCaptures
  split
  · exact .refl _
  · exact layGroups_extends lower scopesFrom captures _ 0 groups (by simp) _

theorem layMatch_tiled {pieces : Pieces} (tiled : pieces.Tiled) (before scopes : List Scope)
    (captures : Captures) (found : Match) :
    (pieces.layMatch before scopes captures found).Tiled :=
  (layMatch_extends (fun _ _ => trivial) List.nil_prefix List.nil_prefix captures trivial
    trivial (fun _ _ _ => trivial) pieces : Extends (fun _ => True) [] pieces _).tiled tiled

end Pieces

end Scopelight
