import Mathlib.Tactic.Common
import Scopelight.Grammar.Rule

/-!
# Capture tables

The scopes of capture groups are kept in a table with a place for each group up to the
greatest one that has scopes.  Filling it takes a sum of 64 bits, room in memory and an index
into the table, and each of them can fail.  The index never does.  The others fail exactly
if scopes are given to a group that is too great; otherwise the table holds for each group
the scopes that were given last.
-/

namespace Scopelight

namespace Captures

/-- The scopes that are given last for a group, of those that are not empty. -/
def lastGiven (pairs : List (Nat × List Scope)) (group : Nat) : Option (List Scope) :=
  (pairs.filter fun pair => pair.1 = group && !pair.2.isEmpty).getLast?.map Prod.snd

/-- Scopes are given for a group that is too great for a table. -/
def Oversized (pairs : List (Nat × List Scope)) : Prop :=
  ∃ pair ∈ pairs, pair.2 ≠ [] ∧ groupLimit ≤ pair.1

variable {pairs rest : List (Nat × List Scope)} {pair : Nat × List Scope} {group : Nat}
  {captures : Captures}

theorem lastGiven_cons (pair : Nat × List Scope) (rest : List (Nat × List Scope))
    (group : Nat) :
    lastGiven (pair :: rest) group =
      (lastGiven rest group).or
        (if pair.1 = group ∧ pair.2 ≠ [] then some pair.2 else none) := by
  rw [lastGiven, lastGiven, List.filter_cons]
  by_cases given : pair.1 = group ∧ pair.2 ≠ []
  · rw [if_pos (by simpa using given), if_pos given, List.getLast?_cons]
    cases (rest.filter fun other => other.1 = group && !other.2.isEmpty).getLast? <;> rfl
  · rw [if_neg (by simpa using given), if_neg given, Option.or_none]

theorem oversized_cons :
    Oversized (pair :: rest) ↔ (pair.2 ≠ [] ∧ groupLimit ≤ pair.1) ∨ Oversized rest := by
  simp [Oversized]

theorem get?_cons (pair : Nat × List Scope) (entries : List (Nat × List Scope)) (group : Nat) :
    get? ⟨pair :: entries⟩ group =
      if pair.1 = group then some pair.2 else get? ⟨entries⟩ group := by
  unfold get?
  by_cases same : pair.1 = group <;> simp [same]

/-- There is no map if a group is too great. -/
theorem ofPairs?_of_oversized (oversized : Oversized pairs) : ofPairs? pairs = none := by
  fun_induction ofPairs? pairs with
  | case1 => simp [Oversized] at oversized
  | case2 group scopes rest empty ih =>
      rcases oversized_cons.mp oversized with ⟨someScopes, -⟩ | later
      · exact absurd (List.isEmpty_iff.mp empty) someScopes
      · exact ih later
  | case3 => rfl
  | case4 group scopes rest someScopes fits ih =>
      rcases oversized_cons.mp oversized with ⟨-, great⟩ | later
      · exact absurd great fits
      · rw [ih later]
        rfl

/-- If no group is too great, the map has for each group the scopes that are given last. -/
theorem ofPairs?_of_fits (fits : ¬Oversized pairs) :
    ∃ captures, ofPairs? pairs = some captures ∧
      ∀ group, captures.get? group = lastGiven pairs group := by
  fun_induction ofPairs? pairs with
  | case1 => exact ⟨empty, rfl, fun _ => rfl⟩
  | case2 group scopes rest empty ih =>
      obtain ⟨captures, capturesEq, getEq⟩ :=
        ih fun later => fits (oversized_cons.mpr (.inr later))
      refine ⟨captures, capturesEq, fun other => ?_⟩
      rw [getEq, lastGiven_cons, if_neg (by simp_all), Option.or_none]
  | case3 group scopes rest someScopes great =>
      exact absurd (oversized_cons.mpr (.inl ⟨by simpa using someScopes, great⟩)) fits
  | case4 group scopes rest someScopes small ih =>
      obtain ⟨later, laterEq, getEq⟩ := ih fun later => fits (oversized_cons.mpr (.inr later))
      have nonempty : scopes ≠ [] := by simpa using someScopes
      rw [laterEq, Option.bind_eq_bind, Option.bind_some]
      by_cases given : (later.get? group).isSome
      · refine ⟨later, if_pos given, fun other => ?_⟩
        rw [getEq, lastGiven_cons]
        by_cases same : group = other
        · subst same
          rw [getEq] at given
          rw [Option.or_of_isSome given]
        · rw [if_neg (fun given => same given.1), Option.or_none]
      · refine ⟨⟨(group, scopes) :: later.entries⟩, if_neg given, fun other => ?_⟩
        rw [get?_cons, lastGiven_cons]
        by_cases same : group = other
        · subst same
          have noneLater : lastGiven rest group = none := by
            rw [← getEq, ← Option.not_isSome_iff_eq_none]
            exact given
          simp [noneLater, nonempty]
        · simp [same, ← getEq]

end Captures

/-- Why a step cannot be taken: a sum does not fit into 64 bits, there is no room for a table,
or an index lies outside. -/
inductive Fault where
  | sum
  | room
  | index
  deriving DecidableEq

/-- The sum of two words of 64 bits. -/
def addWords (first second : Nat) : Except Fault Nat :=
  if first + second < 0x10000000000000000 then .ok (first + second) else .error .sum

/-- A place for each group up to the greatest one with scopes. -/
abbrev CaptureTable := Array (Option (List Scope))

namespace CaptureTable

open Captures (groupLimit lastGiven Oversized)

def get? (table : CaptureTable) (group : Nat) : Option (List Scope) :=
  table[group]?.join

/-- Add empty places up to a size. -/
def resize (table : CaptureTable) (size : Nat) : Except Fault CaptureTable :=
  if groupLimit < size then .error .room
  else .ok (table ++ Array.replicate (size - table.size) none)

def put (table : CaptureTable) (group : Nat) (scopes : List Scope) :
    Except Fault CaptureTable :=
  if inside : group < table.size then .ok (table.set group (some scopes) inside)
  else .error .index

/-- Give scopes to a group, for which there may be no place yet. -/
def insert (table : CaptureTable) (pair : Nat × List Scope) :
    Except Fault CaptureTable := do
  if pair.2.isEmpty then return table
  if table.size ≤ pair.1 then
    let size ← addWords pair.1 1
    (← table.resize size).put pair.1 pair.2
  else
    table.put pair.1 pair.2

def ofPairs (pairs : List (Nat × List Scope)) : Except Fault CaptureTable :=
  pairs.foldlM insert #[]

variable {table : CaptureTable} {pair : Nat × List Scope} {pairs : List (Nat × List Scope)}

theorem insert_empty (empty : pair.2 = []) : insert table pair = .ok table := by
  rw [insert, if_pos (List.isEmpty_iff.mpr empty)]
  rfl

theorem get?_set {group : Nat} (inside : group < table.size) (scopes : List Scope)
    (other : Nat) :
    get? (table.set group (some scopes) inside) other =
      if group = other then some scopes else table.get? other := by
  rw [get?, Array.getElem?_set]
  split <;> rfl

theorem get?_grown (table : CaptureTable) (count group : Nat) :
    get? (table ++ Array.replicate count none) group = table.get? group := by
  rw [get?, get?, Array.getElem?_append, Array.getElem?_replicate]
  by_cases inside : group < table.size
  · rw [if_pos inside]
  · rw [if_neg inside, Array.getElem?_eq_none (Nat.le_of_not_lt inside)]
    split <;> rfl

theorem put_inside {group : Nat} (inside : group < table.size) (scopes : List Scope) :
    put table group scopes = .ok (table.set group (some scopes) inside) :=
  dif_pos inside

/-- Scopes are given to a group that is small enough, and no other group changes. -/
theorem insert_fits (tableLe : table.size ≤ groupLimit) (nonempty : pair.2 ≠ [])
    (fits : pair.1 < groupLimit) :
    ∃ next, insert table pair = .ok next ∧ next.size ≤ groupLimit ∧
      ∀ group, next.get? group = if pair.1 = group then some pair.2 else table.get? group := by
  have limitEq : groupLimit = 384307168202282325 := rfl
  rw [insert, if_neg (by simpa using nonempty)]
  by_cases outside : table.size ≤ pair.1
  · have sumEq : addWords pair.1 1 = .ok (pair.1 + 1) := if_pos (by omega)
    have resizeEq : table.resize (pair.1 + 1) =
        .ok (table ++ Array.replicate (pair.1 + 1 - table.size) none) := if_neg (by omega)
    have grownSize : (table ++ Array.replicate (pair.1 + 1 - table.size) none).size =
        pair.1 + 1 := by
      rw [Array.size_append, Array.size_replicate]
      omega
    have inside :
        pair.1 < (table ++ Array.replicate (pair.1 + 1 - table.size) none).size := by
      rw [grownSize]
      exact Nat.lt_succ_self pair.1
    refine ⟨_, ?_, ?_, fun group => (get?_set inside pair.2 group).trans ?_⟩
    · rw [if_pos outside, sumEq]
      change table.resize (pair.1 + 1) >>= _ = _
      rw [resizeEq]
      exact put_inside inside pair.2
    · rw [Array.size_set, grownSize]
      exact fits
    · rw [get?_grown]
  · have inside := Nat.lt_of_not_le outside
    refine ⟨_, ?_, ?_, get?_set inside pair.2⟩
    · rw [if_neg outside, put_inside inside]
    · rwa [Array.size_set]

/-- A group that is too great has no place in any table. -/
theorem insert_oversized (tableLe : table.size ≤ groupLimit) (nonempty : pair.2 ≠ [])
    (great : groupLimit ≤ pair.1) :
    insert table pair = .error .sum ∨ insert table pair = .error .room := by
  rw [insert, if_neg (by simpa using nonempty), if_pos (Nat.le_trans tableLe great)]
  by_cases small : pair.1 + 1 < 0x10000000000000000
  · have sumEq : addWords pair.1 1 = .ok (pair.1 + 1) := if_pos small
    have resizeEq : table.resize (pair.1 + 1) = .error .room := if_pos (by omega)
    right
    rw [sumEq]
    change table.resize (pair.1 + 1) >>= _ = _
    rw [resizeEq]
    rfl
  · have sumEq : addWords pair.1 1 = .error .sum := if_neg small
    left
    rw [sumEq]
    rfl

/-- If no group is too great, all scopes are given, and those before only stay where there
are no new ones. -/
theorem insertAll_fits (tableLe : table.size ≤ groupLimit) (fits : ¬Oversized pairs) :
    ∃ last, pairs.foldlM insert table = .ok last ∧
      ∀ group, last.get? group = (lastGiven pairs group).or (table.get? group) := by
  induction pairs generalizing table with
  | nil => exact ⟨table, rfl, fun _ => rfl⟩
  | cons pair rest ih =>
      have restFits : ¬Oversized rest := fun later =>
        fits (Captures.oversized_cons.mpr (.inr later))
      rw [List.foldlM_cons]
      by_cases empty : pair.2 = []
      · rw [insert_empty empty]
        obtain ⟨last, lastEq, getEq⟩ := ih tableLe restFits
        refine ⟨last, lastEq, fun group => ?_⟩
        rw [getEq, Captures.lastGiven_cons, if_neg (fun given => given.2 empty), Option.or_none]
      · have small : pair.1 < groupLimit := Nat.lt_of_not_le fun great =>
          fits (Captures.oversized_cons.mpr (.inl ⟨empty, great⟩))
        obtain ⟨next, nextEq, nextLe, nextGet⟩ := insert_fits tableLe empty small
        obtain ⟨last, lastEq, getEq⟩ := ih nextLe restFits
        refine ⟨last, by rw [nextEq]; exact lastEq, fun group => ?_⟩
        rw [getEq, Captures.lastGiven_cons, Option.or_assoc, nextGet]
        by_cases same : pair.1 = group <;> simp [same, empty]

/-- If a group is too great, a sum or the room for a table fails, and never an index. -/
theorem insertAll_oversized (tableLe : table.size ≤ groupLimit) (oversized : Oversized pairs) :
    pairs.foldlM insert table = .error .sum ∨ pairs.foldlM insert table = .error .room := by
  induction pairs generalizing table with
  | nil => simp [Oversized] at oversized
  | cons pair rest ih =>
      rw [List.foldlM_cons]
      by_cases empty : pair.2 = []
      · rw [insert_empty empty]
        refine ih tableLe ((Captures.oversized_cons.mp oversized).resolve_left ?_)
        exact fun given => given.1 empty
      rcases Nat.lt_or_ge pair.1 groupLimit with small | great
      · obtain ⟨next, nextEq, nextLe, -⟩ := insert_fits tableLe empty small
        rw [nextEq]
        refine ih nextLe ((Captures.oversized_cons.mp oversized).resolve_left ?_)
        exact fun given => Nat.not_lt_of_le given.2 small
      · rcases insert_oversized tableLe empty great with fault | fault
        · exact .inl (by rw [fault]; rfl)
        · exact .inr (by rw [fault]; rfl)

/-- A table is filled like a map is made, or neither is, and no index is outside of the
table. -/
theorem ofPairs_eq (pairs : List (Nat × List Scope)) :
    (¬Oversized pairs → ∃ table captures, ofPairs pairs = .ok table ∧
      Captures.ofPairs? pairs = some captures ∧
      ∀ group, table.get? group = lastGiven pairs group ∧
        captures.get? group = lastGiven pairs group) ∧
    (Oversized pairs → Captures.ofPairs? pairs = none ∧
      (ofPairs pairs = .error .sum ∨ ofPairs pairs = .error .room)) := by
  constructor
  · intro fits
    obtain ⟨table, tableEq, tableGet⟩ := @insertAll_fits #[] pairs (Nat.zero_le _) fits
    obtain ⟨captures, capturesEq, capturesGet⟩ := Captures.ofPairs?_of_fits fits
    refine ⟨table, captures, tableEq, capturesEq, fun group => ⟨?_, capturesGet group⟩⟩
    rw [tableGet]
    exact Option.or_none
  · intro oversized
    exact ⟨Captures.ofPairs?_of_oversized oversized,
      insertAll_oversized (Nat.zero_le _) oversized⟩

end CaptureTable

end Scopelight
