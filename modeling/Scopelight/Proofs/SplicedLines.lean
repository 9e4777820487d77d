import Scopelight.TokenCache

/-!
# Edits as splices

An edit puts new lines in the place of old ones.  Its range is cut to the lines that there
are: what lies above the range stays, what lies below it moves, and only the line that then
stands at the place of the edit loses its tokens.  The range is given by a start and a
length in words of 64 bits, and its end is added up before it is cut.  The edit is refused
where this sum is beyond a word; the wrapped sum would lie above the start.
-/

namespace Scopelight

namespace TokenCache

/-- A cache in which the lines from `first` up to `last` have given way to new ones. -/
structure Spliced (before : TokenCache) (first last inserted : Nat) (after : TokenCache) :
    Prop where
  lineCountEq : after.lineCount = first + inserted + (before.lineCount - last)
  above : ∀ line < first, after.lines[line]? = before.lines[line]?
  fresh : ∀ line < inserted, after.lines[first + line]? = some .empty
  below : ∀ line, 0 < inserted + line →
    after.lines[first + inserted + line]? = before.lines[last + line]?
  /-- Without new lines the one below the range comes to stand at the place of the edit. -/
  next : inserted = 0 → after.lines[first]? = before.lines[last]?.map CachedLine.invalidate
  noTokens : ∀ stored, after.lines[first]? = some stored → stored.tokens = none
  invalidFromEq : after.invalidFrom = min before.invalidFrom first
  generationEq : after.generation = before.generation + 1
  lineLimitEq : after.lineLimit = before.lineLimit

section Lists

variable {α : Type} {items : List α} {first line : Nat}

theorem getElem?_spliced_above (inside : first ≤ items.length) (added rest : List α)
    (above : line < first) :
    (items.take first ++ added ++ rest)[line]? = items[line]? := by
  have taken : line < (items.take first).length := by
    rw [List.length_take]
    omega
  rw [List.append_assoc, List.getElem?_append_left taken, List.getElem?_take_of_lt above]

theorem getElem?_spliced_added (inside : first ≤ items.length) (added rest : List α)
    (among : line < added.length) :
    (items.take first ++ added ++ rest)[first + line]? = added[line]? := by
  have taken : (items.take first).length = first := List.length_take_of_le inside
  rw [List.append_assoc, List.getElem?_append_right (by omega), taken, Nat.add_sub_cancel_left,
    List.getElem?_append_left among]

theorem getElem?_spliced_below (inside : first ≤ items.length) (added : List α)
    (last line : Nat) :
    (items.take first ++ added ++ items.drop last)[first + added.length + line]? =
      items[last + line]? := by
  have taken : (items.take first ++ added).length = first + added.length := by
    rw [List.length_append, List.length_take_of_le inside]
  rw [List.getElem?_append_right (by omega), taken, Nat.add_sub_cancel_left,
    List.getElem?_drop]

end Lists

/-- Putting empty lines in the place of a range of lines, and invalidating the line that then
stands there, splices the cache. -/
theorem spliced_invalidateLine (cache : TokenCache) {first last : Nat} (inserted : Nat)
    (inside : first ≤ cache.lineCount) :
    cache.Spliced first last inserted
      (invalidateLine { cache with
        lines := cache.lines.take first ++ List.replicate inserted CachedLine.empty ++
          cache.lines.drop last } first) where
  lineCountEq := by
    simp [lineCount, invalidateLine, List.length_take_of_le inside, Nat.add_assoc]
  above := by
    intro line above
    have elsewhere : first ≠ line := by omega
    simp only [invalidateLine, List.getElem?_modify_ne _ _ elsewhere]
    exact getElem?_spliced_above inside _ _ above
  fresh := by
    intro line among
    have added : line < (List.replicate inserted CachedLine.empty).length := by simpa using among
    simp only [invalidateLine, List.getElem?_modify, getElem?_spliced_added inside _ _ added,
      List.getElem?_replicate_of_lt among]
    split <;> rfl
  below := by
    intro line behind
    have elsewhere : first ≠ first + inserted + line := by omega
    simp only [invalidateLine, List.getElem?_modify_ne _ _ elsewhere]
    have moved := getElem?_spliced_below inside
      (List.replicate inserted CachedLine.empty) last line
    rwa [List.length_replicate] at moved
  next := by
    rintro rfl
    simp only [invalidateLine, List.getElem?_modify_eq]
    exact congrArg (Option.map CachedLine.invalidate)
      (getElem?_spliced_below inside [] last 0)
  noTokens := by
    intro stored found
    simp only [invalidateLine, List.getElem?_modify_eq, Option.map_eq_map,
      Option.map_eq_some_iff] at found
    obtain ⟨old, -, rfl⟩ := found
    rfl
  invalidFromEq := rfl
  generationEq := rfl
  lineLimitEq := rfl

/-- A sum that is beyond a word wraps to less than what was added to. -/
theorem toNat_add_lt {first : Nat} {removed : UInt64} (isWord : first < wordSize)
    (beyond : wordSize ≤ first + removed.toNat) : (UInt64.ofNat first + removed).toNat < first := by
  have removedLt := removed.toNat_lt
  rw [UInt64.toNat_add, UInt64.toNat_ofNat_of_lt' isWord]
  simp only [wordSize] at *
  omega

/-- An edit splices the cache at the range that its start and its length leave after they are
cut to the lines that there are.  Only an edit is refused for which the number of the line
behind the range is beyond a word; that sum would wrap to a line above the start. -/
theorem editLines_splices (cache : TokenCache) (start removed : UInt64) (inserted : Nat) :
    let first := min start.toNat cache.lineCount
    let last := min (first + removed.toNat) cache.lineCount
    (first + removed.toNat < wordSize →
      ∃ edited, cache.editLines start.toNat removed.toNat inserted = .ok edited ∧
        cache.Spliced first last inserted edited) ∧
    (wordSize ≤ first + removed.toNat →
      cache.editLines start.toNat removed.toNat inserted = .error .rangeOverflow ∧
        (UInt64.ofNat first + removed).toNat < first) := by
  intro first last
  have inside : first ≤ cache.lineCount := Nat.min_le_right _ _
  have isWord : first < wordSize := Nat.lt_of_le_of_lt (Nat.min_le_left _ _) start.toNat_lt
  constructor
  · intro fits
    exact ⟨_, editLines_eq_ok_iff.mpr ⟨fits, rfl⟩, cache.spliced_invalidateLine inserted inside⟩
  · intro beyond
    exact ⟨editLines_eq_error_iff.mpr beyond, toNat_add_lt isWord beyond⟩

/-- A cache of three lines with a token each. -/
def threeLines : TokenCache where
  lines := ["a", "b", "c"].map fun name => .ofResult ⟨[⟨0, 1, [⟨name⟩]⟩], .initial⟩
  invalidFrom := 3
  generation := 0
  lineLimit := 80

/-- Two lines in the place of the second one, and a removal that takes all lines from the
second one on.  One line more to remove is one too many. -/
theorem editLines_threeLines :
    (∃ edited, threeLines.editLines 1 1 2 = .ok edited ∧ threeLines.Spliced 1 2 2 edited) ∧
    (∃ edited, threeLines.editLines 1 0xFFFFFFFFFFFFFFFE 0 = .ok edited ∧
      threeLines.Spliced 1 3 0 edited) ∧
    threeLines.editLines 1 0xFFFFFFFFFFFFFFFF 0 = .error .rangeOverflow :=
  ⟨(editLines_splices threeLines 1 1 2).1 (by decide),
    (editLines_splices threeLines 1 0xFFFFFFFFFFFFFFFE 0).1 (by decide),
    ((editLines_splices threeLines 1 0xFFFFFFFFFFFFFFFF 0).2 (by decide)).1⟩

/-- Not every edit goes through: the greatest length is refused behind the first line. -/
theorem editLines_refused :
    threeLines.editLines 1 0xFFFFFFFFFFFFFFFF 0 = .error .rangeOverflow ∧
    ¬∀ (cache : TokenCache) (start removed : UInt64) (inserted : Nat),
      ∃ edited, cache.editLines start.toNat removed.toNat inserted = .ok edited := by
  have refused : threeLines.editLines 1 0xFFFFFFFFFFFFFFFF 0 = .error .rangeOverflow :=
    editLines_eq_error_iff.mpr (by decide)
  refine ⟨refused, fun always => ?_⟩
  obtain ⟨edited, accepted⟩ := always threeLines 1 0xFFFFFFFFFFFFFFFF 0
  cases refused.symm.trans accepted

end TokenCache

end Scopelight
