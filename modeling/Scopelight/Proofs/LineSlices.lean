import Mathlib.Order.Bounds.Basic
import Scopelight.Paint
import Scopelight.Proofs.BlankText

/-!
# Slices of a line

An offset is moved to the nearest offset between characters on one of its sides.  Between two
such offsets lies a part of the line; two offsets that are moved towards each other, and not
past each other, always have such a part between them.
-/

namespace Scopelight

namespace Boundary

theorem zero (line : List Char) : Boundary line 0 :=
  ⟨[], line, rfl, rfl⟩

theorem cons {line : List Char} {offset : Nat} (c : Char) (boundary : Boundary line offset) :
    Boundary (c :: line) (c.utf8Size + offset) := by
  obtain ⟨before, after, rfl, rfl⟩ := boundary
  exact ⟨c :: before, after, rfl, rfl⟩

/-- A part of a line starts between characters. -/
theorem start_of_part (before rest : List Char) :
    Boundary (before ++ rest) (Text.byteLength before) :=
  ⟨before, rest, rfl, rfl⟩

/-- A part of a line ends between characters. -/
theorem stop_of_part (before part after : List Char) :
    Boundary (before ++ (part ++ after)) (Text.byteLength before + Text.byteLength part) :=
  ⟨before ++ part, after, by rw [List.append_assoc], Text.byteLength_append before part⟩

/-- Past the first character, the offsets between characters are those of the rest. -/
theorem eq_zero_or_cons {line : List Char} {c : Char} {offset : Nat}
    (boundary : Boundary (c :: line) offset) :
    offset = 0 ∨ ∃ later, Boundary line later ∧ offset = c.utf8Size + later := by
  obtain ⟨before, after, lineEq, rfl⟩ := boundary
  cases before with
  | nil => exact .inl rfl
  | cons d before =>
      obtain ⟨rfl, rfl⟩ := List.cons.inj lineEq
      exact .inr ⟨_, ⟨before, after, rfl, rfl⟩, rfl⟩

end Boundary

namespace Text

theorem boundary_boundaryFrom (offset : Nat) (line : List Char) :
    Boundary line (boundaryFrom offset line) := by
  induction line generalizing offset with
  | nil => exact .zero []
  | cons c rest ih =>
      rw [boundaryFrom]
      split
      · exact .zero _
      · exact (ih _).cons c

/-- Moved on, an offset of a line stops at the first place between characters. -/
theorem isLeast_boundaryFrom {offset : Nat} {line : List Char}
    (offsetLe : offset ≤ byteLength line) :
    IsLeast {place | Boundary line place ∧ offset ≤ place} (boundaryFrom offset line) := by
  induction line generalizing offset with
  | nil =>
      obtain rfl : offset = 0 := by simpa using offsetLe
      exact ⟨⟨.zero [], Nat.zero_le _⟩, fun _ _ => Nat.zero_le _⟩
  | cons c rest ih =>
      rw [boundaryFrom]
      split
      next atStart => exact ⟨⟨.zero _, Nat.le_of_eq atStart⟩, fun _ _ => Nat.zero_le _⟩
      next inside =>
        rw [byteLength_cons] at offsetLe
        obtain ⟨⟨boundary, reached⟩, least⟩ := @ih (offset - c.utf8Size) (by omega)
        refine ⟨⟨boundary.cons c, by omega⟩, fun place ⟨placeBoundary, placeReached⟩ => ?_⟩
        obtain rfl | ⟨later, laterBoundary, rfl⟩ := placeBoundary.eq_zero_or_cons
        · omega
        · exact Nat.add_le_add_left (least ⟨laterBoundary, by omega⟩) _

/-- Moved back, an offset stops at the last place between characters. -/
theorem isGreatest_boundaryUpTo (offset : Nat) (line : List Char) :
    IsGreatest {place | Boundary line place ∧ place ≤ offset} (boundaryUpTo offset line) := by
  induction line generalizing offset with
  | nil =>
      refine ⟨⟨.zero [], Nat.zero_le _⟩, fun place ⟨boundary, _⟩ => ?_⟩
      exact boundary.le_length
  | cons c rest ih =>
      rw [boundaryUpTo]
      split
      next inside =>
        refine ⟨⟨.zero _, Nat.zero_le _⟩, fun place ⟨boundary, placeLe⟩ => ?_⟩
        obtain rfl | ⟨later, -, rfl⟩ := boundary.eq_zero_or_cons
        · exact Nat.le_refl 0
        · omega
      next past =>
        obtain ⟨⟨boundary, boundaryLe⟩, greatest⟩ := ih (offset - c.utf8Size)
        refine ⟨⟨boundary.cons c, by omega⟩, fun place ⟨placeBoundary, placeLe⟩ => ?_⟩
        obtain rfl | ⟨later, laterBoundary, rfl⟩ := placeBoundary.eq_zero_or_cons
        · exact Nat.zero_le _
        · exact Nat.add_le_add_left (greatest ⟨laterBoundary, by omega⟩) _

theorem boundaryFrom_eq {line : List Char} {offset : Nat} (boundary : Boundary line offset) :
    boundaryFrom offset line = offset :=
  (isLeast_boundaryFrom boundary.le_length).unique
    ⟨⟨boundary, Nat.le_refl _⟩, fun _ later => later.2⟩

theorem boundaryUpTo_eq {line : List Char} {offset : Nat} (boundary : Boundary line offset) :
    boundaryUpTo offset line = offset :=
  (isGreatest_boundaryUpTo offset line).unique
    ⟨⟨boundary, Nat.le_refl _⟩, fun _ earlier => earlier.2⟩

@[simp]
theorem dropBytes_zero (text : List Char) : dropBytes 0 text = text := by
  cases text <;> rfl

theorem dropBytes_append (before after : List Char) (count : Nat) :
    dropBytes (byteLength before + count) (before ++ after) = dropBytes count after := by
  induction before with
  | nil => rw [byteLength_nil, Nat.zero_add, List.nil_append]
  | cons c before ih =>
      have sizePos := c.utf8Size_pos
      rw [List.cons_append, dropBytes, byteLength_cons, if_neg (by omega), Nat.add_assoc,
        Nat.add_sub_cancel_left, ih]

theorem takeBytes_append (before after : List Char) :
    takeBytes (byteLength before) (before ++ after) = before := by
  induction before with
  | nil => cases after <;> rfl
  | cons c before ih =>
      have sizePos := c.utf8Size_pos
      rw [List.cons_append, takeBytes, byteLength_cons, if_neg (by omega), Nat.add_sub_cancel_left,
        ih]

/-- Between the offsets of its ends lies a part of a text. -/
theorem slice_append (before part after : List Char) :
    slice (byteLength before) (byteLength before + byteLength part) (before ++ (part ++ after)) =
      part := by
  have restEq : dropBytes (byteLength before) (before ++ (part ++ after)) = part ++ after :=
    (dropBytes_append before (part ++ after) 0).trans (dropBytes_zero _)
  rw [slice, restEq, Nat.add_sub_cancel_left, takeBytes_append]

theorem columns_append (first second : List Char) :
    columns (first ++ second) = columns first + columns second := by
  induction first with
  | nil => simp [columns]
  | cons c rest ih => simp [columns, ih, Nat.add_assoc]

end Text

instance (line : List Char) (offset : Nat) : Decidable (Boundary line offset) :=
  decidable_of_iff (Text.boundaryFrom offset line = offset)
    ⟨fun same => same ▸ Text.boundary_boundaryFrom offset line, Text.boundaryFrom_eq⟩

/-- Behind a beginning of a line, the places between characters cut the rest in two. -/
theorem Boundary.exists_part {before rest : List Char} {stop : Nat}
    (last : Boundary (before ++ rest) stop) (ordered : Text.byteLength before ≤ stop) :
    ∃ part after, rest = part ++ after ∧
      Text.byteLength before + Text.byteLength part = stop := by
  obtain ⟨longer, after, same, rfl⟩ := last
  rcases List.append_eq_append_iff.mp same with ⟨part, rfl, rfl⟩ | ⟨part, rfl, rfl⟩
  · exact ⟨part, after, rfl, by rw [Text.byteLength_append]⟩
  · have partEmpty : part = [] := by
      by_contra someLeft
      obtain ⟨c, more, rfl⟩ := List.exists_cons_of_ne_nil someLeft
      have sizePos := c.utf8Size_pos
      rw [Text.byteLength_append, Text.byteLength_cons] at ordered
      omega
    subst partEmpty
    exact ⟨[], rest, rfl, by simp⟩

namespace Painting

/-- The places between which a token is cut out of a line stand between characters, in this
order. -/
theorem bounds_spec (line : List Char) (start stop : Nat) :
    Boundary line (bounds line start stop).1 ∧ Boundary line (bounds line start stop).2 ∧
      (bounds line start stop).1 ≤ (bounds line start stop).2 := by
  have first := Text.boundary_boundaryFrom start line
  refine ⟨first, ?_, Nat.le_max_left _ _⟩
  rcases Nat.le_total (Text.boundaryUpTo stop line) (Text.boundaryFrom start line) with le | le
  · rw [bounds, Nat.max_eq_left le]
    exact first
  · rw [bounds, Nat.max_eq_right le]
    exact (Text.isGreatest_boundaryUpTo stop line).1.1

end Painting

end Scopelight
