import Scopelight.Proofs.MatchedPlans

/-!
# White space between offsets

A line is blank between two offsets if it has only white space there.  Blank parts that meet
are a blank part together, wherever their ends lie.
-/

namespace Scopelight

/-- Every character that lies between two offsets of a line, even in part, is white space. -/
def BlankBetween (line : List Char) (start stop : Nat) : Prop :=
  ∀ before c after, line = before ++ c :: after →
    max start (Text.byteLength before) < min stop (Text.byteLength before + c.utf8Size) →
    Unicode.isWhite c = true

/-- An offset that does not lie inside a character. -/
def Boundary (line : List Char) (offset : Nat) : Prop :=
  ∃ before after, line = before ++ after ∧ Text.byteLength before = offset

variable {line : List Char} {start middle stop : Nat}

/-- A character of a text stands in its first part or behind it. -/
theorem mem_or_exists_prefix {left right before after : List Char} {c : Char}
    (same : left ++ right = before ++ c :: after) :
    (c ∈ left ∧ Text.byteLength before + c.utf8Size ≤ Text.byteLength left) ∨
      ∃ more, before = left ++ more ∧ right = more ++ c :: after := by
  rcases List.append_eq_append_iff.mp same with ⟨more, beforeEq, rightEq⟩ | ⟨more, rfl, restEq⟩
  · exact .inr ⟨more, beforeEq, rightEq⟩
  · cases more with
    | nil => exact .inr ⟨[], by simp, restEq.symm⟩
    | cons d more =>
        obtain ⟨rfl, -⟩ := List.cons.inj restEq
        exact .inl ⟨by simp, by rw [Text.byteLength_append, Text.byteLength_cons]; omega⟩

theorem Boundary.apart {before after : List Char} {c : Char} (boundary : Boundary line start)
    (lineEq : line = before ++ c :: after) :
    start ≤ Text.byteLength before ∨ Text.byteLength before + c.utf8Size ≤ start := by
  obtain ⟨left, right, same, rfl⟩ := boundary
  rcases mem_or_exists_prefix (same.symm.trans lineEq) with ⟨-, le⟩ | ⟨more, rfl, -⟩
  · exact .inr le
  · exact .inl (by rw [Text.byteLength_append]; omega)

theorem Boundary.le_length (boundary : Boundary line start) :
    start ≤ Text.byteLength line := by
  obtain ⟨before, after, rfl, rfl⟩ := boundary
  rw [Text.byteLength_append]
  exact Nat.le_add_right _ _

namespace BlankBetween

theorem of_le (le : stop ≤ start) : BlankBetween line start stop := by
  intro before c after _ overlaps
  omega

theorem trans (left : BlankBetween line start middle) (right : BlankBetween line middle stop) :
    BlankBetween line start stop := by
  intro before c after lineEq overlaps
  by_cases first : max start (Text.byteLength before) < middle
  · exact left before c after lineEq (by omega)
  · exact right before c after lineEq (by omega)

/-- White text stands between the offsets of its ends. -/
theorem of_text {before text after : List Char} (lineEq : line = before ++ (text ++ after))
    (white : ∀ c ∈ text, Unicode.isWhite c = true) :
    BlankBetween line (Text.byteLength before)
      (Text.byteLength before + Text.byteLength text) := by
  intro left c right same overlaps
  rcases mem_or_exists_prefix (lineEq.symm.trans same) with ⟨-, le⟩ | ⟨more, rfl, restEq⟩
  · omega
  · rcases mem_or_exists_prefix restEq with ⟨member, -⟩ | ⟨others, rfl, -⟩
    · exact white c member
    · simp only [Text.byteLength_append] at overlaps
      omega

/-- From an offset between characters on a line is blank up to the first character that is
not white. -/
theorem of_first (boundary : Boundary line start)
    (first : ∀ before c after, line = before ++ c :: after → start ≤ Text.byteLength before →
      Unicode.isWhite c = false → stop ≤ Text.byteLength before) :
    BlankBetween line start stop := by
  intro before c after lineEq overlaps
  by_contra notWhite
  have apart := boundary.apart lineEq
  have := first before c after lineEq (by omega) (Bool.eq_false_iff.mpr notWhite)
  omega

end BlankBetween

namespace Pattern

/-- A cursor stands in a line. -/
def Cursor.In (line : List Char) (cursor : Cursor) : Prop :=
  ∃ before, line = before ++ cursor.rest ∧ Text.byteLength before = cursor.offset

theorem Cursor.In.boundary {cursor : Cursor} (inside : cursor.In line) :
    Boundary line cursor.offset := by
  obtain ⟨before, lineEq, offsetEq⟩ := inside
  exact ⟨before, cursor.rest, lineEq, offsetEq⟩

theorem Cursor.Passes.stays {text : List Char} {first last : Cursor}
    (passes : first.Passes text last) (inside : first.In line) : last.In line := by
  obtain ⟨before, lineEq, offsetEq⟩ := inside
  obtain ⟨restEq, lastEq⟩ := passes.rest_eq
  refine ⟨before ++ text, by rw [lineEq, restEq, List.append_assoc], ?_⟩
  rw [Text.byteLength_append, offsetEq, lastEq]

/-- White text that is passed in a line. -/
theorem Cursor.Passes.blank {text : List Char} {first last : Cursor}
    (passes : first.Passes text last) (inside : first.In line)
    (white : ∀ c ∈ text, Unicode.isWhite c = true) :
    BlankBetween line first.offset last.offset := by
  obtain ⟨before, lineEq, offsetEq⟩ := inside
  obtain ⟨restEq, lastEq⟩ := passes.rest_eq
  rw [restEq] at lineEq
  rw [lastEq, ← offsetEq]
  exact .of_text lineEq white

theorem Cursor.in_of_mem_onward {prior : List Char} {before : Option Char} {rest : List Char}
    {position : Cursor}
    (member : position ∈ Cursor.onward before (Text.byteLength prior) rest) :
    position.In (prior ++ rest) := by
  induction rest generalizing prior before with
  | nil =>
      obtain rfl := List.mem_singleton.mp member
      exact ⟨prior, rfl, rfl⟩
  | cons c rest ih =>
      rcases List.mem_cons.mp member with rfl | later
      · exact ⟨prior, rfl, rfl⟩
      · have lengthEq : Text.byteLength prior + c.utf8Size = Text.byteLength (prior ++ [c]) := by
          simp [Text.byteLength_append]
        rw [lengthEq] at later
        simpa using ih later

theorem in_of_mem_positions {position : Cursor} (member : position ∈ positions line) :
    position.In line :=
  @Cursor.in_of_mem_onward [] none line position member

/-- Every part of a line stands at one of its positions. -/
theorem exists_mem_onward (before : Option Char) (offset : Nat) (left right : List Char) :
    ∃ position ∈ Cursor.onward before offset (left ++ right),
      position.rest = right ∧ position.offset = offset + Text.byteLength left := by
  induction left generalizing before offset with
  | nil => cases right <;> exact ⟨_, List.mem_cons_self, rfl, rfl⟩
  | cons c left ih =>
      obtain ⟨position, member, restEq, offsetEq⟩ := ih (some c) (offset + c.utf8Size)
      refine ⟨position, List.mem_cons_of_mem _ member, restEq, ?_⟩
      rw [offsetEq, Text.byteLength_cons, Nat.add_assoc]

theorem exists_mem_positions {left right : List Char} (lineEq : line = left ++ right) :
    ∃ position ∈ positions line,
      position.rest = right ∧ position.offset = Text.byteLength left := by
  obtain ⟨position, member, restEq, offsetEq⟩ := exists_mem_onward none 0 left right
  exact ⟨position, lineEq ▸ member, restEq, offsetEq.trans (Nat.zero_add _)⟩

end Pattern

end Scopelight
