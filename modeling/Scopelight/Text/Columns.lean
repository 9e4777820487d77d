import Scopelight.Unicode.Width

/-!
# Columns

The number of terminal columns that a text takes, counted character by character.  Marks
that join the character before them and characters that do not show take none, wide
characters take two, and all others take one.
-/

namespace Scopelight

namespace Text

private def narrowestRanges : List (Nat × Nat) :=
  Unicode.narrowest.ranges

private def wideRanges : List (Nat × Nat) :=
  Unicode.wide.ranges

/-- The columns of a character beyond ASCII.  The sign U+17D8 is written as three. -/
def specialColumns (code : Nat) : Nat :=
  if code = 0x17D8 then 3
  else if Unicode.inRanges code narrowestRanges then 0
  else if Unicode.inRanges code wideRanges then 2
  else 1

/-- The columns of a character.  Control characters count as one. -/
def charColumns (c : Char) : Nat :=
  if c.toNat < 0xA0 then 1 else specialColumns c.toNat

/-- The columns of a text. -/
def columns : List Char → Nat
  | [] => 0
  | c :: rest => charColumns c + columns rest

/-- The longest beginning of a text that fits into a number of columns. -/
def fitColumns : Nat → List Char → List Char
  | _, [] => []
  | limit, c :: rest =>
      if charColumns c ≤ limit then c :: fitColumns (limit - charColumns c) rest else []

theorem columns_fitColumns_le (limit : Nat) (text : List Char) :
    columns (fitColumns limit text) ≤ limit := by
  induction text generalizing limit with
  | nil => simp [fitColumns, columns]
  | cons c rest ih =>
      rw [fitColumns]
      split
      next fits =>
        have := ih (limit - charColumns c)
        simp only [columns]
        omega
      next => simp [columns]

theorem fitColumns_prefix (limit : Nat) (text : List Char) :
    fitColumns limit text <+: text := by
  induction text generalizing limit with
  | nil => simp [fitColumns]
  | cons c rest ih =>
      rw [fitColumns]
      split
      next fits =>
        obtain ⟨left, split⟩ := ih (limit - charColumns c)
        exact ⟨left, by rw [List.cons_append, split]⟩
      next => exact ⟨c :: rest, rfl⟩

end Text

end Scopelight
