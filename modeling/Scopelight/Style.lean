import Scopelight.Unicode.White

/-!
# Styles

How a token looks: the font attributes, and the colors as indices into the palette of a
theme.
-/

namespace Scopelight

/-- A set of font attributes.  There are only sets of the four attributes: a style has no
further bits, so its number is below 16. -/
structure FontStyle where
  italic : Bool := false
  bold : Bool := false
  underline : Bool := false
  strikethrough : Bool := false
  deriving DecidableEq

namespace FontStyle

def plain : FontStyle :=
  {}

def union (first second : FontStyle) : FontStyle where
  italic := first.italic || second.italic
  bold := first.bold || second.bold
  underline := first.underline || second.underline
  strikethrough := first.strikethrough || second.strikethrough

/-- The attribute with a name; other words name none. -/
def ofWord (word : List Char) : FontStyle :=
  if word = "italic".toList then { italic := true }
  else if word = "bold".toList then { bold := true }
  else if word = "underline".toList then { underline := true }
  else if word = "strikethrough".toList then { strikethrough := true }
  else plain

/-- The attributes named in a text such as `bold italic`. -/
def parse (text : String) : FontStyle :=
  (Unicode.words text.toList).foldl (fun style word => style.union (ofWord word)) plain

/-- The attributes as a number below 16, one bit each. -/
def bits (style : FontStyle) : Nat :=
  style.italic.toNat + 2 * style.bold.toNat + 4 * style.underline.toNat +
    8 * style.strikethrough.toNat

/-- The attributes in the four low bits of a number. -/
def ofBits (bits : Nat) : FontStyle where
  italic := bits.testBit 0
  bold := bits.testBit 1
  underline := bits.testBit 2
  strikethrough := bits.testBit 3

theorem bits_lt (style : FontStyle) : style.bits < 16 := by
  obtain ⟨italic, bold, underline, strikethrough⟩ := style
  cases italic <;> cases bold <;> cases underline <;> cases strikethrough <;> decide

@[simp]
theorem ofBits_bits (style : FontStyle) : ofBits style.bits = style := by
  obtain ⟨italic, bold, underline, strikethrough⟩ := style
  cases italic <;> cases bold <;> cases underline <;> cases strikethrough <;> rfl

end FontStyle

/-- The look of a token.  The colors are palette indices, of which 0 stands for none. -/
structure Style where
  foreground : Nat := 0
  background : Nat := 0
  font : FontStyle := .plain
  deriving DecidableEq

namespace Style

def unstyled : Style :=
  {}

/-- Whether a style has no colors and no font attributes. -/
def isUnstyled (style : Style) : Bool :=
  decide (style = unstyled)

end Style

end Scopelight
