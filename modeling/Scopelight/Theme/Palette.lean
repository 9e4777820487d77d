import Scopelight.Color

/-!
# Palettes

The colors of a theme in a fixed order.  Styles refer to a color by its index; index 0
stands for no color and holds a placeholder.
-/

namespace Scopelight

/-- The colors from index 1 on. -/
structure Palette where
  entries : List Color
  deriving DecidableEq

namespace Palette

/-- The palette that holds the default colors only. -/
def ofDefaults (foreground background : Color) : Palette :=
  ⟨[foreground, background]⟩

/-- The index of a color, which is appended if it is new. -/
def intern (palette : Palette) (color : Color) : Palette × Nat :=
  match palette.entries.idxOf? color with
  | some place => (palette, place + 1)
  | none => (⟨palette.entries ++ [color]⟩, palette.entries.length + 1)

def colors (palette : Palette) : List Color :=
  .black :: palette.entries

/-- The color with an index, if the index stands for one. -/
def get? (palette : Palette) : Nat → Option Color
  | 0 => none
  | place + 1 => palette.entries[place]?

/-- The number of entries, the placeholder included. -/
def size (palette : Palette) : Nat :=
  palette.colors.length

/-- Whether there is no entry beside the placeholder. -/
def isEmpty (palette : Palette) : Bool :=
  palette.entries.isEmpty

def fontRules : String :=
  ".mtki \x7b font-style: italic; \x7d\n" ++
  ".mtkb \x7b font-weight: bold; \x7d\n" ++
  ".mtku \x7b text-decoration: underline; text-underline-position: under; \x7d\n" ++
  ".mtks \x7b text-decoration: line-through; \x7d\n" ++
  ".mtks.mtku \x7b text-decoration: underline line-through; " ++
  "text-underline-position: under; \x7d\n"

def colorRule (index : Nat) (color : Color) : String :=
  ".mtk" ++ toString index ++ " \x7b color: " ++ color.toHex ++ "; \x7d\n"

/-- The style sheet with a rule for each index and each font attribute. -/
def styleSheet (palette : Palette) : String :=
  String.join ((palette.entries.zipIdx 1).map fun (color, index) => colorRule index color) ++
    fontRules

end Palette

end Scopelight
