import Scopelight.Unicode.Ranges

/-!
# White space

The characters with the property `White_Space`, and the two ways in which texts are cut
at them: trimming both ends, and splitting into words.
-/

namespace Scopelight

namespace Unicode

/-- The code points of white space in ascending order. -/
def whiteRanges : List (Nat × Nat) :=
  [(0x09, 0x0D), (0x20, 0x20), (0x85, 0x85), (0xA0, 0xA0), (0x1680, 0x1680),
   (0x2000, 0x200A), (0x2028, 0x2029), (0x202F, 0x202F), (0x205F, 0x205F), (0x3000, 0x3000)]

def isWhite (c : Char) : Bool :=
  inRanges c.toNat whiteRanges

/-- A text without the white space at its two ends. -/
def trimWhite (text : List Char) : List Char :=
  ((text.dropWhile isWhite).reverse.dropWhile isWhite).reverse

/-- The maximal runs of characters that are not white space, given the run in progress
last character first. -/
def wordsFrom (current : List Char) : List Char → List (List Char)
  | [] => if current.isEmpty then [] else [current.reverse]
  | c :: rest =>
      if isWhite c then
        if current.isEmpty then wordsFrom [] rest
        else current.reverse :: wordsFrom [] rest
      else wordsFrom (c :: current) rest

def words (text : List Char) : List (List Char) :=
  wordsFrom [] text

end Unicode

end Scopelight
