/-!
# Range tables of code points

Character properties are stored as ascending ranges of code points.  A packed table keeps
six ranges in one number, twelve hexadecimal digits per range: six for the first code
point and six for the last.  Packed tables stay short on the page and cheap to elaborate;
they are unpacked once into lists of pairs, which are searched in order.
-/

namespace Scopelight

namespace Unicode

/-- Ascending ranges of code points, up to six in each number. -/
abbrev PackedRanges := List Nat

/-- The ranges in the low digits of a row come last, so they are taken off first. -/
def unpackRow : Nat → Nat → List (Nat × Nat) → List (Nat × Nat)
  | 0, _, ranges => ranges
  | count + 1, row, ranges =>
      if row = 0 then ranges
      else
        unpackRow count (row / 0x1000000000000)
          (((row / 0x1000000) % 0x1000000, row % 0x1000000) :: ranges)

/-- The ranges of a packed table as pairs of first and last code point. -/
def PackedRanges.ranges (table : PackedRanges) : List (Nat × Nat) :=
  table.flatMap fun row => unpackRow 6 row []

/-- Whether ascending ranges hold a code point. -/
def inRanges (code : Nat) : List (Nat × Nat) → Bool
  | [] => false
  | (first, last) :: rest =>
      if code < first then false
      else if code ≤ last then true
      else inRanges code rest

end Unicode

end Scopelight
