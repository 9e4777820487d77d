/-!
# Byte sequences

A code point is written in one to four bytes, of which all but the first hold six bits.
The code points of a range are written by a row of byte ranges, one for each place, if the
range covers all values of every place after the first one whose value differs; any range
is cut into pieces of this kind.  Surrogates are not written at all.
-/

namespace Scopelight

namespace Unicode

/-- A range of bytes by its first and its last. -/
abbrev ByteRange := Nat × Nat

/-- The bytes of a code point. -/
def bytesOf (code : Nat) : List Nat :=
  if code < 0x80 then [code]
  else if code < 0x800 then [0xC0 + code / 0x40, 0x80 + code % 0x40]
  else if code < 0x10000 then
    [0xE0 + code / 0x1000, 0x80 + code / 0x40 % 0x40, 0x80 + code % 0x40]
  else
    [0xF0 + code / 0x40000, 0x80 + code / 0x1000 % 0x40, 0x80 + code / 0x40 % 0x40,
      0x80 + code % 0x40]

/-- The ranges of code points that are written with equally many bytes.  With each stand
the numbers of code points that share all bytes but the last, but the last two, and so on
down to the first. -/
def evenRanges : List (Nat × Nat × List Nat) :=
  [(0, 0x7F, []), (0x80, 0x7FF, [0x40]), (0x800, 0xD7FF, [0x40, 0x1000]),
   (0xE000, 0xFFFF, [0x40, 0x1000]), (0x10000, 0x10FFFF, [0x40, 0x1000, 0x40000])]

/-- The pieces of a range of code points with equally many bytes, in ascending order: the
part before the first whole block, the whole blocks, and the part after the last one. -/
def blockPieces : List Nat → Nat → Nat → List (Nat × Nat)
  | [], first, last => [(first, last)]
  | size :: sizes, first, last =>
      if first / size = last / size then [(first, last)]
      else
        let start := (first + size - 1) / size * size
        let stop := (last + 1) / size * size
        let before := if first < start then [(first, start - 1)] else []
        let whole := if start < stop then blockPieces sizes start (stop - 1) else []
        let after := if stop ≤ last then [(stop, last)] else []
        before ++ whole ++ after

/-- The rows of byte ranges that write the code points of a range, in ascending order. -/
def byteSequences (first last : Nat) : List (List ByteRange) :=
  evenRanges.flatMap fun (start, stop, sizes) =>
    if max first start ≤ min last stop then
      (blockPieces sizes (max first start) (min last stop)).map fun (low, high) =>
        (bytesOf low).zip (bytesOf high)
    else []

end Unicode

end Scopelight
