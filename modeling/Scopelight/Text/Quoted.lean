import Scopelight.Unicode.Addition
import Scopelight.Unicode.Category
import Scopelight.Unicode.Properties

/-!
# Quoted texts in messages

Messages show a pattern between double quotes.  Quotes, backslashes and the common control
characters are written with a backslash, and characters that would not show by themselves
by their code point in hexadecimal digits.
-/

namespace Scopelight

namespace Text

private def invisibleRanges : List (List (Nat × Nat)) :=
  [Unicode.Category.control, Unicode.Category.format, Unicode.Category.privateUse,
    Unicode.Category.lineSeparator, Unicode.Category.paragraphSeparator,
    Unicode.Category.spaceSeparator].map Unicode.PackedRanges.ranges

private def unassignedRanges : List (Nat × Nat) :=
  Unicode.Category.unassigned.ranges

private def addedRanges : List (Nat × Nat) :=
  Unicode.Addition.assigned.ranges

private def joiningRanges : List (List (Nat × Nat)) :=
  [Unicode.Properties.graphemeExtend, Unicode.Addition.graphemeExtend].map
    Unicode.PackedRanges.ranges

/-- The letters without a shape that fill the place of a missing one in a syllable. -/
def fillerRanges : List (Nat × Nat) :=
  [(0x115F, 0x1160), (0x3164, 0x3164), (0xFFA0, 0xFFA0)]

/-- The sound marks of half width, which stand beside the character before them. -/
def soundMarkRanges : List (Nat × Nat) :=
  [(0xFF9E, 0xFF9F)]

/-- Whether a code point has no character to show. -/
def isInvisible (code : Nat) : Bool :=
  invisibleRanges.any (Unicode.inRanges code) || Unicode.inRanges code fillerRanges ||
    (Unicode.inRanges code unassignedRanges && !Unicode.inRanges code addedRanges)

/-- Whether the character of a code point is drawn onto the one before it. -/
def isJoining (code : Nat) : Bool :=
  joiningRanges.any (Unicode.inRanges code) && !Unicode.inRanges code soundMarkRanges

/-- Whether a character needs its code point to be shown: it is invisible, unassigned, or
joins the character before it. -/
def isHidden (c : Char) : Bool :=
  c != ' ' && (isInvisible c.toNat || isJoining c.toNat)

/-- The digits of a code point in lower-case hexadecimal. -/
def hexDigits (code : Nat) : List Char :=
  Nat.toDigits 16 code

def quoteChar (c : Char) : List Char :=
  if c = '"' then ['\\', '"']
  else if c = '\\' then ['\\', '\\']
  else if c = '\t' then ['\\', 't']
  else if c = '\r' then ['\\', 'r']
  else if c = '\n' then ['\\', 'n']
  else if c.toNat = 0 then ['\\', '0']
  else if isHidden c then ['\\', 'u', '{'] ++ hexDigits c.toNat ++ ['}']
  else [c]

def quoted (text : String) : String :=
  "\"" ++ String.ofList (text.toList.flatMap quoteChar) ++ "\""

end Text

end Scopelight
