import Scopelight.Unicode.CaseFold
import Scopelight.Unicode.Ranges

/-!
# Sets of characters

A character class denotes a set of code points, which is kept as ranges in ascending order
that neither overlap nor touch.  The operations on sets keep this form, so that the number
of ranges and their ends depend on the members alone.
-/

namespace Scopelight

namespace Pattern

/-- A set of code points as ascending ranges of first and last code point. -/
structure CharSet where
  ranges : List (Nat × Nat)
  deriving DecidableEq

namespace CharSet

def contains (set : CharSet) (code : Nat) : Bool :=
  Unicode.inRanges code set.ranges

def empty : CharSet :=
  ⟨[]⟩

/-- The set of the code points from the first to the last. -/
def range (first last : Nat) : CharSet :=
  ⟨[(first, last)]⟩

def single (code : Nat) : CharSet :=
  range code code

/-- The set of a packed table, whose ranges are in order. -/
def ofPacked (table : Unicode.PackedRanges) : CharSet :=
  ⟨table.ranges⟩

/-- A range joined with those of the ranges after it that it overlaps or touches, where the
ranges come in the order of their first code points. -/
def join : Nat × Nat → List (Nat × Nat) → List (Nat × Nat)
  | current, [] => [current]
  | (first, last), (next, stop) :: rest =>
      if next ≤ last + 1 then join (first, max last stop) rest
      else (first, last) :: join (next, stop) rest

/-- A range put among ranges that come in the order of their first code points, before those
that start where it does. -/
def place (range : Nat × Nat) : List (Nat × Nat) → List (Nat × Nat)
  | [] => [range]
  | next :: rest =>
      if range.1 ≤ next.1 then range :: next :: rest else next :: place range rest

def ofRanges (ranges : List (Nat × Nat)) : CharSet :=
  match ranges.foldr place [] with
  | [] => empty
  | current :: rest => ⟨join current rest⟩

def ofList (codes : List Nat) : CharSet :=
  ofRanges (codes.map fun code => (code, code))

def union (left right : CharSet) : CharSet :=
  if left.ranges.isEmpty then right
  else if right.ranges.isEmpty then left
  else ofRanges (left.ranges ++ right.ranges)

def unions (sets : List CharSet) : CharSet :=
  match sets with
  | [set] => set
  | _ => ofRanges (sets.flatMap CharSet.ranges)

/-- The character after another one; no characters are coded from U+D800 to U+DFFF. -/
def successor (code : Nat) : Nat :=
  if code = 0xD7FF then 0xE000 else code + 1

def predecessor (code : Nat) : Nat :=
  if code = 0xE000 then 0xD7FF else code - 1

/-- The parts of a range that ascending ranges cover. -/
def meet : Nat × Nat → List (Nat × Nat) → List (Nat × Nat)
  | _, [] => []
  | (first, last), (start, stop) :: rest =>
      if stop < first then meet (first, last) rest
      else if last < start then []
      else (max first start, min last stop) :: meet (first, last) rest

/-- The parts of a range that ascending ranges leave out. -/
def cut : Nat × Nat → List (Nat × Nat) → List (Nat × Nat)
  | current, [] => [current]
  | (first, last), (start, stop) :: rest =>
      if stop < first then cut (first, last) rest
      else if last < start then [(first, last)]
      else
        let before := if first < start then [(first, predecessor start)] else []
        if stop < last then before ++ cut (successor stop, last) rest else before

def inter (left right : CharSet) : CharSet :=
  ⟨left.ranges.flatMap fun current => meet current right.ranges⟩

/-- The members of the left set that are not in the right one. -/
def diff (left right : CharSet) : CharSet :=
  ⟨left.ranges.flatMap fun current => cut current right.ranges⟩

def symmDiff (left right : CharSet) : CharSet :=
  (left.union right).diff (left.inter right)

/-- The range between two ends, whichever is the greater. -/
def between (left right : Nat) : Nat × Nat :=
  if left ≤ right then (left, right) else (right, left)

/-- The gaps after a code point that ascending ranges leave up to the greatest one.  Two
ranges that only the surrogates separate have the characters on both sides of these for
their gap. -/
def gapsAfter (greatest : Nat) : Nat → List (Nat × Nat) → List (Nat × Nat)
  | last, [] => if last < greatest then [(successor last, greatest)] else []
  | last, (start, stop) :: rest =>
      between (successor last) (predecessor start) :: gapsAfter greatest stop rest

/-- The code points up to the greatest one that are not in a set. -/
def complement (greatest : Nat) (set : CharSet) : CharSet :=
  match set.ranges with
  | [] => range 0 greatest
  | (first, last) :: rest =>
      let gaps := gapsAfter greatest last rest
      ⟨if 0 < first then (0, predecessor first) :: gaps else gaps⟩

/-- The members, and all characters that equal one of them when case is ignored. -/
def caseless (set : CharSet) : CharSet :=
  match (Unicode.caseOrbits.filter fun orbit => orbit.any set.contains).flatten with
  | [] => set
  | codes => set.union (ofList codes)

/-- The other case of the ASCII letters from `first` to `last` in a range. -/
def shiftedPart (first last : Nat) (shift : Nat → Nat) : Nat × Nat → List (Nat × Nat)
  | current => (meet current [(first, last)]).map fun (start, stop) => (shift start, shift stop)

/-- The members, and the other case of those that are ASCII letters. -/
def asciiCaseless (set : CharSet) : CharSet :=
  ofRanges <| set.ranges ++ set.ranges.flatMap fun current =>
    shiftedPart 0x41 0x5A (· + 0x20) current ++ shiftedPart 0x61 0x7A (· - 0x20) current

/-- The other case of an ASCII letter, any other code point itself. -/
def asciiOtherCase (code : Nat) : Nat :=
  if 0x41 ≤ code ∧ code ≤ 0x5A then code + 0x20
  else if 0x61 ≤ code ∧ code ≤ 0x7A then code - 0x20
  else code

def isAscii (set : CharSet) : Bool :=
  set.ranges.all fun (_, last) => decide (last < 0x80)

/-- The only member of a set that has one. -/
def only? (set : CharSet) : Option Nat :=
  match set.ranges with
  | [(first, last)] => if first = last then some first else none
  | _ => none

@[simp]
theorem contains_empty (code : Nat) : empty.contains code = false :=
  rfl

@[simp]
theorem contains_range (first last code : Nat) :
    (range first last).contains code = (decide (first ≤ code) && decide (code ≤ last)) := by
  simp only [contains, range, Unicode.inRanges]
  grind

@[simp]
theorem contains_single (code other : Nat) :
    (single code).contains other = decide (other = code) := by
  simp only [single, contains_range]
  grind

end CharSet

end Pattern

end Scopelight
