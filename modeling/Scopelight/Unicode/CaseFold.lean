import Scopelight.Unicode.CaseOrbit

/-!
# Caseless comparison

The case orbit of a character: the characters it equals when case is ignored, itself
included.
-/

namespace Scopelight

namespace Unicode

/-- The code points of an orbit stored as six hexadecimal digits each, of which there are
at most four. -/
def unpackOrbit : Nat → Nat → List Nat → List Nat
  | 0, _, members => members
  | count + 1, packed, members =>
      if packed = 0 then members
      else unpackOrbit count (packed / 0x1000000) (packed % 0x1000000 :: members)

def asciiOrbits : List (List Nat) :=
  CaseOrbit.asciiPacked.map fun packed => unpackOrbit 4 packed []

def otherOrbits : List (List Nat) :=
  CaseOrbit.otherPacked.map fun packed => unpackOrbit 4 packed []

def caseOrbits : List (List Nat) :=
  asciiOrbits ++ otherOrbits

/-- The first orbit of a list that holds a code point. -/
def findOrbit (code : Nat) : List (List Nat) → Option (List Nat)
  | [] => none
  | orbit :: rest => if orbit.contains code then some orbit else findOrbit code rest

/-- The code points that equal a code point up to case, itself included. -/
def caseOrbit (code : Nat) : List Nat :=
  match findOrbit code asciiOrbits with
  | some orbit => orbit
  | none =>
      if code < 0x80 then [code]
      else (findOrbit code otherOrbits).getD [code]

end Unicode

end Scopelight
