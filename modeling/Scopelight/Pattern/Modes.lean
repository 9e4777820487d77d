import Scopelight.Pattern.Look

/-!
# Modes

The modes in force decide what a class, a literal, a dot or an assertion means.  Outside
the Unicode mode classes are sets of bytes, and since a match is always whole text, a class
that holds other bytes than ASCII characters has no meaning.
-/

namespace Scopelight

namespace Pattern

/-- The modes in force at a place of a pattern. -/
structure Modes where
  caseless : Bool := false
  multiLine : Bool := false
  dotAll : Bool := false
  swapGreed : Bool := false
  unicode : Bool := true
  crlf : Bool := false

namespace Modes

def put (modes : Modes) (entry : Mode × Bool) : Modes :=
  match entry.1 with
  | .caseless => { modes with caseless := entry.2 }
  | .multiLine => { modes with multiLine := entry.2 }
  | .dotAll => { modes with dotAll := entry.2 }
  | .swapGreed => { modes with swapGreed := entry.2 }
  | .unicode => { modes with unicode := entry.2 }
  | .crlf => { modes with crlf := entry.2 }
  | .extended => modes

def apply (modes : Modes) (change : ModeChange) : Modes :=
  change.foldl put modes

end Modes

namespace CharSet

/-- All characters outside a set; outside the Unicode mode all bytes. -/
def negate (modes : Modes) (set : CharSet) : CharSet :=
  set.complement (if modes.unicode then 0x10FFFF else 0xFF)

/-- A set with the other cases of its members where case is ignored. -/
def fold (modes : Modes) (set : CharSet) : CharSet :=
  if !modes.caseless then set
  else if modes.unicode then set.caseless
  else set.asciiCaseless

/-- A finished class.  Outside the Unicode mode it may hold ASCII characters only. -/
def finish? (modes : Modes) (negated : Bool) (set : CharSet) : Option CharSet :=
  let set := if negated then set.negate modes else set
  if !modes.unicode && !set.isAscii then none else some set

end CharSet

/-- The code point of a literal in a class.  Outside the Unicode mode it must be an ASCII
character. -/
def Literal.classCode? (modes : Modes) (value : Literal) : Option Nat :=
  let code := value.char.toNat
  if modes.unicode || code < 0x80 then some code else none

/-- The characters of a class part as ranges in any order. -/
def ClassExpr.ranges? (modes : Modes) : ClassExpr → Option (List (Nat × Nat))
  | .empty => some []
  | .literal value => (value.classCode? modes).map fun code => [(code, code)]
  | .range first last => do
      return [(← first.classCode? modes, ← last.classCode? modes)]
  | .named kind negated =>
      ((kind.set.fold modes).finish? modes negated).map CharSet.ranges
  | .short kind negated =>
      ((kind.set modes.unicode).finish? modes negated).map CharSet.ranges
  | .property name negated => do
      if !modes.unicode then none
      return (← ((← name.set?).fold modes).finish? modes negated).ranges
  | .bracketed negated inner => do
      let set := CharSet.ofRanges (← inner.ranges? modes)
      return (← (set.fold modes).finish? modes negated).ranges
  | .union first rest => do
      return (← first.ranges? modes) ++ (← rest.ranges? modes)
  | .operation op left right => do
      let left := (CharSet.ofRanges (← left.ranges? modes)).fold modes
      let right := (CharSet.ofRanges (← right.ranges? modes)).fold modes
      match op with
      | .intersection => return (left.inter right).ranges
      | .difference => return (left.diff right).ranges
      | .symmetricDifference => return (left.symmDiff right).ranges

def ClassExpr.set? (modes : Modes) (part : ClassExpr) : Option CharSet :=
  (part.ranges? modes).map .ofRanges

def Literal.set? (modes : Modes) (value : Literal) : Option CharSet :=
  let code := value.char.toNat
  if !modes.unicode && value.byte && 0x80 ≤ code then none
  else if !modes.caseless then some (.single code)
  else if modes.unicode then some (.ofList (Unicode.caseOrbit code))
  else some (.ofList [code, CharSet.asciiOtherCase code])

def Assertion.look (modes : Modes) : Assertion → Look
  | .lineStart => if modes.multiLine then .lineStart modes.crlf else .textStart
  | .lineEnd => if modes.multiLine then .lineEnd modes.crlf else .textEnd
  | .textStart => .textStart
  | .textEnd => .textEnd
  | .wordBoundary => .wordBoundary modes.unicode
  | .notWordBoundary => .notWordBoundary modes.unicode
  | .wordStart => .wordStart modes.unicode
  | .wordEnd => .wordEnd modes.unicode
  | .wordStartHalf => .wordStartHalf modes.unicode
  | .wordEndHalf => .wordEndHalf modes.unicode

/-- The characters that a dot matches, in the Unicode mode only. -/
def dotSet? (modes : Modes) : Option CharSet :=
  let breaks : CharSet :=
    if modes.dotAll then .empty
    else if modes.crlf then .ofList [0x0A, 0x0D]
    else .single 0x0A
  if modes.unicode then some (breaks.complement 0x10FFFF) else none

end Pattern

end Scopelight
