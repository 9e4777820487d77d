import Scopelight.Pattern.Footprint
import Scopelight.Pattern.Lowering
import Scopelight.Pattern.Parser
import Scopelight.Pattern.Search

/-!
# Scanners

A list of patterns is searched together: the leftmost match wins, and of the patterns that
match there the first in the list.  The escape `\G` does not belong to the notation of
patterns proper; it is taken out before a pattern is compiled, and marks the pattern as one
that may match only where the search starts and only if that is the anchor.

The scanner is all that the rest of the library knows about matching.  An engine is any way
to make scanners; the one defined here is `Engine.standard`.
-/

namespace Scopelight

/-- One match found by a scanner. -/
structure Match where
  index : Nat
  start : Nat
  stop : Nat
  /-- The byte spans of the groups, the whole match first. -/
  captures : List (Option (Nat × Nat))
  deriving DecidableEq

/-- A compiled list of patterns. -/
structure Scanner where
  /-- The leftmost match of a line at or after a byte offset, given the offset at which
  `\G` holds, if any. -/
  find : List Char → Nat → Option Nat → Option Match

/-- A pattern that cannot be compiled. -/
structure CompileError where
  pattern : String
  deriving DecidableEq

/-- A way to compile patterns. -/
structure Engine where
  compile : List String → Except CompileError Scanner
  /-- The name of a construct of a pattern that the engine cannot run. -/
  unsupportedFeature : String → Option String

namespace Pattern

/-- A pattern text without its `\G` escapes, and whether there were any. -/
def stripAnchor : List Char → List Char × Bool
  | '\\' :: c :: rest =>
      let (stripped, found) := stripAnchor rest
      if c = 'G' then (stripped, true) else ('\\' :: c :: stripped, found)
  | c :: rest =>
      let (stripped, found) := stripAnchor rest
      (c :: stripped, found)
  | [] => ([], false)

/-- A pattern that is ready to be searched. -/
structure Compiled where
  code : Array Inst
  /-- Whether it may match only at the anchor. -/
  anchored : Bool
  /-- The number of groups, the whole match not included. -/
  groups : Nat

def Compiled.ofPlan (plan : Plan) (anchored : Bool) : Compiled where
  code := (plan.emit 0 plan.size [.accept]).toArray
  anchored
  groups := plan.captureCount

/-- The compiled form of a pattern text, unless it is malformed, has a part that could
match bytes that are not text, or is too large.  The size is that of the automata for the
pattern.  It limits every pattern here, also one of plain literals, for which a search could
do without an automaton. -/
def compile? (text : String) : Option Compiled := do
  let (stripped, anchored) := stripAnchor text.toList
  let plan ← (← Expr.parse? stripped).lower? {}
  if plan.fits then some (.ofPlan plan anchored) else none

/-- The first position that is not before a byte offset, in a line of which some characters
have been passed, the last of them given. -/
def cursorFrom? (start : Nat) : Char → Nat → List Char → Option Cursor
  | before, offset, [] => if offset < start then none else some ⟨some before, offset, []⟩
  | before, offset, c :: rest =>
      if offset < start then cursorFrom? start c (offset + c.utf8Size) rest
      else some ⟨some before, offset, c :: rest⟩

/-- The first position of a line that is not before a byte offset. -/
def cursorAt? (start : Nat) (line : List Char) : Option Cursor :=
  if start = 0 then some ⟨none, 0, line⟩
  else
    match line with
    | [] => none
    | c :: rest => cursorFrom? start c c.utf8Size rest

namespace Compiled

/-- The leftmost match of a pattern that starts at or after a byte offset of a line, but
before a limit. -/
def find? (pattern : Compiled) (limit : Nat) (line : List Char) (start : Nat) :
    Option Acceptance := do
  search? pattern.code limit (← cursorAt? start line)

/-- The match of a pattern that counts in a search: one that needs the anchor must be
searched there and begin there. -/
def matchFor? (pattern : Compiled) (limit : Nat) (line : List Char) (start : Nat)
    (anchor : Option Nat) : Option Acceptance :=
  if pattern.anchored then
    if anchor = some start then
      (pattern.find? limit line start).filter fun accepted => accepted.start = start
    else none
  else pattern.find? limit line start

end Compiled

/-- Search the patterns of a list one after another, where the first of them has the given
place in the whole list, and keep the leftmost match.  Nothing can start earlier than the
search, so a match that starts there ends it. -/
def scan (limit : Nat) (line : List Char) (start : Nat) (anchor : Option Nat) :
    Nat → List Compiled → Option Match → Option Match
  | _, [], best => best
  | index, pattern :: rest, best =>
      match pattern.matchFor? limit line start anchor with
      | none => scan limit line start anchor (index + 1) rest best
      | some accepted =>
          if best.all fun found => accepted.start < found.start then
            let found : Match :=
              ⟨index, accepted.start, accepted.stop, accepted.captures pattern.groups⟩
            if accepted.start = start then some found
            else scan limit line start anchor (index + 1) rest (some found)
          else scan limit line start anchor (index + 1) rest best

/-- The number of bytes after the start of a search that count as close to it. -/
def near : Nat := 32

/-- The leftmost match of a list of patterns.  Most matches start close to the search, so
all patterns are searched there before one of them is searched in the rest of the line. -/
def scanner (patterns : List Compiled) : Scanner where
  find line start anchor :=
    (scan (start + near) line start anchor 0 patterns none).or
      (scan (Text.byteLength line + 1) line start anchor 0 patterns none)

/-- The compiled forms of a list of patterns, or the first pattern without one. -/
def compileAll : List String → Except CompileError (List Compiled)
  | [] => .ok []
  | text :: rest =>
      match compile? text with
      | none => .error ⟨text⟩
      | some compiled => (compileAll rest).map (compiled :: ·)

end Pattern

end Scopelight
