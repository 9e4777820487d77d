import Scopelight.Grammar.Basic
import Scopelight.State
import Scopelight.Text.Bytes

/-!
# The next match in a line

At a position of a line two things can come next: a rule that may start inside the
innermost open span, and the end of that span.  The leftmost one comes next; at the same
place the end is preferred, unless its rule says otherwise.
-/

namespace Scopelight

/-- What the tokenizer remembers of a span that was opened on the present line. -/
structure Opening where
  /-- The anchor to go back to when the span is closed. -/
  outerAnchor : Option Nat
  /-- Where the tokenizer stood when the span was opened. -/
  entered : Nat
  contentStart : Nat
  deriving DecidableEq

/-- A frame on the stack of the tokenizer. -/
structure OpenFrame where
  frame : Frame
  /-- Absent for a span that was opened on an earlier line. -/
  opening : Option Opening
  deriving DecidableEq

/-- The next match, with what it is a match of. -/
inductive Upcoming where
  | start (rule : RuleId) (found : Match)
  | close (found : Match)
  deriving DecidableEq

namespace Grammar

variable (grammar : Grammar)

/-- The rule whose members may start: that of the innermost open span, or the root. -/
def contextOf : List OpenFrame → RuleId
  | [] => grammar.root
  | top :: _ => top.frame.rule

/-- The first match of a rule that may start in a context. -/
def nextStart? (context : RuleId) (line : List Char) (position : Nat)
    (anchor : Option Nat) : Option (RuleId × Match) := do
  let here ← grammar.context? context
  let scanner ← here.scanner?
  let found ← scanner.find line position anchor
  let rule ← here.candidates[found.index]?
  return (rule, found)

/-- The position after the character at a byte offset, which must be the start of one. -/
def nextBoundary? (line : List Char) (offset : Nat) : Option Nat :=
  match Text.dropBytes offset line with
  | [] => none
  | c :: _ => some (offset + c.utf8Size)

def closingScanner? (frame : Frame) : Option Scanner :=
  match frame.closing with
  | some pattern => grammar.filledScanner? pattern
  | none => (grammar.context? frame.rule).bind RuleContext.closing?

/-- The first closing match from a position on.  A match that is empty and lies where the
interior starts is passed over if the rule does not allow an empty span.  The fuel bounds
the number of matches passed over, of which there is at most one. -/
def searchClose? (scanner : Scanner) (allowEmpty : Bool) (contentStart : Option Nat)
    (line : List Char) (anchor : Option Nat) : Nat → Nat → Option Match
  | 0, _ => none
  | fuel + 1, position =>
      match scanner.find line position anchor with
      | none => none
      | some found =>
          if !allowEmpty && found.start == found.stop && some found.start == contentStart then
            match nextBoundary? line found.start with
            | none => none
            | some next => searchClose? scanner allowEmpty contentStart line anchor fuel next
          else some found

/-- The first match that closes the innermost open span. -/
def nextClose? (top : OpenFrame) (line : List Char) (position : Nat)
    (anchor : Option Nat) : Option Match :=
  match grammar.rule? top.frame.rule with
  | some (.span rule) =>
      match grammar.closingScanner? top.frame with
      | none => none
      | some scanner =>
          searchClose? scanner rule.allowEmptySpan (top.opening.map Opening.contentStart)
            line anchor (line.length + 2) position
  | _ => none

/-- Whether a rule prefers its members to its end. -/
def closesLast (context : RuleId) : Bool :=
  match grammar.rule? context with
  | some (.span rule) => rule.closingLast
  | _ => false

def upcoming? (stack : List OpenFrame) (line : List Char) (position : Nat)
    (anchor : Option Nat) : Option Upcoming :=
  let context := grammar.contextOf stack
  let start := grammar.nextStart? context line position anchor
  let close := stack.head?.bind fun top => grammar.nextClose? top line position anchor
  match start, close with
  | none, none => none
  | some (rule, found), none => some (.start rule found)
  | none, some found => some (.close found)
  | some (rule, started), some closed =>
      if closed.start < started.start ∨
          (closed.start = started.start ∧ grammar.closesLast context = false) then
        some (.close closed)
      else some (.start rule started)

end Grammar

end Scopelight
