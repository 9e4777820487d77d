import Scopelight.Pattern.Property

/-!
# Looks

A look is a condition on a position: it asks for an end of the text or of a line, or for
word characters on one side or both.  It takes no character.
-/

namespace Scopelight

namespace Pattern

/-- A condition on the characters before and after a position. -/
inductive Look where
  | textStart
  | textEnd
  | lineStart (crlf : Bool)
  | lineEnd (crlf : Bool)
  | wordBoundary (unicode : Bool)
  | notWordBoundary (unicode : Bool)
  | wordStart (unicode : Bool)
  | wordEnd (unicode : Bool)
  | wordStartHalf (unicode : Bool)
  | wordEndHalf (unicode : Bool)
  deriving DecidableEq

namespace Look

/-- Whether the neighbour of a position is a word character. -/
def besideWord (unicode : Bool) : Option Char → Bool
  | none => false
  | some c => (ShortClass.set .word unicode).contains c.toNat

/-- Whether the condition holds between two characters, of which the one before is absent
at the start of the text and the one after at its end. -/
def holds (look : Look) (before after : Option Char) : Bool :=
  match look with
  | .textStart => before.isNone
  | .textEnd => after.isNone
  | .lineStart false => before.isNone || before == some '\n'
  | .lineEnd false => after.isNone || after == some '\n'
  | .lineStart true =>
      before.isNone || before == some '\n' || (before == some '\r' && after != some '\n')
  | .lineEnd true =>
      after.isNone || after == some '\r' || (after == some '\n' && before != some '\r')
  | .wordBoundary unicode => besideWord unicode before != besideWord unicode after
  | .notWordBoundary unicode => besideWord unicode before == besideWord unicode after
  | .wordStart unicode => !besideWord unicode before && besideWord unicode after
  | .wordEnd unicode => besideWord unicode before && !besideWord unicode after
  | .wordStartHalf unicode => !besideWord unicode before
  | .wordEndHalf unicode => !besideWord unicode after

end Look

end Pattern

end Scopelight
