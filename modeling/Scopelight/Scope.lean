import Scopelight.Unicode.White

/-!
# Scopes and tokens

A scope is a dotted name such as `string.quoted.double.snbt`.  A token is a byte span of a
line with the scopes that are active there, outermost first.  Selectors are dotted names
that select every scope which continues them by whole segments.
-/

namespace Scopelight

/-- A dotted scope name. -/
structure Scope where
  name : String
  deriving DecidableEq

namespace Scope

/-- Whether a dotted name equals a selector or goes on after it with a dot. -/
def continues : List Char → List Char → Bool
  | [], [] => true
  | [], c :: _ => c == '.'
  | _ :: _, [] => false
  | s :: selector, c :: name => s == c && continues selector name

/-- Whether a selector selects a scope: `string` selects `string.quoted`. -/
def selectedBy (scope : Scope) (selector : String) : Bool :=
  continues selector.toList scope.name.toList

/-- The scopes named in a text such as `a.b c.d`. -/
def parseNames (names : String) : List Scope :=
  (Unicode.words names.toList).map fun name => ⟨String.ofList name⟩

end Scope

def dottedSegments : List Char → List (List Char)
  | [] => [[]]
  | c :: rest =>
      if c = '.' then [] :: dottedSegments rest
      else
        match dottedSegments rest with
        | [] => [[c]]
        | segment :: segments => (c :: segment) :: segments

/-- A scoped byte span of a line. -/
structure Token where
  start : Nat
  stop : Nat
  /-- The scopes from the outermost to the innermost. -/
  scopes : List Scope
  deriving DecidableEq

namespace Token

/-- The number of bytes of a token. -/
def length (token : Token) : Nat :=
  token.stop - token.start

def isEmpty (token : Token) : Bool :=
  decide (token.stop ≤ token.start)

/-- The innermost scope. -/
def innermost? (token : Token) : Option Scope :=
  token.scopes.getLast?

def hasScope (token : Token) (selector : String) : Bool :=
  token.scopes.any fun scope => scope.selectedBy selector

end Token

/-- The coarse classes of tokens that an editor uses for matching brackets and closing
pairs. -/
inductive TokenClass where
  | other
  | comment
  | string
  | regex
  deriving DecidableEq

namespace TokenClass

/-- The class that a scope name says, if it says one. -/
def ofName? (name : String) : Option TokenClass :=
  let segments := dottedSegments name.toList
  if segments.contains "comment".toList then some .comment
  else if segments.contains "string".toList then some .string
  else if segments.contains "regex".toList then some .regex
  else if "meta.embedded".toList.isPrefixOf name.toList then some .other
  else none

/-- The class of a scope stack: the innermost scope that says one decides. -/
def ofScopes (scopes : List Scope) : TokenClass :=
  (scopes.reverse.findSome? fun scope => ofName? scope.name).getD .other

def code : TokenClass → Nat
  | .other => 0
  | .comment => 1
  | .string => 2
  | .regex => 3

/-- The class with a code; only the two low bits count. -/
def ofCode (code : Nat) : TokenClass :=
  match code % 4 with
  | 1 => .comment
  | 2 => .string
  | 3 => .regex
  | _ => .other

@[simp]
theorem ofCode_code (kind : TokenClass) : ofCode kind.code = kind := by
  cases kind <;> rfl

end TokenClass

end Scopelight
