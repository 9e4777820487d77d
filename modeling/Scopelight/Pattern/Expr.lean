/-!
# Pattern expressions

The abstract form of a pattern as it is written: literals, classes, assertions, groups,
repetitions and mode changes.  What an expression matches depends on the modes in force,
so its meaning is given later, when it is lowered to a plan.
-/

namespace Scopelight

namespace Pattern

/-- The modes that a pattern can switch on and off. -/
inductive Mode where
  | caseless
  | multiLine
  | dotAll
  | swapGreed
  | unicode
  | crlf
  | extended
  deriving DecidableEq

/-- A mode change such as `i-s`: each named mode with its new value. -/
abbrev ModeChange := List (Mode × Bool)

/-- One character of a pattern that stands for itself. -/
structure Literal where
  char : Char
  /-- Written with `\x` and two digits, which may mean a byte instead of a character. -/
  byte : Bool
  deriving DecidableEq

/-- Positions that an expression can ask for. -/
inductive Assertion where
  | lineStart
  | lineEnd
  | textStart
  | textEnd
  | wordBoundary
  | notWordBoundary
  | wordStart
  | wordEnd
  | wordStartHalf
  | wordEndHalf
  deriving DecidableEq

/-- The classes with one-letter escapes. -/
inductive ShortClass where
  | digit
  | space
  | word
  deriving DecidableEq

/-- The classes written `[:name:]`. -/
inductive NamedClass where
  | alnum | alpha | ascii | blank | cntrl | digit | graph
  | lower | print | punct | space | upper | word | xdigit
  deriving DecidableEq

/-- A character property, either a name alone or a name with a value. -/
inductive PropertyName where
  | plain (name : List Char)
  | valued (name value : List Char)
  deriving DecidableEq

/-- The operators between two parts of a bracketed class. -/
inductive SetOp where
  | intersection
  | difference
  | symmetricDifference
  deriving DecidableEq

/-- The inside of a bracketed class. -/
inductive ClassExpr where
  | empty
  | literal (value : Literal)
  | range (first last : Literal)
  | named (kind : NamedClass) (negated : Bool)
  | short (kind : ShortClass) (negated : Bool)
  | property (name : PropertyName) (negated : Bool)
  | bracketed (negated : Bool) (inner : ClassExpr)
  /-- Neighbouring items; a row of items nests to the right. -/
  | union (first rest : ClassExpr)
  | operation (op : SetOp) (left right : ClassExpr)
  deriving DecidableEq

/-- A pattern expression. -/
inductive Expr where
  | empty
  | modes (change : ModeChange)
  | literal (value : Literal)
  | dot
  | assertion (kind : Assertion)
  | short (kind : ShortClass) (negated : Bool)
  | property (name : PropertyName) (negated : Bool)
  | bracketed (negated : Bool) (inner : ClassExpr)
  /-- At least `least` copies, and at most `most` where that is given. -/
  | repeated (body : Expr) (least : Nat) (most : Option Nat) (greedy : Bool)
  | capture (index : Nat) (body : Expr)
  | group (change : ModeChange) (body : Expr)
  /-- Neighbouring parts; a row of parts nests to the right. -/
  | concat (first rest : Expr)
  /-- Alternatives; a row of alternatives nests to the right. -/
  | alternate (first rest : Expr)
  deriving DecidableEq

namespace ClassExpr

def ofItems : List ClassExpr → ClassExpr
  | [] => .empty
  | [item] => item
  | item :: rest => .union item (ofItems rest)

/-- Nesting depth.  A row of items adds one level however long it is. -/
def depth : ClassExpr → Nat
  | .bracketed _ inner => inner.depth + 1
  | .operation _ left right => max left.depth right.depth + 1
  | .union first rest =>
      max (first.depth + 1)
        (match rest with
        | .union _ _ => rest.depth
        | _ => rest.depth + 1)
  | _ => 0

end ClassExpr

namespace Expr

def ofParts : List Expr → Expr
  | [] => .empty
  | [part] => part
  | part :: rest => .concat part (ofParts rest)

def ofBranches : List Expr → Expr
  | [] => .empty
  | [branch] => branch
  | branch :: rest => .alternate branch (ofBranches rest)

/-- Nesting depth.  A row of parts or of branches adds one level however long it is. -/
def depth : Expr → Nat
  | .bracketed _ inner => inner.depth + 1
  | .repeated body _ _ _ => body.depth + 1
  | .capture _ body => body.depth + 1
  | .group _ body => body.depth + 1
  | .concat first rest =>
      max (first.depth + 1)
        (match rest with
        | .concat _ _ => rest.depth
        | _ => rest.depth + 1)
  | .alternate first rest =>
      max (first.depth + 1)
        (match rest with
        | .alternate _ _ => rest.depth
        | _ => rest.depth + 1)
  | _ => 0

end Expr

end Pattern

end Scopelight
