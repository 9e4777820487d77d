import Scopelight.Pattern.Scanner
import Scopelight.Scope

/-!
# Grammar rules

Rules are numbered and refer to each other by number.  References keep the name that they
were written with and are resolved when the rules active in a context are collected, so
forward and cyclic references need no special care.
-/

namespace Scopelight

abbrev RuleId := Nat

/-- The scopes of capture groups: a finite map from group numbers to scope lists. -/
structure Captures where
  entries : List (Nat × List Scope)
  deriving DecidableEq

namespace Captures

def empty : Captures :=
  ⟨[]⟩

def get? (captures : Captures) (group : Nat) : Option (List Scope) :=
  (captures.entries.find? fun entry => entry.1 = group).map Prod.snd

def isEmpty (captures : Captures) : Bool :=
  captures.entries.isEmpty

/-- The greatest number of groups for which a table can be laid out in memory. -/
def groupLimit : Nat := 384307168202282325

/-- The map of a list of pairs, of which later ones count more and those without scopes
not at all; there is none if a group number is too great for a table. -/
def ofPairs? : List (Nat × List Scope) → Option Captures
  | [] => some empty
  | (group, scopes) :: rest =>
      if scopes.isEmpty then ofPairs? rest
      else if groupLimit ≤ group then none
      else do
        let later ← ofPairs? rest
        if (later.get? group).isSome then some later
        else some ⟨(group, scopes) :: later.entries⟩

end Captures

/-- What a reference points at. -/
inductive ReferenceTarget where
  /-- A named rule of the grammar, written `#name`. -/
  | named (name : String)
  /-- The root of the grammar, written `$self`. -/
  | self
  /-- The root of the outermost grammar, written `$base`; the same here. -/
  | base
  | foreign (scope : String)
  deriving DecidableEq

namespace ReferenceTarget

def ofText (text : String) : ReferenceTarget :=
  if text = "$self" then .self
  else if text = "$base" then .base
  else
    match text.toList with
    | '#' :: name => .named (String.ofList name)
    | _ => .foreign text

def text : ReferenceTarget → String
  | .named name => String.ofList ('#' :: name.toList)
  | .self => "$self"
  | .base => "$base"
  | .foreign scope => scope

end ReferenceTarget

/-- A rule with a single pattern. -/
structure SingleRule where
  name : List Scope
  pattern : String
  captures : Captures
  /-- Whether the pattern failed to compile, so that the rule never matches. -/
  inert : Bool
  deriving DecidableEq

/-- A span from an opening match to a closing one, with rules of its own inside. -/
structure SpanRule where
  /-- The scopes of the whole span, delimiters included. -/
  name : List Scope
  /-- The scopes of the interior only. -/
  contentName : List Scope
  opening : String
  closing : String
  openingCaptures : Captures
  closingCaptures : Captures
  members : List RuleId
  /-- Whether the rules inside are preferred to a closing match at the same place. -/
  closingLast : Bool
  /-- Whether an empty closing match may end the span right where it was opened. -/
  allowEmptySpan : Bool
  /-- Whether the closing pattern refers to groups of the opening match. -/
  hasReferences : Bool
  inert : Bool
  deriving DecidableEq

/-- A grammar rule. -/
inductive Rule where
  | single (rule : SingleRule)
  | span (rule : SpanRule)
  | reference (target : ReferenceTarget)
  | group (members : List RuleId)
  deriving DecidableEq

namespace Rule

/-- The rules that are active directly inside a rule. -/
def members : Rule → List RuleId
  | .span rule => rule.members
  | .group members => members
  | .single _ => []
  | .reference _ => []

/-- The pattern by which a rule starts, if it can start. -/
def startPattern? : Rule → Option String
  | .single rule => if rule.inert then none else some rule.pattern
  | .span rule => if rule.inert then none else some rule.opening
  | .reference _ => none
  | .group _ => none

def kind : Rule → String
  | .single _ => "match"
  | .span _ => "begin/end"
  | .reference _ => "include"
  | .group _ => "group"

end Rule

end Scopelight
