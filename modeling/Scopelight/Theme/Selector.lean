import Scopelight.Scope

/-!
# Theme selectors

A selector names a scope and, before it, scopes that must stand around it: `list string`
selects a string inside a list.  The named scopes need not follow each other directly.
-/

namespace Scopelight

/-- A selector for a scope among its ancestors. -/
structure Selector where
  target : String
  /-- The selectors for its ancestors, innermost first. -/
  parents : List String
  deriving DecidableEq

namespace Selector

/-- The selector with the given words, the target last.  There is none without words. -/
def ofWords? (words : List (List Char)) : Option Selector :=
  match words.reverse with
  | [] => none
  | target :: parents => some ⟨String.ofList target, parents.map String.ofList⟩

def commaParts : List Char → List (List Char)
  | [] => [[]]
  | c :: rest =>
      if c = ',' then [] :: commaParts rest
      else
        match commaParts rest with
        | [] => [[c]]
        | part :: parts => (c :: part) :: parts

/-- The selectors in a text such as `a, b c`. -/
def parseAll (text : String) : List Selector :=
  (commaParts text.toList).filterMap fun part => ofWords? (Unicode.words part)

/-- Whether each of some parents, innermost first, selects an ancestor of its own further
out than the one before.  Each parent takes the innermost ancestor it can. -/
def ancestorsSelected : List String → List Scope → Bool
  | [], _ => true
  | _ :: _, [] => false
  | parent :: outer, scope :: ancestors =>
      if scope.selectedBy parent then ancestorsSelected outer ancestors
      else ancestorsSelected (parent :: outer) ancestors

/-- Whether a selector selects a scope, given the ancestors of the scope, innermost
first. -/
def selects (selector : Selector) (scope : Scope) (ancestors : List Scope) : Bool :=
  scope.selectedBy selector.target && ancestorsSelected selector.parents ancestors

def segmentCount (selector : Selector) : Nat :=
  (dottedSegments selector.target.toList).length

end Selector

end Scopelight
