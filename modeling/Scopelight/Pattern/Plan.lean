import Scopelight.Pattern.Look
import Scopelight.Text.Bytes

/-!
# Match plans

A plan is what a pattern matches once its modes are resolved: texts, sets of characters,
looks, and the ways to combine them.  The constructors of the type are seldom used as they
are.  Each has a function beside it that keeps plans in a simple form: neighbouring texts
are one text, a set with one member is a text, rows nest to the right, alternatives that
are single characters are one set, and what all alternatives begin with stands before
them.
-/

namespace Scopelight

namespace Pattern

/-- What a pattern matches.  Alternatives and repetitions say which way is tried first. -/
inductive Plan where
  | empty
  /-- A text that is not empty. -/
  | text (first : Char) (rest : List Char)
  | chars (set : CharSet)
  | look (condition : Look)
  | capture (index : Nat) (body : Plan)
  /-- At least `least` copies, and at most `most` where that is given. -/
  | repeated (least : Nat) (most : Option Nat) (greedy : Bool) (body : Plan)
  /-- Neighbouring parts; a row of parts nests to the right. -/
  | seq (first rest : Plan)
  /-- Alternatives; a row of alternatives nests to the right. -/
  | alt (first rest : Plan)
  deriving DecidableEq

namespace Plan

/-- The number of bytes of the shortest member of a set. -/
def shortest (set : CharSet) : Option Nat :=
  set.ranges.head?.map fun (first, _) => (Char.ofNat first).utf8Size

/-- The number of bytes of the longest member of a set. -/
def longest (set : CharSet) : Option Nat :=
  set.ranges.getLast?.map fun (_, last) => (Char.ofNat last).utf8Size

/-- A number of bytes that every match takes at least; absent if there is no match. -/
def minLength : Plan → Option Nat
  | .empty => some 0
  | .text first rest => some (Text.byteLength (first :: rest))
  | .chars set => shortest set
  | .look _ => some 0
  | .capture _ body => body.minLength
  | .repeated least _ _ body => body.minLength.map (least * ·)
  | .seq first rest => do return (← first.minLength) + (← rest.minLength)
  | .alt first rest => do return min (← first.minLength) (← rest.minLength)

/-- A number of bytes that every match takes at most; absent if there is none. -/
def maxLength : Plan → Option Nat
  | .empty => some 0
  | .text first rest => some (Text.byteLength (first :: rest))
  | .chars set => longest set
  | .look _ => some 0
  | .capture _ body => body.maxLength
  | .repeated _ most _ body => do return (← most) * (← body.maxLength)
  | .seq first rest => do return (← first.maxLength) + (← rest.maxLength)
  | .alt first rest => do return max (← first.maxLength) (← rest.maxLength)

def consumes (plan : Plan) : Bool :=
  plan.minLength.any (0 < ·)

def onlyEmpty (plan : Plan) : Bool :=
  plan.maxLength = some 0

def beginsWith (condition : Look) : Plan → Bool
  | .look own => own = condition
  | .capture _ body => body.beginsWith condition
  | .repeated least _ _ body => decide (0 < least) && body.beginsWith condition
  | .seq first rest =>
      first.beginsWith condition || (first.onlyEmpty && rest.beginsWith condition)
  | .alt first rest => first.beginsWith condition && rest.beginsWith condition
  | _ => false

def endsWith (condition : Look) : Plan → Bool
  | .look own => own = condition
  | .capture _ body => body.endsWith condition
  | .repeated least _ _ body => decide (0 < least) && body.endsWith condition
  | .seq first rest =>
      rest.endsWith condition || (rest.onlyEmpty && first.endsWith condition)
  | .alt first rest => first.endsWith condition && rest.endsWith condition
  | _ => false

/-- The greatest index of a capture group, zero where there is none. -/
def captureCount : Plan → Nat
  | .capture index body => max index body.captureCount
  | .repeated _ _ _ body => body.captureCount
  | .seq first rest => max first.captureCount rest.captureCount
  | .alt first rest => max first.captureCount rest.captureCount
  | _ => 0

def ofSet (set : CharSet) : Plan :=
  match set.only? with
  | some code => .text (Char.ofNat code) []
  | none => .chars set

/-- The plan of a row with one more part at its start, which is not a row itself. -/
def prepend (part row : Plan) : Plan :=
  match part, row with
  | part, .empty => part
  | .text first rest, .text next others => .text first (rest ++ next :: others)
  | .text first rest, .seq (.text next others) row =>
      .seq (.text first (rest ++ next :: others)) row
  | part, row => .seq part row

def append : Plan → Plan → Plan
  | .empty, row => row
  | .seq part parts, row => part.prepend (parts.append row)
  | part, row => part.prepend row

def parts : Plan → List Plan
  | .seq part rest => part :: rest.parts
  | part => [part]

def ofParts : List Plan → Plan
  | [] => .empty
  | [part] => part
  | part :: rest => .seq part (ofParts rest)

def branches : Plan → List Plan
  | .alt branch rest => branch :: rest.branches
  | branch => [branch]

/-- The alternatives of some branches in simple form. -/
def ofBranches : List Plan → Plan
  | [] => .chars .empty
  | [branch] => branch
  | branch :: rest => .alt branch (ofBranches rest)

/-- A repetition.  Copies that take nothing are the same as one copy, and no copies are
nothing. -/
def repetition (least : Nat) (most : Option Nat) (greedy : Bool) (body : Plan) : Plan :=
  let (least, most) :=
    if body.onlyEmpty then (min least 1, some (min (most.getD 1) 1)) else (least, most)
  if most = some 0 then .empty
  else if least = 1 && most = some 1 then body
  else .repeated least most greedy body

def singleton? : Plan → Option Nat
  | .text c [] => some c.toNat
  | _ => none

def set? : Plan → Option CharSet
  | .chars set => some set
  | _ => none

def commonPrefix : List Plan → List Plan → List Plan
  | left :: lefts, right :: rights =>
      if left = right then left :: commonPrefix lefts rights else []
  | _, _ => []

/-- What some rows begin with together; nothing unless all are rows. -/
def sharedPrefix : List Plan → List Plan
  | [] => []
  | first :: rest =>
      if (first :: rest).all fun branch => branch matches .seq _ _ then
        (rest.map parts).foldl commonPrefix first.parts
      else []

/-- Alternatives of branches none of which is an alternative itself. -/
def mergeBranches (branches : List Plan) : Plan :=
  match branches.mapM singleton? with
  | some codes => ofSet (.ofList codes)
  | none =>
      match branches.mapM set? with
      | some sets => ofSet (.ofRanges (sets.flatMap CharSet.ranges))
      | none => ofBranches branches

/-- Alternatives.  Where all branches are rows that begin alike, the alternatives are what
comes after. -/
def alternation (branches : List Plan) : Plan :=
  match branches.flatMap Plan.branches with
  | [branch] => branch
  | flat =>
      match sharedPrefix flat with
      | [] => mergeBranches flat
      | shared =>
          let rests := flat.map fun branch => ofParts (branch.parts.drop shared.length)
          (ofParts shared).append (mergeBranches (rests.flatMap Plan.branches))

end Plan

end Pattern

end Scopelight
