import Scopelight.Grammar.Rule

/-!
# Building the tokens of a line

The tokens of a line are laid down from left to right.  Each step closes the token that
runs from the end of the one before, so the tokens always follow each other without gaps;
neighbours with the same scopes become one token.
-/

namespace Scopelight

/-- The tokens laid down so far, latest first. -/
structure Pieces where
  tokens : List Token
  covered : Nat

namespace Pieces

def empty : Pieces :=
  ⟨[], 0⟩

/-- Cover the line up to an offset with the given scopes. -/
def produce (pieces : Pieces) (stop : Nat) (scopes : List Scope) : Pieces :=
  if stop ≤ pieces.covered then pieces
  else
    let fresh : Token := ⟨pieces.covered, stop, scopes⟩
    match pieces.tokens with
    | last :: others =>
        if last.stop = pieces.covered ∧ last.scopes = scopes then
          ⟨{ last with stop := stop } :: others, stop⟩
        else ⟨fresh :: last :: others, stop⟩
    | [] => ⟨[fresh], stop⟩

def toList (pieces : Pieces) : List Token :=
  pieces.tokens.reverse

/-- Groups whose end has not been reached, innermost first, with their scopes and ends. -/
abbrev OpenGroups := List (List Scope × Nat)

/-- Close the groups that end at or before an offset. -/
def closeUpTo (offset : Nat) : OpenGroups → Pieces → OpenGroups × Pieces
  | [], pieces => ([], pieces)
  | (scopes, stop) :: outer, pieces =>
      if stop ≤ offset then closeUpTo offset outer (pieces.produce stop scopes)
      else ((scopes, stop) :: outer, pieces)

def closeAll : OpenGroups → Pieces → Pieces
  | [], pieces => pieces
  | (scopes, stop) :: outer, pieces => closeAll outer (pieces.produce stop scopes)

/-- The scopes of the innermost open group, or those around all groups. -/
def innermost (base : List Scope) : OpenGroups → List Scope
  | [] => base
  | (scopes, _) :: _ => scopes

/-- Lay down the groups from a number on.  A group inside another adds its scopes to those
of the outer one. -/
def layGroups (base : List Scope) (captures : Captures) (matchStop : Nat) :
    Nat → List (Option (Nat × Nat)) → OpenGroups → Pieces → Pieces
  | _, [], opened, pieces => closeAll opened pieces
  | group, span :: rest, opened, pieces =>
      match captures.get? group, span with
      | some names, some (start, stop) =>
          let stop := min stop matchStop
          if stop ≤ start then layGroups base captures matchStop (group + 1) rest opened pieces
          else
            let (opened, pieces) := closeUpTo start opened pieces
            let outer := innermost base opened
            layGroups base captures matchStop (group + 1) rest
              ((outer ++ names, stop) :: opened) (pieces.produce start outer)
      | _, _ => layGroups base captures matchStop (group + 1) rest opened pieces

/-- Lay down the groups of a match that have scopes.  The match itself is closed by the
caller. -/
def applyCaptures (pieces : Pieces) (base : List Scope) (captures : Captures)
    (groups : List (Option (Nat × Nat))) : Pieces :=
  if captures.isEmpty then pieces
  else
    let matchStop :=
      match groups with
      | some (_, stop) :: _ => stop
      | _ => 0
    layGroups base captures matchStop 0 groups [] pieces

/-- Lay down a match with its scopes and those of its groups, after the text that lies
before it. -/
def layMatch (pieces : Pieces) (before scopes : List Scope) (captures : Captures)
    (found : Match) : Pieces :=
  ((pieces.produce found.start before).applyCaptures scopes captures found.captures).produce
    found.stop scopes

end Pieces

end Scopelight
