import Scopelight.Pattern.Parser
import Scopelight.Text.Bytes

/-!
# Back-references

The pattern that closes a span may refer to the groups of the match that opened it by a
backslash and a digit.  Such references are no part of the pattern notation: they are
filled in with the captured text, quoted so that it matches itself, before the pattern is
compiled.
-/

namespace Scopelight

namespace Pattern

/-- A text as a pattern that matches exactly this text. -/
def quote : List Char → List Char
  | [] => []
  | c :: rest => if isMeta c then '\\' :: c :: quote rest else c :: quote rest

/-- Whether a character after a backslash makes a back-reference. -/
def isReferenceDigit (c : Char) : Bool :=
  decide ('1' ≤ c) && decide (c ≤ '9')

def hasReferences : List Char → Bool
  | '\\' :: c :: rest => isReferenceDigit c || hasReferences rest
  | _ :: rest => hasReferences rest
  | [] => false

/-- The text of a group in a line; empty for a group that took no part. -/
def groupText (line : List Char) (captures : List (Option (Nat × Nat))) (group : Nat) :
    List Char :=
  match captures[group]? with
  | some (some (start, stop)) => Text.slice start stop line
  | _ => []

/-- A pattern with its back-references filled in from the groups of a match in a line. -/
def fillReferences (line : List Char) (captures : List (Option (Nat × Nat))) :
    List Char → List Char
  | '\\' :: c :: rest =>
      if isReferenceDigit c then
        quote (groupText line captures (c.toNat - 0x30)) ++ fillReferences line captures rest
      else '\\' :: c :: fillReferences line captures rest
  | c :: rest => c :: fillReferences line captures rest
  | [] => []

/-- The name of the first construct of a pattern that its notation has no room for. -/
def unsupportedFeature : List Char → Option String
  | '\\' :: c :: rest =>
      if isReferenceDigit c then some "back-references" else unsupportedFeature rest
  | '(' :: rest =>
      if "?=".toList.isPrefixOf rest || "?!".toList.isPrefixOf rest ||
          "?<=".toList.isPrefixOf rest || "?<!".toList.isPrefixOf rest then
        some "look-around"
      else unsupportedFeature rest
  | _ :: rest => unsupportedFeature rest
  | [] => none

end Pattern

end Scopelight
