import Scopelight.Json.Decode
import Scopelight.Json.Parser

/-!
# Grammar documents

The JSON shape of a grammar, before its rules are numbered and its patterns compiled.
-/

namespace Scopelight

/-- A rule as a document writes it.  Which of its fields count is decided when the grammar
is built. -/
structure RuleDocument where
  reference : Option String := none
  name : Option String := none
  contentName : Option String := none
  pattern : Option String := none
  opening : Option String := none
  closing : Option String := none
  /-- For each group number as it is written, the scope names of the group, if any. -/
  captures : Option (List (String × Option String)) := none
  openingCaptures : Option (List (String × Option String)) := none
  closingCaptures : Option (List (String × Option String)) := none
  members : List RuleDocument := []
  closingLast : Option Bool := none
  allowEmptySpan : Option Bool := none

/-- A grammar as a document writes it. -/
structure GrammarDocument where
  scopeName : Option String
  name : Option String
  fileTypes : List String
  patterns : Option (List RuleDocument)
  /-- The named rules in ascending order of their names. -/
  repository : List (String × RuleDocument)

namespace RuleDocument

/-- A flag is a truth value or an integer that fits 64 bits with a sign. -/
def flag? : Json → Option Bool
  | .bool value => some value
  | .integer value => if value < 0x8000000000000000 then some (value != 0) else none
  | _ => none

def capture? : Nat → Json → Option (Option String)
  | 0, _ => none
  | _ + 1, value => do
      match ← Json.record? [["name"]] value with
      | [name] => name.optional? Json.text?
      | _ => none

def captures? (depth : Nat) : Json → Option (List (String × Option String)) :=
  Json.map? capture? depth

def fieldNames : List (List String) :=
  [["include"], ["name"], ["contentName"], ["match"], ["begin"], ["end"], ["captures"],
    ["beginCaptures"], ["endCaptures"], ["patterns"], ["applyEndPatternLast"],
    ["allowEmptySpan"]]

def ofJson? : Nat → Json → Option RuleDocument
  | 0, _ => none
  | depth + 1, value => do
      let rules : Json → Option (List RuleDocument)
        | .array items =>
            match depth with
            | 0 => none
            | below + 1 => items.mapM (ofJson? below)
        | _ => none
      match ← Json.record? fieldNames value with
      | [reference, name, contentName, pattern, opening, closing, captures, openingCaptures,
          closingCaptures, members, closingLast, allowEmptySpan] =>
          return {
            reference := ← reference.optional? Json.text?
            name := ← name.optional? Json.text?
            contentName := ← contentName.optional? Json.text?
            pattern := ← pattern.optional? Json.text?
            opening := ← opening.optional? Json.text?
            closing := ← closing.optional? Json.text?
            captures := ← captures.optional? (captures? depth)
            openingCaptures := ← openingCaptures.optional? (captures? depth)
            closingCaptures := ← closingCaptures.optional? (captures? depth)
            members := (← members.optional? rules).getD []
            closingLast := ← closingLast.optional? flag?
            allowEmptySpan := ← allowEmptySpan.optional? Json.bool?
          }
      | _ => none

end RuleDocument

namespace GrammarDocument

def ofJson? : Nat → Json → Option GrammarDocument
  | 0, _ => none
  | depth + 1, value => do
      match ← Json.record?
          [["scopeName"], ["name"], ["fileTypes"], ["patterns"], ["repository"]] value with
      | [scopeName, name, fileTypes, patterns, repository] =>
          return {
            scopeName := ← scopeName.optional? Json.text?
            name := ← name.optional? Json.text?
            fileTypes := ← fileTypes.orDefault? [] (Json.texts? depth)
            patterns := ← patterns.optional? (Json.list? RuleDocument.ofJson? depth)
            repository := ← repository.orDefault? [] (Json.map? RuleDocument.ofJson? depth)
          }
      | _ => none

def parse? (source : String) : Option GrammarDocument := do
  ofJson? Json.depthLimit (← Json.parse? source)

end GrammarDocument

end Scopelight
