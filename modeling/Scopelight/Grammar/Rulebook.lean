import Scopelight.Grammar.Rule
import Scopelight.Memo

/-!
# Rulebooks

The numbered rules of a grammar together with the names of its repository.  From them
follow the rules that may start inside a context: groups and references are followed
through, match rules and spans are where the walk stops, and each rule is met at most once,
so that cyclic references end.
-/

namespace Scopelight

/-- Numbered rules with a root, named rules and the engine that runs their patterns. -/
structure Rulebook where
  engine : Engine
  rules : Array Rule
  root : RuleId
  repository : List (String × RuleId)

/-- What is needed to scan inside a rule. -/
structure RuleContext where
  /-- The rules that may start here, in order of preference. -/
  candidates : List RuleId
  /-- The scanner for the patterns of the candidates, in the same order. -/
  scanner? : Option Scanner
  /-- The scanner for the closing pattern, if the rule is a span and the pattern needs no
  captured text. -/
  closing? : Option Scanner

namespace Rulebook

variable (book : Rulebook)

def rule? (id : RuleId) : Option Rule :=
  book.rules[id]?

def named? (name : String) : Option RuleId :=
  (book.repository.find? fun entry => entry.1 = name).map Prod.snd

def resolve? : ReferenceTarget → Option RuleId
  | .named name => book.named? name
  | .self => some book.root
  | .base => some book.root
  | .foreign _ => none

/-- The rules met so far in a walk, and those of them that may start, in order. -/
structure Collected where
  visited : List RuleId
  found : List RuleId

/-- Walk from a rule through groups and references.  The fuel bounds the number of rules
that are walked into one from another. -/
def collect : Nat → Collected → RuleId → Collected
  | 0, collected, _ => collected
  | fuel + 1, collected, id =>
      if collected.visited.contains id then collected
      else
        let here : Collected := { collected with visited := id :: collected.visited }
        match book.rule? id with
        | none => here
        | some (.reference target) =>
            match book.resolve? target with
            | none => here
            | some resolved => collect fuel here resolved
        | some (.group members) => members.foldl (collect fuel) here
        | some rule =>
            if rule.startPattern?.isSome then { here with found := here.found ++ [id] }
            else here

/-- The rules that may start inside a rule, in order of preference. -/
def candidates (id : RuleId) : List RuleId :=
  match book.rule? id with
  | none => []
  | some rule =>
      (rule.members.foldl (book.collect (book.rules.size + 1)) ⟨[], []⟩).found

/-- The patterns by which the rules of a list start. -/
def startPatterns (ids : List RuleId) : List String :=
  ids.filterMap fun id => (book.rule? id).bind Rule.startPattern?

/-- The scanner for the rules that may start inside a rule. -/
def candidateScanner? (id : RuleId) : Option Scanner :=
  match book.startPatterns (book.candidates id) with
  | [] => none
  | patterns => (book.engine.compile patterns).toOption

/-- The scanner for the closing pattern of a span as it is written. -/
def closingScanner? (id : RuleId) : Option Scanner :=
  match book.rule? id with
  | some (.span rule) =>
      if rule.inert then none else (book.engine.compile [rule.closing]).toOption
  | _ => none

def context (id : RuleId) : RuleContext where
  candidates := book.candidates id
  scanner? := book.candidateScanner? id
  closing? := book.closingScanner? id

end Rulebook

end Scopelight
