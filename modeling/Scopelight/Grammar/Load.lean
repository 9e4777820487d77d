import Scopelight.Grammar.Basic
import Scopelight.Grammar.Document
import Scopelight.Pattern.Engine

/-!
# Loading grammars

The rules of a document are numbered in the order in which they are finished, children
before their parents: first the rules of the root, then the root itself, then the
repository by the order of its names.  A pattern that does not compile makes its rule
inert.  A reference that resolves to nothing keeps a grammar from loading if references are
strict, and is noted otherwise.
-/

namespace Scopelight

namespace Grammar

/-- A closing pattern that never matches text made of characters in use. -/
def neverCloses : String :=
  String.singleton (Char.ofNat 0xFFFF)

/-- The rules numbered so far. -/
structure Builder where
  rules : Array Rule
  diagnostics : List Diagnostic
  /-- The references met, latest first. -/
  references : List ReferenceTarget

namespace Builder

def empty : Builder :=
  ⟨#[], [], []⟩

def push (builder : Builder) (rule : Rule) : RuleId × Builder :=
  (builder.rules.size, { builder with rules := builder.rules.push rule })

/-- Number a rule whose patterns compile or fail with an error. -/
def pushChecked (builder : Builder) (error? : Option CompileError)
    (rule : Bool → Rule) : RuleId × Builder :=
  match error? with
  | none => builder.push (rule false)
  | some error =>
      let (id, next) := builder.push (rule true)
      (id, { next with diagnostics := next.diagnostics ++ [.inertRule id error] })

end Builder

/-- The error of the first pattern of a list that does not compile by itself. -/
def firstError? (engine : Engine) : List String → Option CompileError
  | [] => none
  | pattern :: rest =>
      match engine.compile [pattern] with
      | .error error => some error
      | .ok _ => firstError? engine rest

/-- A pattern must not use constructs that the engine cannot run. -/
def requireSupported (engine : Engine) (pattern : String) : Except GrammarError Unit :=
  match engine.unsupportedFeature pattern with
  | some feature => .error (.unsupportedFeature pattern feature)
  | none => .ok ()

/-- A group number as it is written: decimal digits, with a plus sign at most, below
`2^64`. -/
def groupNumber? (text : String) : Option Nat :=
  let digits :=
    match text.toList with
    | '+' :: rest => rest
    | chars => chars
  if digits.isEmpty || !digits.all Char.isDigit then none
  else
    let value : Nat := digits.foldl (fun total c => total * 10 + (c.toNat - 0x30)) 0
    if value < 0x10000000000000000 then some value else none

/-- The groups of a document that have a number and scope names, with their scopes. -/
def capturePairs (document : List (String × Option String)) : List (Nat × List Scope) :=
  document.filterMap fun (group, names) => do
    return (← groupNumber? group, Scope.parseNames (← names))

def buildCaptures (document : Option (List (String × Option String))) :
    Except GrammarError Captures :=
  match Captures.ofPairs? (capturePairs (document.getD [])) with
  | none => .error .captureOverflow
  | some captures => .ok captures

def scopesOf (names : Option String) : List Scope :=
  (names.map Scope.parseNames).getD []

mutual

/-- Number a rule of a document after the rules inside it. -/
def buildRule (engine : Engine) : RuleDocument → Builder →
    Except GrammarError (RuleId × Builder)
  | ⟨reference, name, contentName, pattern, opening, closing, captures, openingCaptures,
      closingCaptures, members, closingLast, allowEmptySpan⟩, builder =>
      match reference with
      | some text =>
          let target := ReferenceTarget.ofText text
          .ok ({ builder with references := target :: builder.references }.push
            (.reference target))
      | none =>
          match pattern with
          | some pattern => do
              requireSupported engine pattern
              let captures ← buildCaptures captures
              return builder.pushChecked (firstError? engine [pattern]) fun inert =>
                .single ⟨scopesOf name, pattern, captures, inert⟩
          | none => do
              let (ids, builder) ← buildRules engine members builder
              match opening with
              | none => return builder.push (.group ids)
              | some opening =>
                  requireSupported engine opening
                  let closing := closing.getD neverCloses
                  let template :=
                    String.ofList (Pattern.fillReferences [] [] closing.toList)
                  requireSupported engine template
                  let openingCaptures ← buildCaptures (openingCaptures.or captures)
                  let closingCaptures ← buildCaptures (closingCaptures.or captures)
                  return builder.pushChecked (firstError? engine [opening, template])
                    fun inert =>
                      .span {
                        name := scopesOf name
                        contentName := scopesOf contentName
                        opening
                        closing
                        openingCaptures
                        closingCaptures
                        members := ids
                        closingLast := closingLast.getD false
                        allowEmptySpan := allowEmptySpan.getD true
                        hasReferences := Pattern.hasReferences closing.toList
                        inert
                      }

def buildRules (engine : Engine) : List RuleDocument → Builder →
    Except GrammarError (List RuleId × Builder)
  | [], builder => .ok ([], builder)
  | document :: rest, builder => do
      let (id, builder) ← buildRule engine document builder
      let (ids, builder) ← buildRules engine rest builder
      return (id :: ids, builder)

end

def buildRepository (engine : Engine) : List (String × RuleDocument) → Builder →
    Except GrammarError (List (String × RuleId) × Builder)
  | [], builder => .ok ([], builder)
  | (name, document) :: rest, builder => do
      let (id, builder) ← buildRule engine document builder
      let (entries, builder) ← buildRepository engine rest builder
      return ((name, id) :: entries, builder)

/-- Whether a reference names something, given the named rules of a repository. -/
def isKnown (repository : List (String × RuleId)) : ReferenceTarget → Bool
  | .named name => repository.any fun entry => entry.1 = name
  | .self => true
  | .base => true
  | .foreign _ => false

/-- Go through the references in the order in which they were met, with the problems noted
so far.  The first one that names nothing is an error if references are strict; otherwise
each is noted once, as it is written. -/
def checkReferences (strict : Bool) (repository : List (String × RuleId)) :
    List ReferenceTarget → List Diagnostic → Except GrammarError (List Diagnostic)
  | [], noted => .ok noted
  | target :: rest, noted =>
      if isKnown repository target then checkReferences strict repository rest noted
      else if strict then .error (.unresolvedReference target.text)
      else if noted.contains (.unresolvedReference target.text) then
        checkReferences strict repository rest noted
      else
        checkReferences strict repository rest
          (noted ++ [.unresolvedReference target.text])

/-- The scope name of a document without the blank around it. -/
def scopeNameOf (document : GrammarDocument) : Except GrammarError Scope :=
  match document.scopeName.map fun name => Unicode.trimWhite name.toList with
  | none => .error .missingScopeName
  | some [] => .error .missingScopeName
  | some name => .ok ⟨String.ofList name⟩

def ofDocument (engine : Engine) (strict : Bool) (document : GrammarDocument) :
    Except GrammarError Grammar := do
  let scopeName ← scopeNameOf document
  match document.patterns with
  | none => .error .missingRoot
  | some patterns =>
      let (members, builder) ← buildRules engine patterns .empty
      let (root, builder) := builder.push (.group members)
      let (repository, builder) ← buildRepository engine document.repository builder
      let diagnostics ←
        checkReferences strict repository builder.references.reverse builder.diagnostics
      let book : Rulebook := { engine, rules := builder.rules, root, repository }
      return {
        book with
        scopeName
        name := document.name
        fileTypes := document.fileTypes
        diagnostics
        contexts := .build _ _
      }

def load (engine : Engine) (strict : Bool) (source : String) :
    Except GrammarError Grammar :=
  match GrammarDocument.parse? source with
  | none => .error .malformed
  | some document => ofDocument engine strict document

end Grammar

end Scopelight
