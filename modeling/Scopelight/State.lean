import Scopelight.Grammar.Rule
import Scopelight.Json.Decode

/-!
# Continuation states

The state between two lines is the stack of spans that are still open.  The root of the
grammar is not on the stack, so the initial state is the empty one.  A state has a JSON
form, in which the frames stand outermost first.
-/

namespace Scopelight

/-- An open span. -/
structure Frame where
  rule : RuleId
  nameScopes : List Scope
  contentScopes : List Scope
  /-- The closing pattern with its back-references filled in, if it has any. -/
  closing : Option String
  /-- Whether the opening match ran to the end of its line. -/
  openedAtLineEnd : Bool
  deriving DecidableEq

/-- The open spans at a line boundary, innermost first. -/
structure State where
  stack : List Frame
  deriving DecidableEq

namespace State

def initial : State :=
  ⟨[]⟩

def depth (state : State) : Nat :=
  state.stack.length

def isInitial (state : State) : Bool :=
  state.stack.isEmpty

def openRules (state : State) : List RuleId :=
  state.stack.reverse.map Frame.rule

/-- The scopes inside the innermost open span, if a span is open. -/
def contentScopes? (state : State) : Option (List Scope) :=
  state.stack.head?.map Frame.contentScopes

end State

namespace Frame

def toJson (frame : Frame) : Json :=
  .ofFields
    [("rule", .ofNat frame.rule),
     ("name_scopes", .ofList (fun scope => .string scope.name) frame.nameScopes),
     ("content_scopes", .ofList (fun scope => .string scope.name) frame.contentScopes),
     ("end_pattern", .ofOption (frame.closing.map .string)),
     ("begin_captured_eol", .bool frame.openedAtLineEnd)]

def fieldNames : List (List String) :=
  [["rule"], ["name_scopes"], ["content_scopes"], ["end_pattern"], ["begin_captured_eol"]]

/-- The frame that a JSON value writes, with so many levels left. -/
def ofJson? : Nat → Json → Option Frame
  | 0, _ => none
  | depth + 1, value => do
      match ← Json.record? fieldNames value with
      | [rule, nameScopes, contentScopes, closing, openedAtLineEnd] =>
          return {
            rule := ← rule.required? Json.natural?
            nameScopes := (← nameScopes.required? (Json.texts? depth)).map Scope.mk
            contentScopes := (← contentScopes.required? (Json.texts? depth)).map Scope.mk
            closing := ← closing.optional? Json.text?
            openedAtLineEnd := ← openedAtLineEnd.required? Json.bool?
          }
      | _ => none

end Frame

namespace State

def toJson (state : State) : Json :=
  .ofFields [("frames", .ofList Frame.toJson state.stack.reverse)]

def ofJson? (value : Json) : Option State := do
  match ← Json.record? [["frames"]] value with
  | [frames] =>
      let frames ← frames.required? (Json.list? Frame.ofJson? (Json.depthLimit - 1))
      return ⟨frames.reverse⟩
  | _ => none

end State

end Scopelight
