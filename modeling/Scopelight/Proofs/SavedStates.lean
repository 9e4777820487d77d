import Scopelight.Proofs.LineStartAnchor
import Scopelight.Proofs.WrittenJson

/-!
# Saved states

A state is written as JSON and read back without a change: its frames in their order, each
with all of its fields.  What the tokenizer remembers of a line does not get into a state, so
a line that starts in a state that was read back goes on as if it had not been written.
-/

namespace Scopelight

/-- The names of scopes are read back. -/
theorem texts?_scopes (depth : Nat) (scopes : List Scope) :
    Json.texts? (depth + 1) (.ofList (fun scope : Scope => .string scope.name) scopes) =
      some (scopes.map Scope.name) :=
  Json.list?_ofList fun _ _ => rfl

theorem Frame.ofJson?_toJson (depth : Nat) (frame : Frame) :
    Frame.ofJson? (depth + 2) frame.toJson = some frame := by
  have slotsEq : Json.record? Frame.fieldNames frame.toJson =
      some [.present (.ofNat frame.rule),
        .present (.ofList (fun scope => .string scope.name) frame.nameScopes),
        .present (.ofList (fun scope => .string scope.name) frame.contentScopes),
        .present (.ofOption (frame.closing.map .string)),
        .present (.bool frame.openedAtLineEnd)] := by
    simp [Json.record?, Frame.fieldNames, Frame.toJson, Json.ofFields, Json.fillSlot]
  have closingEq : Json.nullable? Json.text? (.ofOption (frame.closing.map .string)) =
      some frame.closing := by
    cases frame.closing <;> rfl
  have renamed : Scope.mk ∘ Scope.name = id := rfl
  simp [Frame.ofJson?, slotsEq, Json.Slot.required?, Json.Slot.optional?, texts?_scopes,
    closingEq, Json.bool?, Json.ofNat, Json.natural?, renamed]

theorem State.ofJson?_toJson (state : State) : State.ofJson? state.toJson = some state := by
  have slotsEq : Json.record? [["frames"]] state.toJson =
      some [.present (.ofList Frame.toJson state.stack.reverse)] := by
    simp [Json.record?, State.toJson, Json.ofFields, Json.fillSlot]
  have framesEq : Json.list? Frame.ofJson? (Json.depthLimit - 1)
      (.ofList Frame.toJson state.stack.reverse) = some (state.stack.reverse.map id) :=
    Json.list?_ofList fun frame _ => Frame.ofJson?_toJson 123 frame
  simp [State.ofJson?, slotsEq, Json.Slot.required?, framesEq]

theorem Frame.toJson_writable {frame : Frame} (fits : frame.rule < 0x10000000000000000) :
    frame.toJson.Writable := by
  have scopesWritable (scopes : List Scope) :
      (Json.ofList (fun scope : Scope => .string scope.name) scopes).Writable :=
    .ofList fun scope _ => .string scope.name
  have ruleWritable : (Json.ofNat frame.rule).Writable :=
    .integer (by omega) (Int.ofNat_lt.mpr fits)
  have closingWritable : (Json.ofOption (frame.closing.map .string)).Writable :=
    .ofOption fun pattern _ => .string pattern
  refine .ofFields fun field member => ?_
  simp only [List.mem_cons, List.not_mem_nil, or_false] at member
  rcases member with rfl | rfl | rfl | rfl | rfl
  · exact ruleWritable
  · exact scopesWritable frame.nameScopes
  · exact scopesWritable frame.contentScopes
  · exact closingWritable
  · exact .bool frame.openedAtLineEnd

theorem State.toJson_writable {state : State}
    (fits : ∀ frame ∈ state.stack, frame.rule < 0x10000000000000000) :
    state.toJson.Writable := by
  refine .ofFields fun field member => ?_
  rw [List.mem_singleton.mp member]
  exact .ofList fun frame held => Frame.toJson_writable (fits frame (List.mem_reverse.mp held))

/-- A state is read back from what it is written as, be it a value or a text that can hold
the numbers of its rules, and lines go on from what was read as from the state. -/
structure State.RestoresTo (state restored : State) : Prop where
  valueRead : State.ofJson? state.toJson = some restored
  textRead : (∀ frame ∈ state.stack, frame.rule < 0x10000000000000000) →
    (Json.parse? state.toJson.render).bind State.ofJson? = some restored
  same : restored = state
  goesOn : ∀ (grammar : Grammar) (lines : List (List Char)),
    grammar.tokenizeFrom restored lines = grammar.tokenizeFrom state lines

theorem State.restoresTo_self (state : State) : state.RestoresTo state where
  valueRead := State.ofJson?_toJson state
  textRead fits := by
    rw [(State.toJson_writable fits).parse?_render, Option.bind_some, State.ofJson?_toJson]
  same := rfl
  goesOn _ _ := rfl

namespace Grammar

variable {grammar : Grammar}

theorem WellFormed.rule_lt {frames : List Frame} (wellFormed : grammar.WellFormed frames) :
    ∀ frame ∈ frames, frame.rule < grammar.rules.size := by
  intro frame member
  obtain ⟨around, rule, fits⟩ := wellFormed.exists_fits member
  exact (Array.getElem?_eq_some_iff.mp fits.ruleEq).1

/-- A state is restored from what was written of it.  That is so for the state that any stack
leaves, of which nothing is lost but what the tokenizer remembers of the line, and for the
state after any lines, from which all further lines go on as they would have done. -/
theorem saved_states_resume :
    (∀ stack : List OpenFrame, ∃ restored, (Scan.finish stack).RestoresTo restored ∧
      (Scan.start restored).stack = stack.map fun opened => ⟨opened.frame, none⟩) ∧
    ∀ (grammar : Grammar) (earlier : List (List Char)), ∃ restored,
      (grammar.stateFrom .initial earlier).RestoresTo restored ∧
      (∀ frame ∈ restored.stack, frame.rule < grammar.rules.size) ∧
      ∀ later, grammar.tokenizeLines (earlier ++ later) =
        grammar.tokenizeLines earlier ++ grammar.tokenizeFrom restored later := by
  constructor
  · intro stack
    refine ⟨_, State.restoresTo_self _, ?_⟩
    simp [Scan.start, Scan.finish, Function.comp_def]
  · intro grammar earlier
    exact ⟨_, State.restoresTo_self _, (stateFrom_wellFormed earlier).rule_lt,
      tokenizeFrom_append .initial earlier⟩

/-- The state of a span with the greatest number, whose closing pattern has characters that
are escaped. -/
def escapedState : State where
  stack := [{
    rule := 0xFFFFFFFFFFFFFFFF
    nameScopes := [⟨"source.é"⟩, ⟨"\"string\""⟩]
    contentScopes := []
    closing := some "\\Q\u0000\n𝄞"
    openedAtLineEnd := true
  }]

theorem escapedState_resumes : ∃ restored,
    (Json.parse? escapedState.toJson.render).bind State.ofJson? = some restored ∧
      restored = escapedState := by
  obtain ⟨restored, restores, -⟩ := saved_states_resume.1
    (escapedState.stack.map fun frame => ⟨frame, some ⟨none, 1, 2⟩⟩)
  have fits : ∀ frame ∈ escapedState.stack, frame.rule < 0x10000000000000000 := by decide
  exact ⟨restored, restores.textRead fits, restores.same⟩

end Grammar

end Scopelight
