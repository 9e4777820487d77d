import Mathlib.Data.List.Perm.Subperm
import Scopelight.Proofs.OpenSpans
import Scopelight.Proofs.StandardEngine
import Scopelight.Proofs.UpcomingMatch

/-!
# Progress of a scan

A scan may close and open spans without passing any text.  Between two steps that pass some
text it closes spans first and then opens spans of different rules: a span that was opened
where the scan stands cannot be closed there, and none of its rule is opened there again.
So only so many steps pass nothing, and a scan comes to its end by itself, also if nothing
limits the number of its steps.
-/

namespace Scopelight

/-- A step passes no text: it ends the line or goes on where the scan stands. -/
def Step.staysAt (position : Nat) : Step → Bool
  | .done _ _ => true
  | .more next => next.position == position

/-- The offset at which the scan stood when the span was opened on the present line. -/
def OpenFrame.entered? (opened : OpenFrame) : Option Nat :=
  opened.opening.map Opening.entered

/-- No match that an engine finds ends behind the line. -/
def Engine.EndsWithin (engine : Engine) : Prop :=
  ∀ {patterns scanner}, engine.compile patterns = .ok scanner →
    ∀ {line position anchor found}, scanner.find line position anchor = some found →
      found.stop ≤ Text.byteLength line

/-- The rules that are spans. -/
def Rulebook.spanRules (book : Rulebook) : List RuleId :=
  (List.range book.rules.size).filter fun id => book.rule? id matches some (.span _)

theorem Rulebook.mem_spanRules {book : Rulebook} {id : RuleId} {rule : SpanRule}
    (ruleEq : book.rule? id = some (.span rule)) : id ∈ book.spanRules := by
  have inside : id < book.rules.size := (Array.getElem?_eq_some_iff.mp ruleEq).1
  simp [spanRules, inside, ruleEq]

namespace Grammar

variable (grammar : Grammar) (line : List Char)

/-- The outcomes of the first so many steps of a scan whose steps are not limited. -/
def outcomes : Nat → Scan → List Step
  | 0, _ => []
  | count + 1, scan =>
      match grammar.step line scan with
      | .done stack pieces => [.done stack pieces]
      | .more next => .more next :: outcomes count next

/-- A scan whose steps are not limited comes to its end. -/
inductive Ends : Scan → List OpenFrame × Pieces → Prop
  | done {scan : Scan} {stack : List OpenFrame} {pieces : Pieces}
      (stepEq : grammar.step line scan = .done stack pieces) : Ends scan (stack, pieces)
  | more {scan next : Scan} {result : List OpenFrame × Pieces}
      (stepEq : grammar.step line scan = .more next) (later : Ends next result) :
      Ends scan result

/-- Steps that open spans of some rules where the scan stands, and then perhaps one that ends
the line. -/
inductive OpensThere : List RuleId → Scan → List Step → Prop
  | none (scan : Scan) : OpensThere [] scan []
  | ends {scan : Scan} {stack : List OpenFrame} {pieces : Pieces}
      (stepEq : grammar.step line scan = .done stack pieces) :
      OpensThere [] scan [.done stack pieces]
  | opens {scan next : Scan} {opened : OpenFrame} {ids : List RuleId} {steps : List Step}
      (stepEq : grammar.step line scan = .more next)
      (stays : next.position = scan.position) (stackEq : next.stack = opened :: scan.stack)
      (rest : OpensThere ids next steps) :
      OpensThere (opened.frame.rule :: ids) scan (.more next :: steps)

/-- Steps that close so many spans where the scan stands, and then open spans of some
rules. -/
inductive ClosesThere : Nat → List RuleId → Scan → List Step → Prop
  | none {ids : List RuleId} {scan : Scan} {steps : List Step}
      (opens : grammar.OpensThere line ids scan steps) : ClosesThere 0 ids scan steps
  | closes {scan next : Scan} {top : OpenFrame} {count : Nat} {ids : List RuleId}
      {steps : List Step} (stepEq : grammar.step line scan = .more next)
      (stays : next.position = scan.position) (stackEq : scan.stack = top :: next.stack)
      (rest : ClosesThere count ids next steps) :
      ClosesThere (count + 1) ids scan (.more next :: steps)

/-- The innermost spans of a scan are those that were opened where it stands.  They have
different rules, and all others were opened before. -/
structure Layered (here : List OpenFrame) (scan : Scan) : Prop where
  enteredHere : ∀ opened ∈ here, opened.entered? = some scan.position
  distinct : (here.map fun opened => opened.frame.rule).Nodup
  stackEq : ∃ outer, scan.stack = here ++ outer ∧
    ∀ opened ∈ outer, ∀ position ∈ opened.entered?, position < scan.position

variable {grammar line} {scan next : Scan} {here : List OpenFrame}

namespace Layered

theorem entered_le (layered : Layered here scan) :
    ∀ opened ∈ scan.stack, ∀ position ∈ opened.entered?, position ≤ scan.position := by
  obtain ⟨outer, stackEq, before⟩ := layered.stackEq
  intro opened member position entered
  rw [stackEq] at member
  rcases List.mem_append.mp member with inner | older
  · rw [layered.enteredHere opened inner, Option.mem_some_iff] at entered
    exact entered.ge
  · exact (before opened older position entered).le

/-- When a scan moves on, no span was opened where it then stands. -/
theorem moved (layered : Layered here scan)
    (known : ∀ opened ∈ next.stack, opened ∈ scan.stack ∨ opened.entered? = some scan.position)
    (moves : scan.position < next.position) : Layered [] next where
  enteredHere := fun _ member => absurd member List.not_mem_nil
  distinct := List.nodup_nil
  stackEq := by
    refine ⟨next.stack, rfl, fun opened member position entered => ?_⟩
    rcases known opened member with old | new
    · exact (layered.entered_le opened old position entered).trans_lt moves
    · rw [new, Option.mem_some_iff] at entered
      omega

theorem not_mem_of_not_reentered (layered : Layered here scan) {id : RuleId}
    (fresh : reentered scan.stack id scan.position = false) :
    id ∉ here.map fun opened => opened.frame.rule := by
  intro member
  obtain ⟨opened, inner, rfl⟩ := List.mem_map.mp member
  obtain ⟨outer, stackEq, -⟩ := layered.stackEq
  have entered := layered.enteredHere opened inner
  rw [OpenFrame.entered?] at entered
  have again : reentered scan.stack opened.frame.rule scan.position = true := by
    rw [reentered, List.any_eq_true]
    exact ⟨opened, by simp [stackEq, inner], by simp [entered]⟩
  rw [fresh] at again
  cases again

/-- A scan at the start of a line has opened nothing on it. -/
theorem start (state : State) : Layered [] (Scan.start state) where
  enteredHere := fun _ member => absurd member List.not_mem_nil
  distinct := List.nodup_nil
  stackEq := by
    refine ⟨(Scan.start state).stack, rfl, fun opened member position entered => ?_⟩
    obtain ⟨frame, -, rfl⟩ := List.mem_map.mp member
    cases entered

/-- A span that is closed where the scan stands was not opened there. -/
theorem closed (layered : Layered here scan) {top : OpenFrame} {outer : List OpenFrame}
    {found : Match} (stackEq : scan.stack = top :: outer)
    (noProgress : found.stop ≤ scan.position)
    (progress : found.stop ≤ scan.position →
      top.opening.map Opening.entered ≠ some scan.position) :
    here = [] ∧ Layered [] (grammar.closedScan scan top outer found) := by
  have positionEq : (grammar.closedScan scan top outer found).position = scan.position :=
    Nat.max_eq_left noProgress
  obtain ⟨older, splitEq, before⟩ := layered.stackEq
  have noneHere : here = [] := by
    by_contra someHere
    obtain ⟨inner, rest, rfl⟩ := List.exists_cons_of_ne_nil someHere
    have same : top = inner := (List.cons.inj (stackEq.symm.trans splitEq)).1
    have entered := layered.enteredHere inner List.mem_cons_self
    rw [← same] at entered
    exact progress noProgress entered
  refine ⟨noneHere, ⟨fun _ member => absurd member List.not_mem_nil, List.nodup_nil, ?_⟩⟩
  rw [positionEq]
  refine ⟨outer, rfl, fun opened member => before opened ?_⟩
  rw [noneHere, List.nil_append] at splitEq
  rw [← splitEq, stackEq]
  exact List.mem_cons_of_mem _ member

theorem opened (layered : Layered here scan) {id : RuleId} {rule : SpanRule} {found : Match}
    (noProgress : found.stop ≤ scan.position)
    (fresh : reentered scan.stack id scan.position = false) :
    Layered (grammar.openFrame line scan id rule found :: here)
      (grammar.openedScan line scan id rule found) := by
  have positionEq : (grammar.openedScan line scan id rule found).position = scan.position :=
    Nat.max_eq_left noProgress
  obtain ⟨outer, stackEq, before⟩ := layered.stackEq
  refine ⟨?_, ?_, outer, ?_, ?_⟩
  · intro opened member
    rw [positionEq]
    rcases List.mem_cons.mp member with rfl | inner
    · rfl
    · exact layered.enteredHere opened inner
  · rw [List.map_cons, List.nodup_cons]
    exact ⟨layered.not_mem_of_not_reentered fresh, layered.distinct⟩
  · change _ :: scan.stack = _ :: (here ++ outer)
    rw [stackEq]
  · rw [positionEq]
    exact before

/-- What a step does that goes on: it moves on, or it closes a span if none was opened where
the scan stands, or it opens a span of another rule than those. -/
theorem step_cases (layered : Layered here scan)
    (stepEq : grammar.step line scan = .more next) :
    (scan.position < next.position ∧ Layered [] next) ∨
      (next.position = scan.position ∧ here = [] ∧ (∃ top, scan.stack = top :: next.stack) ∧
        Layered [] next) ∨
      (next.position = scan.position ∧ ∃ opened, next.stack = opened :: scan.stack ∧
        opened.frame.rule ∈ grammar.spanRules ∧ Layered (opened :: here) next) := by
  have turn : Turn grammar line scan (grammar.step line scan) := step_turn scan
  rw [stepEq] at turn
  generalize outcomeEq : Step.more next = outcome at turn
  cases turn with
  | exhausted | refused | stuckClose | stuckSingle | reopened | unfit => cases outcomeEq
  | close found top outer upcoming stackEq fresh progress =>
      obtain rfl := Step.more.inj outcomeEq
      by_cases moves : scan.position < found.stop
      · have moved : scan.position < (grammar.closedScan scan top outer found).position :=
          moves.trans_le (Nat.le_max_right _ _)
        refine .inl ⟨moved, layered.moved (fun opened member => .inl ?_) moved⟩
        rw [stackEq]
        exact List.mem_cons_of_mem _ member
      · have noProgress := Nat.le_of_not_lt moves
        obtain ⟨noneHere, closed⟩ := layered.closed stackEq noProgress progress
        exact .inr (.inl ⟨Nat.max_eq_left noProgress, noneHere, ⟨top, stackEq⟩, closed⟩)
  | pass found id rule upcoming ruleEq progress =>
      obtain rfl := Step.more.inj outcomeEq
      exact .inl ⟨progress, layered.moved (fun _ => .inl) progress⟩
  | opens found id rule upcoming ruleEq progress =>
      obtain rfl := Step.more.inj outcomeEq
      by_cases moves : scan.position < found.stop
      · have moved : scan.position < (grammar.openedScan line scan id rule found).position :=
          moves.trans_le (Nat.le_max_right _ _)
        refine .inl ⟨moved, layered.moved (fun opened member => ?_) moved⟩
        rcases List.mem_cons.mp member with rfl | old
        · exact .inr rfl
        · exact .inl old
      · have noProgress := Nat.le_of_not_lt moves
        exact .inr (.inr ⟨Nat.max_eq_left noProgress, _, rfl, Rulebook.mem_spanRules ruleEq,
          layered.opened noProgress (progress noProgress)⟩)

/-- Steps that pass nothing close spans, then open spans of different rules, and then perhaps
end the line.  They close none if a span was opened where the scan stands. -/
theorem closesThere (layered : Layered here scan) (count : Nat)
    (stays : ∀ outcome ∈ grammar.outcomes line count scan,
      outcome.staysAt scan.position = true) :
    ∃ closed ids, grammar.ClosesThere line closed ids scan (grammar.outcomes line count scan) ∧
      closed ≤ scan.stack.length ∧ (here ≠ [] → closed = 0) ∧
      (ids ++ here.map fun opened => opened.frame.rule).Nodup ∧
      ∀ id ∈ ids, id ∈ grammar.spanRules := by
  induction count generalizing here scan with
  | zero => exact ⟨0, [], .none (.none scan), by simp, by simp, by simpa using layered.distinct,
      by simp⟩
  | succ count ih =>
      unfold outcomes at stays ⊢
      cases stepEq : grammar.step line scan with
      | done stack pieces =>
          exact ⟨0, [], .none (.ends stepEq), by simp, by simp, by simpa using layered.distinct,
            by simp⟩
      | more next =>
          simp only [stepEq, List.forall_mem_cons] at stays
          obtain ⟨stands, restStays⟩ := stays
          have same : next.position = scan.position := by simpa [Step.staysAt] using stands
          rw [← same] at restStays
          rcases layered.step_cases stepEq with ⟨moves, -⟩ |
            ⟨-, rfl, ⟨top, stackEq⟩, later⟩ | ⟨-, opened, stackEq, isSpan, later⟩
          · omega
          · obtain ⟨closed, ids, closes, closedLe, -, distinct, spans⟩ := ih later restStays
            refine ⟨closed + 1, ids, .closes stepEq same stackEq closes, ?_, by simp,
              distinct, spans⟩
            rw [stackEq, List.length_cons]
            exact Nat.succ_le_succ closedLe
          · obtain ⟨closed, ids, closes, -, noneClosed, distinct, spans⟩ := ih later restStays
            obtain rfl := noneClosed (by simp)
            cases closes with
            | none opens =>
                refine ⟨0, opened.frame.rule :: ids, .none (.opens stepEq same stackEq opens),
                  Nat.zero_le _, fun _ => rfl, ?_, ?_⟩
                · rw [List.map_cons] at distinct
                  exact (List.perm_middle.nodup_iff).mp distinct
                · simpa using ⟨isSpan, spans⟩

end Layered

/-! ### The end of a scan -/

theorem OpensThere.length_le {ids : List RuleId} {steps : List Step}
    (opens : grammar.OpensThere line ids scan steps) : steps.length ≤ ids.length + 1 := by
  induction opens with
  | none => simp
  | ends => simp
  | opens _ _ _ _ ih => simpa using ih

theorem ClosesThere.length_le {closed : Nat} {ids : List RuleId} {steps : List Step}
    (closes : grammar.ClosesThere line closed ids scan steps) :
    steps.length ≤ closed + ids.length + 1 := by
  induction closes with
  | none opens => simpa using opens.length_le
  | closes _ _ _ _ ih =>
      rw [List.length_cons]
      omega

/-- The rules of the spans that are opened where the scan stands are few, as they differ. -/
theorem length_le_spanRules {ids : List RuleId} (distinct : ids.Nodup)
    (spans : ∀ id ∈ ids, id ∈ grammar.spanRules) : ids.length ≤ grammar.spanRules.length :=
  (List.Nodup.subperm distinct spans).length_le

theorem upcoming?_stop_le (within : grammar.engine.EndsWithin) {stack : List OpenFrame}
    {position : Nat} {anchor : Option Nat} {upcoming : Upcoming}
    (upcomingEq : grammar.upcoming? stack line position anchor = some upcoming) :
    upcoming.found.stop ≤ Text.byteLength line := by
  rcases upcoming?_cases upcomingEq with ⟨id, found, rfl, startEq⟩ |
    ⟨found, top, rfl, -, closeEq⟩
  · obtain ⟨-, scanner, scannerEq, foundEq, -⟩ := nextStart?_eq_some_iff.mp startEq
    exact within (candidateScanner?_compiles scannerEq) foundEq
  · obtain ⟨_, _, _, compiled, foundEq⟩ := nextClose?_found closeEq
    exact within compiled foundEq

/-- A step does not lead behind the line. -/
theorem step_position_le (within : grammar.engine.EndsWithin)
    (inside : scan.position ≤ Text.byteLength line)
    (stepEq : grammar.step line scan = .more next) :
    next.position ≤ Text.byteLength line := by
  have turn : Turn grammar line scan (grammar.step line scan) := step_turn scan
  rw [stepEq] at turn
  generalize outcomeEq : Step.more next = outcome at turn
  cases turn with
  | exhausted | refused | stuckClose | stuckSingle | reopened | unfit => cases outcomeEq
  | close found top outer upcoming =>
      obtain rfl := Step.more.inj outcomeEq
      exact Nat.max_le.mpr ⟨inside, upcoming?_stop_le within upcoming⟩
  | pass found id rule upcoming =>
      obtain rfl := Step.more.inj outcomeEq
      exact upcoming?_stop_le within upcoming
  | opens found id rule upcoming =>
      obtain rfl := Step.more.inj outcomeEq
      exact Nat.max_le.mpr ⟨inside, upcoming?_stop_le within upcoming⟩

/-- A scan that comes to its end, or moves on to one that ends as it does. -/
def EndsOrMoves (grammar : Grammar) (line : List Char) (scan : Scan) : Prop :=
  (∃ result, grammar.Ends line scan result) ∨
    ∃ later, scan.position < later.position ∧ later.position ≤ Text.byteLength line ∧
      Layered [] later ∧
      ∀ result, grammar.Ends line later result → grammar.Ends line scan result

theorem EndsOrMoves.back (stepEq : grammar.step line scan = .more next)
    (stays : next.position = scan.position) (ends : EndsOrMoves grammar line next) :
    EndsOrMoves grammar line scan := by
  rcases ends with ⟨result, ended⟩ | ⟨later, moves, inside, layered, onward⟩
  · exact .inl ⟨result, .more stepEq ended⟩
  · exact .inr ⟨later, stays ▸ moves, inside, layered,
      fun result ended => .more stepEq (onward result ended)⟩

/-- A scan comes to its end or moves on, or so many steps leave it where it stands. -/
theorem Layered.endsOrMoves_or_stays (within : grammar.engine.EndsWithin)
    (layered : Layered here scan) (inside : scan.position ≤ Text.byteLength line)
    (count : Nat) :
    EndsOrMoves grammar line scan ∨
      (grammar.outcomes line count scan).length = count ∧
        ∀ outcome ∈ grammar.outcomes line count scan,
          outcome.staysAt scan.position = true := by
  induction count generalizing here scan with
  | zero => exact .inr ⟨rfl, by simp [outcomes]⟩
  | succ count ih =>
      cases stepEq : grammar.step line scan with
      | done stack pieces => exact .inl (.inl ⟨_, .done stepEq⟩)
      | more next =>
          have nextInside := step_position_le within inside stepEq
          have staysOr : (scan.position < next.position ∧ Layered [] next) ∨
              next.position = scan.position ∧ ∃ here, Layered here next := by
            rcases layered.step_cases stepEq with moved | ⟨stays, -, -, later⟩ |
              ⟨stays, _, -, -, later⟩
            · exact .inl moved
            · exact .inr ⟨stays, _, later⟩
            · exact .inr ⟨stays, _, later⟩
          rcases staysOr with ⟨moves, later⟩ | ⟨stays, _, later⟩
          · exact .inl (.inr ⟨next, moves, nextInside, later,
              fun result ended => .more stepEq ended⟩)
          · rcases ih later nextInside with ends | ⟨lengthEq, allStay⟩
            · exact .inl (ends.back stepEq stays)
            · refine .inr ?_
              unfold outcomes
              rw [stepEq, List.length_cons, lengthEq, List.forall_mem_cons]
              exact ⟨rfl, by simpa [Step.staysAt] using stays, stays ▸ allStay⟩

/-- As only so many steps leave it where it stands, a scan comes to its end or moves on. -/
theorem Layered.endsOrMoves (within : grammar.engine.EndsWithin) (layered : Layered here scan)
    (inside : scan.position ≤ Text.byteLength line) : EndsOrMoves grammar line scan := by
  rcases layered.endsOrMoves_or_stays within inside
    (scan.stack.length + grammar.spanRules.length + 2) with ends | ⟨lengthEq, stays⟩
  · exact ends
  · obtain ⟨closed, ids, closes, closedLe, -, distinct, spans⟩ := layered.closesThere _ stays
    have tooMany := closes.length_le
    have idsLe := length_le_spanRules (List.nodup_append.mp distinct).1 spans
    omega

/-- The text that is left decreases with every move, so that a scan comes to its end. -/
theorem Layered.exists_ends (within : grammar.engine.EndsWithin) (layered : Layered here scan)
    (inside : scan.position ≤ Text.byteLength line) :
    ∃ result, grammar.Ends line scan result := by
  induction leftEq : Text.byteLength line - scan.position using Nat.strong_induction_on
    generalizing here scan with
  | _ left ih =>
      rcases layered.endsOrMoves within inside with ended | ⟨later, moves, laterInside,
        laterLayered, onward⟩
      · exact ended
      · obtain ⟨result, ended⟩ := ih _ (by omega) laterLayered laterInside rfl
        exact ⟨result, onward result ended⟩

/-- With enough steps a scan that comes to its end is not cut short. -/
theorem Ends.exists_limit {result : List OpenFrame × Pieces}
    (ends : grammar.Ends line scan result) :
    ∃ limit, ∀ fuel, limit ≤ fuel → grammar.runSteps line fuel scan = result := by
  induction ends with
  | done stepEq =>
      refine ⟨1, fun fuel enough => ?_⟩
      obtain ⟨more, rfl⟩ := Nat.exists_eq_add_of_le' enough
      simp only [runSteps, stepEq]
  | more stepEq _ ih =>
      obtain ⟨limit, runs⟩ := ih
      refine ⟨limit + 1, fun fuel enough => ?_⟩
      obtain ⟨more, rfl⟩ := Nat.exists_eq_add_of_le' enough
      rw [← Nat.add_assoc]
      simp only [runSteps, stepEq]
      exact runs _ (Nat.le_add_left _ _)

/-- Wherever a scan of a line comes, some of its innermost spans are those opened there. -/
theorem exists_layered {state : State} (reached : grammar.Reaches line (Scan.start state) scan) :
    ∃ here, Layered here scan := by
  induction reached with
  | refl => exact ⟨[], Layered.start state⟩
  | tail _ stepEq ih =>
      obtain ⟨here, layered⟩ := ih
      rcases layered.step_cases stepEq with ⟨-, later⟩ | ⟨-, -, -, later⟩ | ⟨-, _, -, -, later⟩
      · exact ⟨_, later⟩
      · exact ⟨_, later⟩
      · exact ⟨_, later⟩

/-- Steps in sequence that leave the scan where it stands close at most as many spans as are
open, then open spans of different rules, and then at most one ends the line.  So a scan
ends without a limit on its steps, and as it does with every limit that is large enough. -/
theorem scan_ends (within : grammar.engine.EndsWithin) (line : List Char) (state : State) :
    (∀ first count, grammar.Reaches line (Scan.start state) first →
      (∀ outcome ∈ grammar.outcomes line count first,
        outcome.staysAt first.position = true) →
      ∃ closed ids,
        grammar.ClosesThere line closed ids first (grammar.outcomes line count first) ∧
        closed ≤ first.stack.length ∧ ids.Nodup ∧
        (∀ id ∈ ids, id ∈ grammar.spanRules) ∧ ids.length ≤ grammar.spanRules.length) ∧
      ∃ result, grammar.Ends line (Scan.start state) result ∧
        ∃ limit, ∀ fuel, limit ≤ fuel →
          grammar.runSteps line fuel (Scan.start state) = result := by
  constructor
  · intro first count reached stays
    obtain ⟨here, layered⟩ := exists_layered reached
    obtain ⟨closed, ids, closes, closedLe, -, distinct, spans⟩ :=
      layered.closesThere count stays
    have idsDistinct := (List.nodup_append.mp distinct).1
    exact ⟨closed, ids, closes, closedLe, idsDistinct, spans,
      length_le_spanRules idsDistinct spans⟩
  · have layered : Layered [] (Scan.start state) := .start state
    obtain ⟨result, ends⟩ := layered.exists_ends within (Nat.zero_le (Text.byteLength line))
    exact ⟨result, ends, ends.exists_limit⟩

/-- Two rules, one inside the other, that can both be opened without a character. -/
def idleDocument : GrammarDocument where
  scopeName := some "text.idle"
  name := none
  fileTypes := []
  patterns := some [{
    opening := some "a*"
    closing := some "b"
    members := [{ opening := some "c*", closing := some "d*" }]
  }]
  repository := []

/-- Before it comes to its end, a scan of a line closes a span, opens two and passes
nothing. -/
theorem idleDocument_scan_ends :
    ∃ grammar, Grammar.ofDocument .standard true idleDocument = .ok grammar ∧
      ∃ state : State, state.openRules = [0] ∧ grammar.engine.EndsWithin ∧
        (grammar.outcomes ['x'] 4 (Scan.start state)).length = 4 ∧
        (∃ closed ids, grammar.ClosesThere ['x'] closed ids (Scan.start state)
          (grammar.outcomes ['x'] 4 (Scan.start state)) ∧ closed ≤ 1 ∧ ids.Nodup) ∧
        ∃ result, grammar.Ends ['x'] (Scan.start state) result := by
  let state : State := ⟨[⟨0, [⟨"text.idle"⟩], [⟨"text.idle"⟩], none, false⟩]⟩
  have evaluated : ((Grammar.ofDocument .standard true idleDocument).toOption.any fun grammar =>
      let outcomes := grammar.outcomes ['x'] 4 (Scan.start state)
      outcomes.length == 4 && outcomes.all (Step.staysAt 0)) = true := by
    decide +kernel
  obtain ⟨grammar, loaded, checked⟩ := exists_ok_of_any evaluated
  simp only [Bool.and_eq_true, beq_iff_eq, List.all_eq_true] at checked
  obtain ⟨lengthEq, stays⟩ := checked
  have within : grammar.engine.EndsWithin := by
    rw [(ofDocument_compiles loaded).1]
    exact fun compiled => (Engine.standard_withinLine compiled).stopLe
  obtain ⟨groups, result, ends, -⟩ := scan_ends within ['x'] state
  obtain ⟨closed, ids, closes, closedLe, distinct, -⟩ := groups _ 4 .refl stays
  exact ⟨grammar, loaded, state, rfl, within, lengthEq,
    ⟨closed, ids, closes, closedLe, distinct⟩, result, ends⟩

end Grammar

end Scopelight
