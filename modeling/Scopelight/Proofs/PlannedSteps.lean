import Scopelight.Proofs.NextPlan

/-!
# Steps that the plans foretell

In a grammar whose rules classify their text every match takes something, so none of the
guards of a scan holds it up: the match that comes next is taken, and at the end of the line
nothing comes.  Which candidate is the first to match can be read off a table of plans.
-/

namespace Scopelight

open Pattern

namespace Rulebook

variable (book : Rulebook) (table : PlanTable) (silent : Plan → Bool)

/-- The plan of the pattern by which a rule starts. -/
def startPlan? (id : RuleId) : Option Plan :=
  ((book.rule? id).bind Rule.startPattern?).bind table.plan?

/-- The first candidate of a context that is not silent by its plan. -/
def firstStart? (context : RuleId) : Option RuleId :=
  (book.candidates context).find? fun id => !(book.startPlan? table id).any silent

/-- Whether the first candidate of a context that is not silent matches just some text. -/
def startsFirst (context : RuleId) (text : List Char) (id : RuleId) : Bool :=
  book.firstStart? table silent context == some id &&
    (book.startPlan? table id).any (Plan.matchesOnly · text)

def span? (id : RuleId) : Option SpanRule :=
  match book.rule? id with
  | some (.span rule) => some rule
  | _ => none

def single? (id : RuleId) : Option SingleRule :=
  match book.rule? id with
  | some (.single rule) => some rule
  | _ => none

variable {book} {id : RuleId}

theorem span?_eq_some {rule : SpanRule} :
    book.span? id = some rule ↔ book.rule? id = some (.span rule) := by
  unfold span?
  split
  · next own ownEq => simp [ownEq]
  · next noSpan => simpa using noSpan rule

theorem single?_eq_some {rule : SingleRule} :
    book.single? id = some rule ↔ book.rule? id = some (.single rule) := by
  unfold single?
  split
  · next own ownEq => simp [ownEq]
  · next noSingle => simpa using noSingle rule

end Rulebook

namespace Pieces

theorem produce_of_le {pieces : Pieces} {stop : Nat} (covered : stop ≤ pieces.covered)
    (scopes : List Scope) : pieces.produce stop scopes = pieces := by
  rw [produce, if_pos covered]

/-- The only group of a whole match is its group zero. -/
theorem applyCaptures_whole {pieces : Pieces} {start stop : Nat}
    (coveredEq : pieces.covered = start) (proper : start < stop) (scopes : List Scope)
    (captures : Captures) :
    (pieces.applyCaptures scopes captures [some (start, stop)]).produce stop scopes =
      pieces.produce stop (scopes ++ (captures.get? 0).getD []) := by
  unfold applyCaptures
  split
  case isTrue noCaptures =>
    have unnamed : captures.get? 0 = none := by
      simp [Captures.get?, List.isEmpty_iff.mp noCaptures]
    rw [unnamed, Option.getD_none, List.append_nil]
  case isFalse =>
    cases ownEq : captures.get? 0 with
    | none => simp [layGroups, ownEq, closeAll]
    | some own =>
        have coveredStop : stop ≤ (pieces.produce stop (scopes ++ own)).covered := by
          rw [covered_produce]
          exact Nat.le_max_right _ _
        simp [layGroups, ownEq, Nat.not_le_of_lt proper, closeAll, closeUpTo, innermost,
          produce_of_le coveredEq.ge, produce_of_le coveredStop]

/-- A whole match is laid down as one piece, which has the scopes of its group zero too. -/
theorem layMatch_whole {pieces : Pieces} {start : Nat} {text : List Char}
    (coveredLe : pieces.covered ≤ start) (proper : 0 < Text.byteLength text)
    (before scopes : List Scope) (captures : Captures) (index : Nat) :
    pieces.layMatch before scopes captures (wholeMatch index start text) =
      (pieces.produce start before).produce (start + Text.byteLength text)
        (scopes ++ (captures.get? 0).getD []) := by
  have coveredEq : (pieces.produce start before).covered = start := by
    rw [covered_produce, Nat.max_eq_right coveredLe]
  exact applyCaptures_whole coveredEq (Nat.lt_add_of_pos_right proper) scopes captures

end Pieces

namespace Grammar

variable {grammar : Grammar} {table : PlanTable} {silent : Plan → Bool}

theorem startPattern?_of_startPlan? (right : table.Right) {id : RuleId} {plan : Plan}
    (planEq : grammar.startPlan? table id = some plan) :
    grammar.startPattern? id = some (.ofPlan plan false) := by
  obtain ⟨text, textEq, planEq⟩ := Option.bind_eq_some_iff.mp planEq
  rw [startPattern?, textEq, Option.bind_some, right.compile? planEq]

theorem startsFirst_of_check (right : table.Right) {context id : RuleId}
    {text after : List Char}
    (checked : grammar.startsFirst table silent context text id = true)
    (sound : ∀ plan, silent plan = true → plan.Silent (text ++ after)) :
    grammar.StartsFirst context text after id := by
  obtain ⟨first, only⟩ := (Bool.and_eq_true _ _).mp checked
  obtain ⟨-, earlier, later, candidatesEq, allSilent⟩ :=
    List.find?_eq_some_iff_append.mp (beq_iff_eq.mp first)
  obtain ⟨plan, planEq, matching⟩ := (Option.any_eq_true _ _).mp only
  refine ⟨earlier, later, candidatesEq,
    ⟨plan, startPattern?_of_startPlan? right planEq, matching⟩, fun other member => ?_⟩
  have isSilent : (grammar.startPlan? table other).any silent = true := by
    simpa using allSilent other member
  obtain ⟨own, ownEq, ownSilent⟩ := (Option.any_eq_true _ _).mp isSilent
  exact ⟨own, startPattern?_of_startPlan? right ownEq, sound own ownSilent⟩

variable {structural : Scope → Bool} {line : List Char} {scan : Scan} {id : RuleId}
  {found : Match}

namespace Swept

theorem step_pass (classifying : Classifying structural grammar)
    (swept : Swept structural grammar line scan) {rule : SingleRule}
    (upcoming : grammar.upcomingIn? line scan = some (.start id found))
    (ruleEq : grammar.rule? id = some (.single rule)) :
    grammar.step line scan = .more (grammar.passedScan scan rule found) := by
  have advances := (swept.single_passed classifying upcoming ruleEq).advances
  rw [upcomingIn?] at upcoming
  simp only [step, upcoming, ruleEq, takeSingle, if_neg (Nat.not_le_of_lt advances)]

theorem step_open (classifying : Classifying structural grammar)
    (swept : Swept structural grammar line scan) {rule : SpanRule}
    (upcoming : grammar.upcomingIn? line scan = some (.start id found))
    (ruleEq : grammar.rule? id = some (.span rule)) :
    grammar.step line scan = .more (grammar.openedScan line scan id rule found) := by
  have advances := (swept.opening_passed classifying upcoming ruleEq).advances
  rw [upcomingIn?] at upcoming
  simp only [step, upcoming, ruleEq, takeOpen, Nat.not_le_of_lt advances, false_and, if_false]

theorem step_close (classifying : Classifying structural grammar)
    (swept : Swept structural grammar line scan) {top : OpenFrame} {outer : List OpenFrame}
    (upcoming : grammar.upcomingIn? line scan = some (.close found))
    (stackEq : scan.stack = top :: outer) :
    grammar.step line scan = .more (grammar.closedScan scan top outer found) := by
  obtain ⟨proper, _, _, -, -, passed⟩ := swept.closing_passed classifying upcoming
  have advances := passed.advances
  rw [upcomingIn?] at upcoming
  simp only [step, upcoming]
  simp only [takeClose, stackEq, proper.ne, Nat.not_le_of_lt advances, false_and, if_false]

/-- At the end of a line nothing comes. -/
theorem step_end (classifying : Classifying structural grammar)
    (swept : Swept structural grammar line scan)
    (atEnd : Text.byteLength line ≤ scan.position) :
    grammar.step line scan = grammar.giveUp line scan.stack scan.pieces := by
  have impossible : ∀ {stop pieces}, ¬ Passed structural line scan stop pieces := by
    intro stop pieces passed
    have advances := passed.advances
    have inside := passed.boundary.le_length
    omega
  have absent : grammar.upcomingIn? line scan = none := by
    cases upcoming : grammar.upcomingIn? line scan with
    | none => rfl
    | some next =>
        cases next with
        | close found =>
            obtain ⟨-, _, _, -, -, passed⟩ := swept.closing_passed classifying upcoming
            exact absurd passed impossible
        | start id found =>
            obtain ⟨mayStart, -⟩ := swept.start_gap classifying upcoming
            obtain ⟨rule, text, ruleEq, textEq⟩ :=
              Rulebook.canStart_of_mem_candidates (List.mem_of_getElem? mayStart.1)
            cases rule with
            | single => exact absurd (swept.single_passed classifying upcoming ruleEq) impossible
            | span => exact absurd (swept.opening_passed classifying upcoming ruleEq) impossible
            | reference | group => cases textEq
  rw [upcomingIn?] at absent
  simp only [step, absent]

/-- A step that goes on passes some text, which is then classified. -/
theorem goes_on {next : Scan} (classifying : Classifying structural grammar)
    (swept : Swept structural grammar line scan)
    (stepEq : grammar.step line scan = .more next) :
    Swept structural grammar line next ∧ scan.position < next.position := by
  have kept := step_sweeps classifying swept
  rwa [stepEq] at kept

end Swept

end Grammar

end Scopelight
