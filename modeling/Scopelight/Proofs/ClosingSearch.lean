import Scopelight.Line.Candidate
import Scopelight.Proofs.ScannerPriority

/-!
# The search for the end of a span

A rule may forbid that its span ends with an empty match right where its interior starts.
The search passes over such a match and goes on at the next position.  Nothing else is
lost: there is one position at which a match can be forbidden, and no position lies between
it and the next one.
-/

namespace Scopelight

namespace Pattern

/-- The text after a position is what is left of the line from its offset on. -/
theorem Cursor.dropBytes_of_mem_onward {before : Option Char} {offset : Nat}
    {rest : List Char} {position : Cursor}
    (member : position ∈ Cursor.onward before offset rest) :
    Text.dropBytes (position.offset - offset) rest = position.rest := by
  induction rest generalizing before offset with
  | nil =>
      rw [List.mem_singleton.mp member]
      simp [Text.dropBytes]
  | cons c rest ih =>
      rcases List.mem_cons.mp member with rfl | later
      · simp [Text.dropBytes]
      · have := c.utf8Size_pos
        have := Cursor.le_offset_of_mem_onward later
        rw [← ih later, Text.dropBytes, if_neg (by omega), Nat.sub_add_eq]

/-- Between a position and the one after its character there is no other. -/
theorem Cursor.next_le_of_mem_onward {before : Option Char} {offset : Nat}
    {rest : List Char} {position later : Cursor} {c : Char} {after : List Char}
    (member : position ∈ Cursor.onward before offset rest)
    (laterMember : later ∈ Cursor.onward before offset rest)
    (restEq : position.rest = c :: after) (further : position.offset < later.offset) :
    position.offset + c.utf8Size ≤ later.offset := by
  induction rest generalizing before offset with
  | nil =>
      rw [List.mem_singleton.mp member] at restEq
      cases restEq
  | cons first rest ih =>
      rcases List.mem_cons.mp member with rfl | behind
      · rcases List.mem_cons.mp laterMember with rfl | laterBehind
        · exact absurd further (Nat.lt_irrefl _)
        · obtain ⟨rfl, -⟩ := List.cons.inj restEq
          exact Cursor.le_offset_of_mem_onward laterBehind
      · rcases List.mem_cons.mp laterMember with rfl | laterBehind
        · have := Cursor.le_offset_of_mem_onward behind
          simp only at further
          omega
        · exact ih behind laterBehind

theorem scanner_singleton (pattern : Compiled) (line : List Char) (start : Nat)
    (anchor : Option Nat) :
    ((scanner [pattern]).find line start anchor = none ∧
        ∀ accepted, ¬ pattern.Admits line start anchor accepted) ∨
      ∃ accepted, (scanner [pattern]).find line start anchor = some (pattern.report 0 accepted) ∧
        pattern.Admits line start anchor accepted ∧
        ∀ other, pattern.Admits line start anchor other → accepted.start ≤ other.start := by
  have wins := scanner_wins [pattern] line start anchor
  have reports : ∀ accepted, pattern.Admits line start anchor accepted →
      Reports line start anchor [pattern] (pattern.report 0 accepted) :=
    fun accepted admits => ⟨pattern, accepted, rfl, admits, rfl⟩
  cases foundEq : (scanner [pattern]).find line start anchor with
  | none =>
      refine .inl ⟨rfl, fun accepted admits => ?_⟩
      have beyond := wins.absent foundEq _ (reports accepted admits)
      have := (reports accepted admits).start_le_length
      omega
  | some found =>
      rw [foundEq] at wins
      obtain ⟨own, accepted, ownEq, admits, matchEq⟩ := wins.reports found rfl
      have indexLt := (wins.reports found rfl).index_lt
      have indexEq : found.index = 0 := by simpa using indexLt
      rw [indexEq] at ownEq matchEq
      obtain rfl := Option.some.inj ownEq
      refine .inr ⟨accepted, congrArg some matchEq, admits, fun other otherAdmits => ?_⟩
      have startEq : found.start = accepted.start := matchEq ▸ rfl
      rcases wins.precedes found rfl _ (reports other otherAdmits) with lt | ⟨eq, -⟩
      · exact startEq ▸ Nat.le_of_lt lt
      · exact startEq ▸ Nat.le_of_eq eq

theorem Compiled.Admits.exists_position {pattern : Compiled} {line : List Char} {start : Nat}
    {anchor : Option Nat} {accepted : Acceptance}
    (admits : pattern.Admits line start anchor accepted) :
    ∃ position ∈ positions line, position.offset = accepted.start := by
  obtain ⟨position, member, -, -, found⟩ := admits
  exact ⟨position, member, (matchAt?_noted found).startEq.symm⟩

/-- A pattern that needs the anchor admits matches only there, where the search starts. -/
theorem Compiled.Admits.at_anchor {pattern : Compiled} {line : List Char} {start : Nat}
    {anchor : Option Nat} {accepted : Acceptance}
    (admits : pattern.Admits line start anchor accepted) (anchored : pattern.anchored = true) :
    anchor = some start ∧ accepted.start = start := by
  obtain ⟨position, -, -, needs, found⟩ := admits
  exact ⟨(needs anchored).1, (matchAt?_noted found).startEq.trans (needs anchored).2⟩

/-- A pattern that needs the anchor is tried at the start of a line where the anchor is. -/
theorem exists_admits_of_anchored {text : String} {line : List Char}
    (evaluated : ((compile? text).any fun pattern =>
      pattern.anchored && (matchAt? pattern.code ⟨none, 0, line⟩).isSome) = true) :
    ∃ pattern accepted, compile? text = some pattern ∧ pattern.anchored = true ∧
      pattern.Admits line 0 (some 0) accepted ∧ accepted.start = 0 := by
  simp only [Option.any_eq_true, Bool.and_eq_true, Option.isSome_iff_exists] at evaluated
  obtain ⟨pattern, compiled, anchored, accepted, matchesHere⟩ := evaluated
  have member : ⟨none, 0, line⟩ ∈ positions line := by cases line <;> exact List.mem_cons_self
  have admits : pattern.Admits line 0 (some 0) accepted :=
    ⟨_, member, Nat.le_refl 0, fun _ => ⟨rfl, rfl⟩, matchesHere⟩
  exact ⟨pattern, accepted, compiled, anchored, admits, (admits.at_anchor anchored).2⟩

/-- A pattern that needs no anchor admits the same matches from different starts of a
search, as far as they lie after both. -/
theorem Compiled.Admits.restart {pattern : Compiled} {line : List Char} {start other : Nat}
    {anchor : Option Nat} {accepted : Acceptance} (free : pattern.anchored = false)
    (admits : pattern.Admits line start anchor accepted) (reached : other ≤ accepted.start) :
    pattern.Admits line other anchor accepted := by
  obtain ⟨position, member, -, -, found⟩ := admits
  refine ⟨position, member, ?_, fun anchored => ?_, found⟩
  · exact (matchAt?_noted found).startEq ▸ reached
  · exact absurd anchored (by simp [free])

end Pattern

namespace Grammar

open Pattern

theorem nextBoundary?_spec {line : List Char} {position : Cursor}
    (member : position ∈ positions line) :
    (nextBoundary? line position.offset = none ∧
        ∀ other ∈ positions line, other.offset ≤ position.offset) ∨
      ∃ next, nextBoundary? line position.offset = some next ∧ position.offset < next ∧
        ∀ other ∈ positions line, position.offset < other.offset → next ≤ other.offset := by
  have dropped : Text.dropBytes position.offset line = position.rest :=
    Cursor.dropBytes_of_mem_onward member
  unfold nextBoundary?
  rw [dropped]
  cases restEq : position.rest with
  | nil =>
      refine .inl ⟨rfl, fun other otherMember => ?_⟩
      have here := Cursor.offset_add_of_mem_onward member
      have there := Cursor.offset_add_of_mem_onward otherMember
      rw [restEq, Text.byteLength_nil] at here
      omega
  | cons c after =>
      have := c.utf8Size_pos
      refine .inr ⟨_, rfl, by omega, fun other otherMember further => ?_⟩
      exact Cursor.next_le_of_mem_onward member otherMember restEq further

/-- A match may end a span unless it is empty, lies where the interior starts, and the rule
allows no empty span. -/
def MayEnd (allowEmpty : Bool) (contentStart : Option Nat) (accepted : Acceptance) : Prop :=
  ¬ (allowEmpty = false ∧ accepted.start = accepted.stop ∧ contentStart = some accepted.start)

/-- What a search for the end of a span finds: the first admitted match that may end it. -/
inductive ClosingOutcome (pattern : Compiled) (allowEmpty : Bool) (contentStart : Option Nat)
    (line : List Char) (position : Nat) (anchor : Option Nat) : Option Match → Prop
  | absent (noneEnds : ∀ accepted, pattern.Admits line position anchor accepted →
        ¬ MayEnd allowEmpty contentStart accepted) :
      ClosingOutcome pattern allowEmpty contentStart line position anchor none
  | found {accepted : Acceptance} {origin : Nat} (reached : position ≤ origin)
      (alone : (scanner [pattern]).find line origin anchor = some (pattern.report 0 accepted))
      (admits : pattern.Admits line position anchor accepted)
      (ends : MayEnd allowEmpty contentStart accepted)
      (first : ∀ other, pattern.Admits line position anchor other →
        MayEnd allowEmpty contentStart other → accepted.start ≤ other.start) :
      ClosingOutcome pattern allowEmpty contentStart line position anchor
        (some (pattern.report 0 accepted))

variable {pattern : Compiled} {allowEmpty : Bool} {contentStart : Option Nat}
  {line : List Char} {position : Nat} {anchor : Option Nat}

/-- A search from beyond a match that may not end the span is the last one: what it finds
starts after the start of the interior. -/
theorem searchClose?_beyond {passed : Acceptance} {next : Nat} (fuel : Nat)
    (admits : pattern.Admits line position anchor passed)
    (forbidden : ¬ MayEnd allowEmpty contentStart passed) (further : passed.start < next)
    (later : ∀ other, pattern.Admits line position anchor other →
      MayEnd allowEmpty contentStart other → next ≤ other.start) :
    ClosingOutcome pattern allowEmpty contentStart line position anchor
      (searchClose? (scanner [pattern]) allowEmpty contentStart line anchor (fuel + 1)
        next) := by
  have reached : position ≤ passed.start := admits.noted.1
  unfold searchClose?
  rcases scanner_singleton pattern line next anchor with
    ⟨foundEq, noneAdmitted⟩ | ⟨accepted, foundEq, nextAdmits, nextFirst⟩
  · rw [foundEq]
    refine .absent fun other otherAdmits ends => ?_
    have otherLater := later other otherAdmits ends
    cases anchored : pattern.anchored with
    | false => exact noneAdmitted other (otherAdmits.restart anchored otherLater)
    | true =>
        have := (otherAdmits.at_anchor anchored).2
        omega
  · -- A pattern that needs the anchor finds nothing from two different positions.
    have free : pattern.anchored = false := by
      by_contra anchored
      rw [Bool.not_eq_false] at anchored
      have here := (admits.at_anchor anchored).1
      rw [(nextAdmits.at_anchor anchored).1] at here
      have := Option.some.inj here
      omega
    have beyond := nextAdmits.noted.1
    have notAtStart : contentStart ≠ some accepted.start := by
      obtain ⟨-, -, atStart⟩ := not_not.mp forbidden
      rw [atStart]
      intro same
      have := Option.some.inj same
      omega
    rw [foundEq]
    simp only
    rw [if_neg (by simp [Compiled.report, Ne.symm notAtStart])]
    refine .found (by omega) foundEq (nextAdmits.restart free (by omega))
      (fun forbids => notAtStart forbids.2.2) fun other otherAdmits ends => ?_
    exact nextFirst other (otherAdmits.restart free (later other otherAdmits ends))

/-- After a match that may not end the span, the search from the next position finds the
same as a search that leaves out this match. -/
theorem searchClose?_passed {passed : Acceptance} (fuel : Nat)
    (admits : pattern.Admits line position anchor passed)
    (first : ∀ other, pattern.Admits line position anchor other →
      passed.start ≤ other.start)
    (forbidden : ¬ MayEnd allowEmpty contentStart passed) :
    ClosingOutcome pattern allowEmpty contentStart line position anchor
      (match nextBoundary? line passed.start with
      | none => none
      | some next =>
          searchClose? (scanner [pattern]) allowEmpty contentStart line anchor (fuel + 1)
            next) := by
  have passedOnly : ∀ other, pattern.Admits line position anchor other →
      other.start ≤ passed.start → ¬ MayEnd allowEmpty contentStart other := by
    intro other otherAdmits before
    rw [otherAdmits.unique admits (Nat.le_antisymm before (first other otherAdmits))]
    exact forbidden
  obtain ⟨here, member, hereEq⟩ := admits.exists_position
  have boundary := nextBoundary?_spec member
  rw [hereEq] at boundary
  rcases boundary with ⟨nextEq, isLast⟩ | ⟨next, nextEq, further, between⟩
  · rw [nextEq]
    refine .absent fun other otherAdmits => passedOnly other otherAdmits ?_
    obtain ⟨there, thereMember, thereEq⟩ := otherAdmits.exists_position
    exact thereEq ▸ isLast there thereMember
  · rw [nextEq]
    refine searchClose?_beyond fuel admits forbidden further fun other otherAdmits ends => ?_
    obtain ⟨there, thereMember, thereEq⟩ := otherAdmits.exists_position
    have beyond : passed.start < other.start :=
      Nat.lt_of_not_le fun before => passedOnly other otherAdmits before ends
    exact thereEq ▸ between there thereMember (thereEq ▸ beyond)

/-- With two searches the first admitted match that may end the span is found. -/
theorem searchClose?_outcome (pattern : Compiled) (allowEmpty : Bool)
    (contentStart : Option Nat) (line : List Char) (position : Nat) (anchor : Option Nat)
    (fuel : Nat) :
    ClosingOutcome pattern allowEmpty contentStart line position anchor
      (searchClose? (scanner [pattern]) allowEmpty contentStart line anchor (fuel + 2)
        position) := by
  unfold searchClose?
  rcases scanner_singleton pattern line position anchor with
    ⟨foundEq, noneAdmitted⟩ | ⟨accepted, foundEq, admits, first⟩
  · rw [foundEq]
    exact .absent fun accepted admits => absurd admits (noneAdmitted accepted)
  · rw [foundEq]
    simp only
    split
    case isFalse allowed =>
      refine .found (Nat.le_refl _) foundEq admits ?_ fun other otherAdmits _ =>
        first other otherAdmits
      rintro ⟨forbids, empty, atStart⟩
      exact allowed (by simp [forbids, empty, atStart, Compiled.report])
    case isTrue skipped =>
      refine searchClose?_passed fuel admits first fun mayEnd => mayEnd ?_
      simp only [Bool.and_eq_true, Bool.not_eq_true', beq_iff_eq] at skipped
      exact ⟨skipped.1.1, skipped.1.2, skipped.2.symm⟩

end Grammar

end Scopelight
