import Scopelight.Pattern.Scanner
import Scopelight.Proofs.MatchBounds

/-!
# Priority in a scanner

A pattern admits a match at a position if its program finds one that starts there and, for
a pattern that needs the anchor, the search stands at the anchor and the match begins there.
A scanner reports an admitted match with the least start, and of the patterns that match
there the first in the list.
-/

namespace Scopelight

namespace Pattern

def positions (line : List Char) : List Cursor :=
  Cursor.onward none 0 line

/-- A match that a pattern alone has at or after the start of a search: at some position of
the line it is the match that the pattern prefers there. -/
def Compiled.Admits (pattern : Compiled) (line : List Char) (start : Nat)
    (anchor : Option Nat) (accepted : Acceptance) : Prop :=
  ∃ position ∈ positions line, start ≤ position.offset ∧
    (pattern.anchored = true → anchor = some start ∧ position.offset = start) ∧
    matchAt? pattern.code position = some accepted

theorem Cursor.pairwise_onward (before : Option Char) (offset : Nat) (rest : List Char) :
    (Cursor.onward before offset rest).Pairwise fun left right =>
      left.offset < right.offset := by
  induction rest generalizing before offset with
  | nil => exact List.pairwise_singleton _ _
  | cons c rest ih =>
      refine List.Pairwise.cons (fun later member => ?_) (ih _ _)
      have := Cursor.le_offset_of_mem_onward member
      have := c.utf8Size_pos
      simp only
      omega

theorem Cursor.eq_of_mem_onward {before : Option Char} {offset : Nat} {rest : List Char}
    {left right : Cursor} (leftMember : left ∈ Cursor.onward before offset rest)
    (rightMember : right ∈ Cursor.onward before offset rest)
    (offsetEq : left.offset = right.offset) : left = right := by
  induction rest generalizing before offset with
  | nil => rw [List.mem_singleton.mp leftMember, List.mem_singleton.mp rightMember]
  | cons c rest ih =>
      have := c.utf8Size_pos
      rcases List.mem_cons.mp leftMember with rfl | leftLater
      · rcases List.mem_cons.mp rightMember with rfl | rightLater
        · rfl
        · have := Cursor.le_offset_of_mem_onward rightLater
          simp only at offsetEq
          omega
      · rcases List.mem_cons.mp rightMember with rfl | rightLater
        · have := Cursor.le_offset_of_mem_onward leftLater
          simp only at offsetEq
          omega
        · exact ih leftLater rightLater

/-- A position splits the bytes of a line. -/
theorem Cursor.offset_add_of_mem_onward {before : Option Char} {offset : Nat}
    {rest : List Char} {position : Cursor}
    (member : position ∈ Cursor.onward before offset rest) :
    position.offset + Text.byteLength position.rest = offset + Text.byteLength rest := by
  induction rest generalizing before offset with
  | nil => rw [List.mem_singleton.mp member]
  | cons c rest ih =>
      rcases List.mem_cons.mp member with rfl | later
      · rfl
      · rw [ih later, Text.byteLength_cons, Nat.add_assoc]

def Cursor.onwardFrom : Option Cursor → List Cursor
  | none => []
  | some cursor => Cursor.onward cursor.before cursor.offset cursor.rest

theorem Cursor.filter_onward_of_ge {before : Option Char} {offset start : Nat}
    (reached : start ≤ offset) (rest : List Char) :
    (Cursor.onward before offset rest).filter (fun position => start ≤ position.offset) =
      Cursor.onward before offset rest := by
  refine List.filter_eq_self.mpr fun position member => ?_
  rw [decide_eq_true_eq]
  exact reached.trans (Cursor.le_offset_of_mem_onward member)

theorem onwardFrom_cursorFrom? (start : Nat) (before : Char) (offset : Nat)
    (rest : List Char) :
    Cursor.onwardFrom (cursorFrom? start before offset rest) =
      (Cursor.onward (some before) offset rest).filter fun position =>
        start ≤ position.offset := by
  induction rest generalizing before offset with
  | nil =>
      by_cases reached : start ≤ offset
      · rw [Cursor.filter_onward_of_ge reached]
        simp [cursorFrom?, Nat.not_lt.mpr reached, Cursor.onwardFrom]
      · simp [cursorFrom?, Nat.lt_of_not_le reached, Cursor.onwardFrom, Cursor.onward, reached]
  | cons c rest ih =>
      by_cases reached : start ≤ offset
      · rw [Cursor.filter_onward_of_ge reached]
        simp [cursorFrom?, Nat.not_lt.mpr reached, Cursor.onwardFrom]
      · simp [cursorFrom?, Nat.lt_of_not_le reached, Cursor.onward, reached, ih]

/-- The first position of a search is followed by all positions of the search. -/
theorem onwardFrom_cursorAt? (start : Nat) (line : List Char) :
    Cursor.onwardFrom (cursorAt? start line) =
      (positions line).filter fun position => start ≤ position.offset := by
  unfold cursorAt? positions
  split
  case isTrue atStart =>
    rw [Cursor.filter_onward_of_ge (atStart ▸ Nat.le_refl 0)]
    rfl
  case isFalse later =>
    cases line with
    | nil => simp [Cursor.onward, Cursor.onwardFrom, later]
    | cons c rest =>
        simp [Cursor.onward, later, onwardFrom_cursorFrom?]

theorem Compiled.find?_eq_findSome? (pattern : Compiled) (limit : Nat) (line : List Char)
    (start : Nat) :
    pattern.find? limit line start =
      ((positions line).filter fun position =>
        start ≤ position.offset ∧ position.offset < limit).findSome?
          (matchAt? pattern.code) := by
  have both : (positions line).filter (fun position =>
      start ≤ position.offset ∧ position.offset < limit) =
      (Cursor.onwardFrom (cursorAt? start line)).filter fun position =>
        position.offset < limit := by
    rw [onwardFrom_cursorAt?, List.filter_filter]
    congr 1
    funext position
    simp [Bool.and_comm]
  rw [both, Compiled.find?]
  cases cursorAt? start line with
  | none => rfl
  | some cursor => exact search?_eq_findSome? pattern.code limit cursor

namespace Compiled

variable {pattern : Compiled} {line : List Char} {start : Nat} {anchor : Option Nat}

theorem Admits.noted {accepted : Acceptance}
    (admits : pattern.Admits line start anchor accepted) :
    start ≤ accepted.start ∧ accepted.Noted accepted.start (Text.byteLength line) := by
  obtain ⟨position, member, reached, -, found⟩ := admits
  have noted := matchAt?_noted found
  rw [Cursor.offset_add_of_mem_onward member, Nat.zero_add] at noted
  rw [noted.startEq]
  exact ⟨reached, noted⟩

/-- Of the admitted matches of a pattern, only one starts at an offset. -/
theorem Admits.unique {accepted other : Acceptance}
    (admits : pattern.Admits line start anchor accepted)
    (otherAdmits : pattern.Admits line start anchor other)
    (sameStart : accepted.start = other.start) : accepted = other := by
  obtain ⟨position, member, -, -, found⟩ := admits
  obtain ⟨position', member', -, -, found'⟩ := otherAdmits
  have offsetEq : position.offset = position'.offset := by
    rw [← (matchAt?_noted found).startEq, ← (matchAt?_noted found').startEq, sameStart]
  obtain rfl := Cursor.eq_of_mem_onward member member' offsetEq
  exact Option.some.inj (found.symm.trans found')

theorem find?_first {limit : Nat} {accepted : Acceptance}
    (found : pattern.find? limit line start = some accepted) :
    ∃ position ∈ positions line, start ≤ position.offset ∧ position.offset < limit ∧
      matchAt? pattern.code position = some accepted ∧
      ∀ earlier ∈ positions line, start ≤ earlier.offset →
        earlier.offset < position.offset → matchAt? pattern.code earlier = none := by
  rw [find?_eq_findSome?] at found
  obtain ⟨passed, position, later, splitEq, here, passedNone⟩ :=
    List.findSome?_eq_some_iff.mp found
  have sorted := (Cursor.pairwise_onward none 0 line).filter fun position =>
    start ≤ position.offset ∧ position.offset < limit
  have member : position ∈ (positions line).filter fun position =>
      start ≤ position.offset ∧ position.offset < limit := by
    rw [splitEq]
    simp
  obtain ⟨inLine, inRange⟩ := List.mem_filter.mp member
  rw [decide_eq_true_eq] at inRange
  refine ⟨position, inLine, inRange.1, inRange.2, here, ?_⟩
  intro earlier earlierIn reached before
  have earlierMember : earlier ∈ (positions line).filter fun position =>
      start ≤ position.offset ∧ position.offset < limit :=
    List.mem_filter.mpr ⟨earlierIn, decide_eq_true ⟨reached, before.trans inRange.2⟩⟩
  rw [positions] at splitEq
  rw [splitEq] at sorted
  rw [positions, splitEq] at earlierMember
  rcases List.mem_append.mp earlierMember with inPassed | inLater
  · exact passedNone earlier inPassed
  · have apart := (List.pairwise_append.mp sorted).2.1
    rcases List.mem_cons.mp inLater with rfl | behind
    · exact absurd before (Nat.lt_irrefl _)
    · have := List.rel_of_pairwise_cons apart behind
      omega

theorem find?_none {limit : Nat} (absent : pattern.find? limit line start = none) :
    ∀ position ∈ positions line, start ≤ position.offset → position.offset < limit →
      matchAt? pattern.code position = none := by
  rw [find?_eq_findSome?] at absent
  intro position member reached below
  exact List.findSome?_eq_none_iff.mp absent position
    (List.mem_filter.mpr ⟨member, decide_eq_true ⟨reached, below⟩⟩)

theorem matchFor?_first {limit : Nat} {accepted : Acceptance}
    (found : pattern.matchFor? limit line start anchor = some accepted) :
    pattern.Admits line start anchor accepted ∧ accepted.start < limit ∧
      ∀ other, pattern.Admits line start anchor other → accepted.start ≤ other.start := by
  unfold matchFor? at found
  split at found
  case isTrue needsAnchor =>
    split at found
    case isFalse => cases found
    case isTrue atAnchor =>
      obtain ⟨found, begins⟩ := Option.filter_eq_some_iff.mp found
      rw [decide_eq_true_eq] at begins
      obtain ⟨position, member, reached, below, here, -⟩ := find?_first found
      have offsetEq : position.offset = start :=
        (matchAt?_noted here).startEq.symm.trans begins
      refine ⟨⟨position, member, reached, fun _ => ⟨atAnchor, offsetEq⟩, here⟩,
        (matchAt?_noted here).startEq ▸ below, ?_⟩
      intro other otherAdmits
      rw [begins]
      exact otherAdmits.noted.1
  case isFalse free =>
    obtain ⟨position, member, reached, below, here, first⟩ := find?_first found
    refine ⟨⟨position, member, reached, fun anchored => absurd anchored free, here⟩,
      (matchAt?_noted here).startEq ▸ below, ?_⟩
    rintro other ⟨position', member', reached', -, there⟩
    rw [(matchAt?_noted here).startEq, (matchAt?_noted there).startEq]
    by_contra before
    have passed := first position' member' reached' (by omega)
    exact absurd there (by simp [passed])

theorem matchFor?_none {limit : Nat}
    (absent : pattern.matchFor? limit line start anchor = none) :
    ∀ other, pattern.Admits line start anchor other → limit ≤ other.start := by
  rintro other ⟨position, member, reached, anchorOk, there⟩
  rw [(matchAt?_noted there).startEq]
  by_contra below
  unfold matchFor? at absent
  split at absent
  case isTrue needsAnchor =>
    obtain ⟨atAnchor, offsetEq⟩ := anchorOk needsAnchor
    rw [if_pos atAnchor] at absent
    cases found : pattern.find? limit line start with
    | none => exact absurd there (by simp [find?_none found position member reached (by omega)])
    | some accepted =>
        obtain ⟨position', member', reached', -, here, first⟩ := find?_first found
        have beginsLater : accepted.start ≠ start := by simpa [found] using absent
        rw [(matchAt?_noted here).startEq] at beginsLater
        have passed := first position member reached (by omega)
        exact absurd there (by simp [passed])
  case isFalse =>
    exact absurd there (by simp [find?_none absent position member reached (by omega)])

end Compiled

/-- What a scanner reports of a match of a pattern with a place in its list. -/
def Compiled.report (pattern : Compiled) (index : Nat) (accepted : Acceptance) : Match :=
  ⟨index, accepted.start, accepted.stop, accepted.captures pattern.groups⟩

/-- A match that some patterns admit, with the place of its pattern among them. -/
def Reports (line : List Char) (start : Nat) (anchor : Option Nat)
    (patterns : List Compiled) (found : Match) : Prop :=
  ∃ pattern accepted, patterns[found.index]? = some pattern ∧
    pattern.Admits line start anchor accepted ∧ found = pattern.report found.index accepted

/-- A match comes before others that start later, and before those of later patterns that
start where it starts. -/
def Precedes (found other : Match) : Prop :=
  found.start < other.start ∨ (found.start = other.start ∧ found.index ≤ other.index)

theorem Precedes.start_le {found other : Match} (precedes : Precedes found other) :
    found.start ≤ other.start := by
  rcases precedes with lt | ⟨eq, -⟩
  · exact Nat.le_of_lt lt
  · exact Nat.le_of_eq eq

/-- The outcome of a search below a limit with some patterns: the first of the matches that
they admit, or nothing if none starts below the limit. -/
structure Wins (limit : Nat) (line : List Char) (start : Nat) (anchor : Option Nat)
    (patterns : List Compiled) (best : Option Match) : Prop where
  reports : ∀ found ∈ best, Reports line start anchor patterns found
  below : ∀ found ∈ best, found.start < limit
  precedes : ∀ found ∈ best, ∀ other, Reports line start anchor patterns other →
    Precedes found other
  absent : best = none → ∀ other, Reports line start anchor patterns other →
    limit ≤ other.start

section

variable {limit : Nat} {line : List Char} {start : Nat} {anchor : Option Nat}
  {searched : List Compiled} {best : Option Match} {pattern : Compiled}

theorem reports_concat {found : Match}
    (reports : Reports line start anchor (searched ++ [pattern]) found) :
    Reports line start anchor searched found ∨
      ∃ accepted, pattern.Admits line start anchor accepted ∧
        found = pattern.report searched.length accepted := by
  obtain ⟨own, accepted, ownEq, admits, foundEq⟩ := reports
  rcases Nat.lt_trichotomy found.index searched.length with before | here | beyond
  · rw [List.getElem?_append_left before] at ownEq
    exact .inl ⟨own, accepted, ownEq, admits, foundEq⟩
  · rw [here, List.getElem?_concat_length] at ownEq
    obtain rfl := Option.some.inj ownEq
    exact .inr ⟨accepted, admits, here ▸ foundEq⟩
  · have := (List.getElem?_eq_some_iff.mp ownEq).1
    rw [List.length_append, List.length_singleton] at this
    omega

theorem Reports.append {found : Match} (reports : Reports line start anchor searched found)
    (later : List Compiled) : Reports line start anchor (searched ++ later) found := by
  obtain ⟨own, accepted, ownEq, admits, foundEq⟩ := reports
  refine ⟨own, accepted, ?_, admits, foundEq⟩
  rw [List.getElem?_append_left (List.getElem?_eq_some_iff.mp ownEq).1, ownEq]

theorem Reports.index_lt {found : Match}
    (reports : Reports line start anchor searched found) : found.index < searched.length := by
  obtain ⟨_, _, ownEq, -, -⟩ := reports
  exact (List.getElem?_eq_some_iff.mp ownEq).1

theorem Reports.start_le {found : Match}
    (reports : Reports line start anchor searched found) : start ≤ found.start := by
  obtain ⟨_, accepted, -, admits, foundEq⟩ := reports
  rw [foundEq]
  exact admits.noted.1

theorem Wins.pass (wins : Wins limit line start anchor searched best)
    (later : ∀ accepted, pattern.Admits line start anchor accepted →
      (∀ found ∈ best, found.start ≤ accepted.start) ∧ (best = none → limit ≤ accepted.start)) :
    Wins limit line start anchor (searched ++ [pattern]) best where
  reports := fun found member => (wins.reports found member).append _
  below := wins.below
  precedes := by
    intro found member other reports
    rcases reports_concat reports with before | ⟨accepted, admits, rfl⟩
    · exact wins.precedes found member other before
    · have indexLt := (wins.reports found member).index_lt
      rcases Nat.lt_or_eq_of_le ((later accepted admits).1 found member) with lt | eq
      · exact .inl lt
      · exact .inr ⟨eq, Nat.le_of_lt indexLt⟩
  absent := by
    intro noneFound other reports
    rcases reports_concat reports with before | ⟨accepted, admits, rfl⟩
    · exact wins.absent noneFound other before
    · exact (later accepted admits).2 noneFound

/-- The first match of a pattern that starts before the best match is the new best match. -/
theorem Wins.improve (wins : Wins limit line start anchor searched best)
    {accepted : Acceptance} (admits : pattern.Admits line start anchor accepted)
    (below : accepted.start < limit)
    (first : ∀ other, pattern.Admits line start anchor other → accepted.start ≤ other.start)
    (better : ∀ found ∈ best, accepted.start < found.start) :
    Wins limit line start anchor (searched ++ [pattern])
      (some (pattern.report searched.length accepted)) where
  reports := by
    rintro found ⟨⟩
    exact ⟨pattern, accepted, List.getElem?_concat_length, admits, rfl⟩
  below := by
    rintro found ⟨⟩
    exact below
  precedes := by
    rintro found ⟨⟩ other reports
    rcases reports_concat reports with before | ⟨other, otherAdmits, rfl⟩
    · refine .inl ?_
      cases best with
      | none => exact below.trans_le (wins.absent rfl other before)
      | some old =>
          have startLt := better old rfl
          rcases wins.precedes old rfl other before with lt | ⟨eq, -⟩
          · exact startLt.trans lt
          · exact eq ▸ startLt
    · rcases Nat.lt_or_eq_of_le (first other otherAdmits) with lt | eq
      · exact .inl lt
      · exact .inr ⟨eq, Nat.le_refl _⟩
  absent := by
    rintro ⟨⟩

/-- Nothing comes before a match that starts where the search starts. -/
theorem Wins.stop {found : Match} (wins : Wins limit line start anchor searched (some found))
    (atStart : found.start = start) (later : List Compiled) :
    Wins limit line start anchor (searched ++ later) (some found) where
  reports := fun other member => (wins.reports other member).append _
  below := wins.below
  precedes := by
    rintro found ⟨⟩ other reports
    have reached := reports.start_le
    by_cases sameStart : found.start = other.start
    case neg => exact .inl (by omega)
    case pos =>
      rcases Nat.lt_or_ge other.index searched.length with before | behind
      · obtain ⟨own, accepted, ownEq, admits, foundEq⟩ := reports
        rw [List.getElem?_append_left before] at ownEq
        exact wins.precedes found rfl other ⟨own, accepted, ownEq, admits, foundEq⟩
      · have indexLt := (wins.reports found rfl).index_lt
        exact .inr ⟨sameStart, by omega⟩
  absent := by
    rintro ⟨⟩

theorem scan_wins (wins : Wins limit line start anchor searched best)
    (patterns : List Compiled) :
    Wins limit line start anchor (searched ++ patterns)
      (scan limit line start anchor searched.length patterns best) := by
  induction patterns generalizing searched best with
  | nil => simpa [scan] using wins
  | cons pattern patterns ih =>
      have goOn : ∀ {next}, Wins limit line start anchor (searched ++ [pattern]) next →
          Wins limit line start anchor (searched ++ pattern :: patterns)
            (scan limit line start anchor (searched.length + 1) patterns next) := by
        intro next nextWins
        simpa using ih nextWins
      unfold scan
      split
      case h_1 absent =>
        refine goOn (wins.pass fun accepted admits => ?_)
        have beyond := Compiled.matchFor?_none absent accepted admits
        exact ⟨fun found member => (Nat.le_of_lt (wins.below found member)).trans beyond,
          fun _ => beyond⟩
      case h_2 accepted found =>
        obtain ⟨admits, below, first⟩ := Compiled.matchFor?_first found
        split
        case isTrue better =>
          have improved := wins.improve admits below first fun old member => by
            simpa [Option.mem_def.mp member] using better
          split
          case isTrue atStart =>
            have stopped := improved.stop atStart patterns
            rwa [List.append_assoc] at stopped
          case isFalse => exact goOn improved
        case isFalse worse =>
          refine goOn (wins.pass fun other otherAdmits => ?_)
          cases best with
          | none => exact absurd rfl worse
          | some old =>
              have oldLe : old.start ≤ accepted.start := by simpa using worse
              refine ⟨?_, by rintro ⟨⟩⟩
              rintro found ⟨⟩
              exact oldLe.trans (first other otherAdmits)

theorem Wins.nil (limit : Nat) (line : List Char) (start : Nat) (anchor : Option Nat) :
    Wins limit line start anchor [] none where
  reports := by simp
  below := by simp
  precedes := by simp
  absent := by
    rintro - other ⟨_, _, ownEq, -, -⟩
    cases ownEq

theorem Reports.start_le_length {found : Match}
    (reports : Reports line start anchor searched found) :
    found.start ≤ Text.byteLength line := by
  obtain ⟨_, accepted, -, admits, foundEq⟩ := reports
  rw [foundEq]
  exact admits.noted.2.startLeStop.trans admits.noted.2.stopLe

end

/-- A scanner finds the first of the matches that its patterns admit, if there is any. -/
theorem scanner_wins (patterns : List Compiled) (line : List Char) (start : Nat)
    (anchor : Option Nat) :
    Wins (Text.byteLength line + 1) line start anchor patterns
      ((scanner patterns).find line start anchor) := by
  have close := scan_wins (.nil (start + near) line start anchor) patterns
  have whole := scan_wins (.nil (Text.byteLength line + 1) line start anchor) patterns
  simp only [List.nil_append, List.length_nil] at close whole
  unfold scanner
  simp only
  -- A match that starts near precedes also the matches that start beyond the limit of the
  -- first scan, because the order is said of all that the patterns admit.
  cases foundClose : scan (start + near) line start anchor 0 patterns none with
  | none => exact whole
  | some found =>
      rw [foundClose] at close
      exact {
        reports := close.reports
        below := fun other member =>
          Nat.lt_succ_of_le (close.reports other member).start_le_length
        precedes := close.precedes
        absent := by rintro ⟨⟩
      }

end Pattern

end Scopelight
