import Scopelight.Proofs.CacheColumns
import Scopelight.Proofs.MinimalUpdate

/-!
# Columns that belong together

The end states and the tokens of a cache stand in two columns that each operation changes in
its own way, and the first invalid line is a number beside them.  They agree after any
operations, which is what an update relies on: it begins with the first line without tokens,
and every line above has an end state to go on from.
-/

namespace Scopelight

/-- How the parts of a cache in two columns belong together. -/
structure CacheColumns.Consistent (columns : CacheColumns) : Prop where
  lengthEq : columns.endStates.length = columns.tokens.length
  endsKnown : ∀ (line : Nat) (tokens : List Token),
    columns.tokens[line]? = some (some tokens) →
      ∃ state, columns.endStates[line]? = some (some state)
  haveTokens : ∀ line < columns.invalidFrom,
    ∃ tokens, columns.tokens[line]? = some (some tokens)
  firstEmpty : columns.tokens[columns.invalidFrom]? = some none ∨
    columns.invalidFrom = columns.tokens.length

namespace TokenCache

variable {cache : TokenCache}

theorem getElem?_tokens_eq_some_iff {line : Nat} {tokens? : Option (List Token)} :
    cache.columns.tokens[line]? = some tokens? ↔
      ∃ stored, cache.lines[line]? = some stored ∧ stored.tokens = tokens? := by
  rw [columns, List.getElem?_map, Option.map_eq_some_iff]

theorem firstDirty_le (lines : List CachedLine) : firstDirty lines ≤ lines.length :=
  List.findIdx_le_length

theorem WellKept.invalidFrom_le (kept : cache.WellKept) :
    cache.invalidFrom ≤ cache.lineCount := by
  rw [kept.invalidFromEq]
  exact firstDirty_le cache.lines

/-- The first line without tokens has none. -/
theorem getElem?_firstDirty (dirty : firstDirty cache.lines < cache.lines.length) :
    cache.columns.tokens[firstDirty cache.lines]? = some none := by
  have missing := List.findIdx_getElem (w := dirty)
  rw [getElem?_tokens_eq_some_iff]
  exact ⟨_, List.getElem?_eq_getElem dirty, Option.isNone_iff_eq_none.mp missing⟩

theorem WellKept.consistent (kept : cache.WellKept) : cache.columns.Consistent where
  lengthEq := by simp [columns]
  endsKnown := by
    intro line tokens found
    obtain ⟨stored, storedEq, tokensEq⟩ := getElem?_tokens_eq_some_iff.mp found
    have hasTokens : stored.tokens.isSome := by rw [tokensEq, Option.isSome_some]
    obtain ⟨state, stateEq⟩ := Option.isSome_iff_exists.mp
      (kept.endsKnown stored (List.mem_of_getElem? storedEq) hasTokens)
    exact ⟨state, by simp [columns, storedEq, stateEq]⟩
  haveTokens := by
    intro line before
    have inside : line < cache.lines.length := Nat.lt_of_lt_of_le before kept.invalidFrom_le
    have found := List.getElem?_eq_getElem inside
    obtain ⟨tokens, tokensEq⟩ :=
      Option.isSome_iff_exists.mp (kept.cleanBefore line _ before found)
    exact ⟨tokens, getElem?_tokens_eq_some_iff.mpr ⟨_, found, tokensEq⟩⟩
  firstEmpty := by
    have invalidFromEq : cache.columns.invalidFrom = firstDirty cache.lines :=
      kept.invalidFromEq
    rw [invalidFromEq]
    rcases Nat.lt_or_eq_of_le (firstDirty_le cache.lines) with dirty | clean
    · exact .inl (getElem?_firstDirty dirty)
    · exact .inr (clean.trans (List.length_map _).symm)

/-- A cache is dirty exactly if a line has no tokens. -/
theorem WellKept.isDirty_iff (kept : cache.WellKept) :
    cache.isDirty = true ↔ none ∈ cache.columns.tokens := by
  rw [isDirty, decide_eq_true_iff, kept.invalidFromEq, lineCount, firstDirty,
    List.findIdx_lt_length]
  simp [columns]

/-- The state that a line starts from is known: it is the first line, or the end state of the
line above is stored. -/
inductive StartKnown (cache : TokenCache) : Nat → State → Prop
  | first : StartKnown cache 0 .initial
  | below {above : Nat} {state : State} (stored : cache.endState? above = some state) :
      StartKnown cache (above + 1) state

/-- Which lines an update of a fitted cache tokenizes: none if all have tokens, or else, to
begin with, the first invalid line, which has none and of which the start state is known. -/
inductive Begins (fitted : TokenCache) : List Nat → Prop
  | nothing (full : none ∉ fitted.columns.tokens) : Begins fitted []
  | line {later : List Nat} (missing : fitted.columns.tokens[fitted.invalidFrom]? = some none)
      (known : StartKnown fitted fitted.invalidFrom (fitted.startState fitted.invalidFrom)) :
      Begins fitted (fitted.invalidFrom :: later)

/-- Below lines with tokens the start state is known. -/
theorem startKnown_of_clean (clean : cache.CleanBefore) (endsKnown : EndsKnown cache.lines)
    {line : Nat} (before : line ≤ cache.invalidFrom) (inside : line ≤ cache.lineCount) :
    StartKnown cache line (cache.startState line) := by
  cases line with
  | zero => exact .first
  | succ above =>
      have found : cache.lines[above]? = some cache.lines[above] :=
        List.getElem?_eq_getElem inside
      have hasTokens := clean above _ before found
      obtain ⟨state, stateEq⟩ := Option.isSome_iff_exists.mp
        (endsKnown _ (List.mem_of_getElem? found) hasTokens)
      have stored : cache.endState? above = some state := by
        rw [endState?, found, Option.bind_some, stateEq]
      rw [startState, stored, Option.getD_some]
      exact .below stored

theorem WellKept.invalidFrom_fit (kept : cache.WellKept) (count : Nat) :
    (cache.fit count).invalidFrom = cache.invalidFrom := by
  have inside := kept.invalidFrom_le
  simp only [fit]
  split <;> omega

/-- The lines that are added have no tokens. -/
theorem WellKept.firstDirty_fit (kept : cache.WellKept) (count : Nat) :
    firstDirty (cache.fit count).lines =
      min (cache.fit count).lineCount (cache.fit count).invalidFrom := by
  have addedDirty (added : Nat) : firstDirty (List.replicate added CachedLine.empty) = 0 := by
    cases added <;> rfl
  rw [lineCount, length_fit, kept.invalidFrom_fit, kept.invalidFromEq, fit,
    firstDirty_append (addedDirty _), firstDirty_take]

theorem firstDirty_le_of_missing {lines : List CachedLine} {line : Nat} {stored : CachedLine}
    (found : lines[line]? = some stored) (missing : stored.tokens = none) :
    firstDirty lines ≤ line := by
  refine Nat.le_of_not_lt fun before => ?_
  have clean := List.not_of_lt_findIdx before
  rw [(List.getElem?_eq_some_iff.mp found).2, missing] at clean
  cases clean

/-- No line before the first one without tokens has to be tokenized. -/
theorem owes_from_firstDirty (fitted updated : TokenCache) :
    Owes fitted updated {line | firstDirty fitted.lines ≤ line} where
  missing _ _ found missing := firstDirty_le_of_missing found missing
  follows _ owed _ _ := Nat.le_succ_of_le owed

theorem Refreshes.begins {grammar : Grammar} {limit : Nat} {texts : List (List Char)}
    {fitted updated : TokenCache} {calls : List Nat}
    (refreshes : Refreshes grammar limit 0 .initial false fitted.lines texts updated.lines calls)
    (clean : fitted.CleanBefore) (endsKnown : EndsKnown fitted.lines)
    (firstEq : firstDirty fitted.lines = min fitted.lineCount fitted.invalidFrom) :
    Begins fitted calls := by
  obtain ⟨owes, least⟩ := refreshes.isLeast
  have calledOfMissing {line : Nat} (missing : fitted.columns.tokens[line]? = some none) :
      line ∈ calls := by
    obtain ⟨stored, found, noTokens⟩ := getElem?_tokens_eq_some_iff.mp missing
    exact owes.missing line stored found noTokens
  cases calls with
  | nil =>
      refine .nothing fun missing => ?_
      obtain ⟨line, found⟩ := List.mem_iff_getElem?.mp missing
      exact List.not_mem_nil (calledOfMissing found)
  | cons call later =>
      have firstLe : firstDirty fitted.lines ≤ call :=
        least (owes_from_firstDirty fitted updated) List.mem_cons_self
      have dirty : firstDirty fitted.lines < fitted.lineCount := by
        have inside := (refreshes.inside call List.mem_cons_self).2
        rw [lineCount]
        omega
      have missing := getElem?_firstDirty dirty
      have callLe : call ≤ firstDirty fitted.lines := by
        rcases List.mem_cons.mp (calledOfMissing missing) with same | behind
        · exact Nat.le_of_eq same.symm
        · exact Nat.le_of_lt (List.rel_of_pairwise_cons refreshes.increasing behind)
      obtain rfl : call = fitted.invalidFrom := by omega
      have startEq : firstDirty fitted.lines = fitted.invalidFrom := by omega
      rw [startEq] at missing dirty
      exact .line missing
        (startKnown_of_clean clean endsKnown (Nat.le_refl _) (Nat.le_of_lt dirty))

theorem WellKept.begins (kept : cache.WellKept) (grammar : Grammar) (texts : List (List Char)) :
    Begins (cache.fit texts.length) (cache.tokenizedLines grammar texts) := by
  have clean := kept.cleanBefore.fit texts.length
  have endsKnown : EndsKnown (cache.fit texts.length).lines :=
    (kept.endsKnown.take _).append (.replicate _)
  obtain ⟨refreshes, -⟩ := refreshes_updateWith grammar clean
  exact refreshes.begins clean endsKnown (kept.firstDirty_fit texts.length)

/-- Two columns that are kept by themselves are at any time those of the lines of a cache, and
they belong together: they have the same length, there is an end state wherever there are
tokens, and the first invalid line is the first one without tokens.  So a cache is dirty
exactly if a line has no tokens, and an update begins with the first such line, of which the
start state is known. -/
theorem columns_performAll_consistent (lineLimit : Nat) (operations : List Operation) :
    (CacheColumns.empty lineLimit).performAll operations =
        ((empty lineLimit).performAll operations).map columns ∧
      ∀ cache, (empty lineLimit).performAll operations = .ok cache →
        cache.columns.Consistent ∧
          (cache.isDirty = true ↔ none ∈ cache.columns.tokens) ∧
          ∀ (grammar : Grammar) (texts : List (List Char)),
            (updateM (record grammar cache.lineLimit) cache texts).run.1 =
                cache.update (some grammar) texts ∧
              Begins (cache.fit texts.length) (cache.tokenizedLines grammar texts) := by
  refine ⟨columns_performAll (empty lineLimit) operations, fun cache reached => ?_⟩
  have kept := (WellKept.empty lineLimit).performAll reached
  refine ⟨kept.consistent, kept.isDirty_iff, fun grammar texts => ⟨?_, ?_⟩⟩
  · exact updateM_record_fst cache texts
  · exact kept.begins grammar texts

/-- A cache of which the last line was deleted and another one has lost its tokens. -/
theorem markDocument_columns :
    ∃ grammar, Grammar.ofDocument .standard true markDocument = .ok grammar ∧
      ∃ cache,
        let operations := [.update (some grammar) [['<', 'a'], ['a', '>'], ['a']],
          .editLines 2 1 0, .invalidateLine 1]
        (empty 80).performAll operations = .ok cache ∧
          (CacheColumns.empty 80).performAll operations = .ok cache.columns ∧
          cache.lineCount = 2 ∧ cache.invalidFrom = 1 ∧ cache.columns.Consistent ∧
          none ∈ cache.columns.tokens ∧
          Begins (cache.fit 3) (cache.tokenizedLines grammar [['a'], ['a'], ['<']]) := by
  let edits (grammar : Grammar) : List Operation :=
    [.update (some grammar) [['<', 'a'], ['a', '>'], ['a']], .editLines 2 1 0,
      .invalidateLine 1]
  have evaluated : ((Grammar.ofDocument .standard true markDocument).toOption.any fun grammar =>
      ((empty 80).performAll (edits grammar)).toOption.any fun cache =>
        decide (cache.lineCount = 2 ∧ cache.invalidFrom = 1)) = true := by
    decide +kernel
  obtain ⟨grammar, loaded, evaluated⟩ := Grammar.exists_ok_of_any evaluated
  obtain ⟨cache, reached, evaluated⟩ := Grammar.exists_ok_of_any evaluated
  obtain ⟨sameLineCount, invalidFromEq⟩ := of_decide_eq_true evaluated
  obtain ⟨columnsEq, holds⟩ := columns_performAll_consistent 80 (edits grammar)
  obtain ⟨consistent, dirtyIff, begins⟩ := holds cache reached
  have dirty : cache.isDirty = true := by simp [isDirty, sameLineCount, invalidFromEq]
  rw [reached] at columnsEq
  exact ⟨grammar, loaded, cache, reached, columnsEq, sameLineCount, invalidFromEq, consistent,
    dirtyIff.mp dirty, (begins grammar [['a'], ['a'], ['<']]).2⟩

end TokenCache

end Scopelight
