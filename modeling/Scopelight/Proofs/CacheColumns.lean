import Scopelight.Proofs.RecordedUpdate
import Scopelight.Proofs.TicketHistory

/-!
# Caches in two columns

A cache can keep the end states of its lines and their tokens in two columns of their own.
An operation then changes one column after the other, and an update writes its results into
the columns in place while it goes down the lines.  This comes to the same: after any
operations the columns are those of the lines of the cache, and the same edits are refused.
-/

namespace Scopelight

/-- A cache that keeps the end states and the tokens of its lines apart. -/
structure CacheColumns where
  endStates : List (Option State)
  tokens : List (Option (List Token))
  invalidFrom : Nat
  generation : Nat
  lineLimit : Nat

namespace CacheColumns

section Columns

variable {Item : Type}

/-- A column in which the places from `first` up to `last` have given way to empty ones. -/
def splice (column : List (Option Item)) (first last inserted : Nat) : List (Option Item) :=
  column.take first ++ List.replicate inserted none ++ column.drop last

/-- A column with a given number of places, filled up with empty ones. -/
def resize (column : List (Option Item)) (count : Nat) : List (Option Item) :=
  column.take count ++ List.replicate (count - column.length) none

/-- The last empty place. -/
def lastEmpty? : List (Option Item) → Option Nat
  | [] => none
  | item? :: later =>
      match lastEmpty? later with
      | some line => some (line + 1)
      | none => if item?.isSome then none else some 0

end Columns

def empty (lineLimit : Nat) : CacheColumns where
  endStates := []
  tokens := []
  invalidFrom := 0
  generation := 0
  lineLimit := max lineLimit 1

def endState? (columns : CacheColumns) (line : Nat) : Option State :=
  columns.endStates[line]?.join

def startState (columns : CacheColumns) : Nat → State
  | 0 => .initial
  | previous + 1 => (columns.endState? previous).getD .initial

def invalidateLine (columns : CacheColumns) (line : Nat) : CacheColumns :=
  { columns with
    tokens := columns.tokens.set line none
    invalidFrom := min columns.invalidFrom line
    generation := columns.generation + 1 }

def invalidateFrom (columns : CacheColumns) (line : Nat) : CacheColumns :=
  { columns with
    tokens := columns.tokens.take line ++ (columns.tokens.drop line).map fun _ => none
    invalidFrom := min columns.invalidFrom line
    generation := columns.generation + 1 }

def invalidateAll (columns : CacheColumns) : CacheColumns :=
  { columns with
    endStates := []
    tokens := []
    invalidFrom := 0
    generation := columns.generation + 1 }

def editLines (columns : CacheColumns) (start removed inserted : Nat) :
    Except EditError CacheColumns :=
  let first := min start columns.tokens.length
  if first + removed < TokenCache.wordSize then
    let last := min (first + removed) columns.tokens.length
    .ok ({ columns with
      endStates := splice columns.endStates first last inserted
      tokens := splice columns.tokens first last inserted }.invalidateLine first)
  else .error .rangeOverflow

def fit (columns : CacheColumns) (count : Nat) : CacheColumns :=
  if columns.tokens.length < count then
    { columns with
      endStates := resize columns.endStates count
      tokens := resize columns.tokens count
      invalidFrom := min columns.invalidFrom columns.tokens.length }
  else if count < columns.tokens.length then
    { columns with
      endStates := columns.endStates.take count
      tokens := columns.tokens.take count }
  else columns

/-- Go down the lines with the given texts, and write the results of those that need to be
tokenized into both columns. -/
def refresh (grammar : Grammar) (lastDirty : Nat) :
    Nat → State → Bool → List (List Char) → CacheColumns → CacheColumns
  | _, _, _, [], columns => columns
  | line, state, stateChanged, text :: texts, columns =>
      if !stateChanged && columns.tokens[line]?.join.isSome then
        if lastDirty < line then columns
        else
          refresh grammar lastDirty (line + 1) ((columns.endState? line).getD .initial) false
            texts columns
      else
        let result := grammar.tokenizeLineLimited columns.lineLimit text state
        let changed := decide (columns.endState? line ≠ some result.endState)
        refresh grammar lastDirty (line + 1) result.endState changed texts
          { columns with
            endStates := columns.endStates.set line (some result.endState)
            tokens := columns.tokens.set line (some result.tokens) }

def update (columns : CacheColumns) (grammar : Option Grammar) (texts : List (List Char)) :
    CacheColumns :=
  match grammar with
  | none => columns.invalidateAll
  | some grammar =>
      let fitted := columns.fit texts.length
      match lastEmpty? fitted.tokens with
      | none => { fitted with invalidFrom := texts.length }
      | some lastDirty =>
          let start := fitted.invalidFrom
          { refresh grammar lastDirty start (fitted.startState start) false
              (texts.drop start) fitted with
            invalidFrom := texts.length }

def commit (columns : CacheColumns) (pass : DocumentPass) : CacheColumns :=
  if pass.ticket.generation = columns.generation then
    { columns with
      endStates := pass.lines.map fun result => some result.endState
      tokens := pass.lines.map fun result => some result.tokens
      invalidFrom := pass.lines.length }
  else columns

def perform (columns : CacheColumns) : TokenCache.Operation → Except EditError CacheColumns
  | .invalidateLine line => .ok (columns.invalidateLine line)
  | .invalidateFrom line => .ok (columns.invalidateFrom line)
  | .invalidateAll => .ok columns.invalidateAll
  | .editLines start removed inserted => columns.editLines start removed inserted
  | .update grammar texts => .ok (columns.update grammar texts)
  | .beginPass => .ok { columns with generation := columns.generation + 1 }
  | .commit pass => .ok (columns.commit pass)

def performAll (columns : CacheColumns) (operations : List TokenCache.Operation) :
    Except EditError CacheColumns :=
  operations.foldlM perform columns

end CacheColumns

namespace TokenCache

/-- The columns of a cache. -/
def columns (cache : TokenCache) : CacheColumns where
  endStates := cache.lines.map CachedLine.endState
  tokens := cache.lines.map CachedLine.tokens
  invalidFrom := cache.invalidFrom
  generation := cache.generation
  lineLimit := cache.lineLimit

open CacheColumns (splice resize lastEmpty?)

variable {lines : List CachedLine}

theorem map_endState_modify (line : Nat) :
    (lines.modify line CachedLine.invalidate).map CachedLine.endState =
      lines.map CachedLine.endState := by
  induction lines generalizing line with
  | nil => simp
  | cons stored later ih => cases line <;> simp [CachedLine.invalidate, ih]

theorem map_tokens_modify (line : Nat) :
    (lines.modify line CachedLine.invalidate).map CachedLine.tokens =
      (lines.map CachedLine.tokens).set line none := by
  induction lines generalizing line with
  | nil => simp
  | cons stored later ih => cases line <;> simp [CachedLine.invalidate, ih]

theorem columns_invalidateLine (cache : TokenCache) (line : Nat) :
    (cache.invalidateLine line).columns = cache.columns.invalidateLine line := by
  simp [columns, invalidateLine, CacheColumns.invalidateLine, map_endState_modify,
    map_tokens_modify]

theorem columns_invalidateFrom (cache : TokenCache) (line : Nat) :
    (cache.invalidateFrom line).columns = cache.columns.invalidateFrom line := by
  simp [columns, invalidateFrom, CacheColumns.invalidateFrom, CachedLine.invalidate,
    Function.comp_def]

theorem columns_editLines (cache : TokenCache) (start removed inserted : Nat) :
    cache.columns.editLines start removed inserted =
      (cache.editLines start removed inserted).map columns := by
  have lengthEq : cache.columns.tokens.length = cache.lineCount := List.length_map _
  simp only [CacheColumns.editLines, editLines, lengthEq]
  split
  · rw [Except.map, columns_invalidateLine]
    simp [columns, splice, CachedLine.empty]
  · rfl

theorem columns_fit (cache : TokenCache) (count : Nat) :
    (cache.fit count).columns = cache.columns.fit count := by
  have lengthEq : cache.columns.tokens.length = cache.lineCount := List.length_map _
  rw [CacheColumns.fit, lengthEq]
  rcases Nat.lt_trichotomy cache.lineCount count with grows | rfl | shrinks
  · rw [if_pos grows, fit, if_pos grows]
    simp [columns, resize, CachedLine.empty, lineCount]
  · rw [if_neg (Nat.lt_irrefl _), if_neg (Nat.lt_irrefl _)]
    simp [columns, fit, lineCount]
  · rw [if_neg (Nat.lt_asymm shrinks), if_pos shrinks]
    simp [columns, fit, Nat.lt_asymm shrinks, Nat.sub_eq_zero_of_le (Nat.le_of_lt shrinks)]

theorem lastEmpty?_tokens (lines : List CachedLine) :
    lastEmpty? (lines.map CachedLine.tokens) = CachedLine.lastDirty? lines := by
  induction lines with
  | nil => rfl
  | cons stored later ih =>
      rw [List.map_cons, lastEmpty?, ih]
      rfl

theorem columns_endState? (cache : TokenCache) (line : Nat) :
    cache.columns.endState? line = cache.endState? line := by
  rw [CacheColumns.endState?, columns, List.getElem?_map, endState?]
  cases cache.lines[line]? <;> rfl

theorem columns_startState (cache : TokenCache) (line : Nat) :
    cache.columns.startState line = cache.startState line := by
  cases line with
  | zero => rfl
  | succ above => rw [CacheColumns.startState, startState, columns_endState?]

/-- Writing the results in place gives the columns of what the lines become. -/
theorem columns_refresh (grammar : Grammar) (lastDirty : Nat) {cache : TokenCache} {first : Nat}
    {state : State} {stateChanged : Bool} {texts : List (List Char)}
    (lengthEq : texts.length = cache.lineCount - first) :
    CacheColumns.refresh grammar lastDirty first state stateChanged texts cache.columns =
      { cache with
        lines := cache.lines.take first ++
          (refresh grammar cache.lineLimit lastDirty first state stateChanged
            (cache.lines.drop first) texts).1 }.columns := by
  induction texts generalizing cache first state stateChanged with
  | nil =>
      have behind : cache.lines.length ≤ first := Nat.le_of_sub_eq_zero lengthEq.symm
      rw [List.drop_eq_nil_of_le behind, List.take_of_length_le behind]
      simp [CacheColumns.refresh, refresh]
  | cons text texts ih =>
      rw [List.length_cons, lineCount] at lengthEq
      have inside : first < cache.lines.length := by omega
      have tokensEq : cache.columns.tokens[first]?.join = cache.lines[first].tokens := by
        simp [columns, inside]
      have endStateEq : cache.columns.endState? first = cache.lines[first].endState := by
        simp [columns, CacheColumns.endState?, inside]
      have takeEq : cache.lines.take (first + 1) =
          cache.lines.take first ++ [cache.lines[first]] :=
        (List.take_append_getElem inside).symm
      rw [List.drop_eq_getElem_cons inside, CacheColumns.refresh, refresh, tokensEq, endStateEq]
      split
      case isTrue keeps =>
        split
        case isTrue behind =>
          rw [← List.drop_eq_getElem_cons inside, List.take_append_drop]
        case isFalse ahead =>
          rw [ih (by rw [lineCount]; omega), takeEq, List.append_assoc]
          rfl
      case isFalse due =>
        let result := grammar.tokenizeLineLimited cache.lineLimit text state
        let written := { cache with lines := cache.lines.set first (.ofResult result) }
        have columnsEq : written.columns =
            { cache.columns with
              endStates := cache.columns.endStates.set first (some result.endState)
              tokens := cache.columns.tokens.set first (some result.tokens) } := by
          simp [columns, written, List.map_set, CachedLine.ofResult]
        have taken : (cache.lines.take first).length = first :=
          List.length_take_of_le (Nat.le_of_lt inside)
        have writtenEq : written.lines =
            (cache.lines.take first ++ [.ofResult result]) ++ cache.lines.drop (first + 1) := by
          simp [written, List.set_eq_take_append_cons_drop, inside]
        have step := @ih written (first + 1) result.endState
          (decide (cache.lines[first].endState ≠ some result.endState))
          (by simp [written, lineCount]; omega)
        rw [columnsEq, writtenEq, List.take_left' (by simp [taken]),
          List.drop_left' (by simp [taken]), List.append_assoc] at step
        exact step

theorem columns_update (cache : TokenCache) (grammar : Option Grammar)
    (texts : List (List Char)) :
    (cache.update grammar texts).1.columns = cache.columns.update grammar texts := by
  cases grammar with
  | none => rfl
  | some grammar =>
      have lastEq : lastEmpty? (cache.columns.fit texts.length).tokens =
          CachedLine.lastDirty? (cache.fit texts.length).lines := by
        rw [← columns_fit]
        exact lastEmpty?_tokens _
      simp only [update, updateWith, CacheColumns.update, lastEq]
      rw [← columns_fit]
      have sameLineCount : (cache.fit texts.length).lineCount = texts.length :=
        length_fit cache texts.length
      have limitEq : (cache.fit texts.length).lineLimit = cache.lineLimit := rfl
      rw [← limitEq]
      generalize cache.fit texts.length = fitted at sameLineCount
      cases CachedLine.lastDirty? fitted.lines with
      | none => rfl
      | some lastDirty =>
          have lengthEq : (texts.drop fitted.invalidFrom).length =
              fitted.lineCount - fitted.invalidFrom := by
            rw [List.length_drop, sameLineCount]
          have startEq : fitted.columns.invalidFrom = fitted.invalidFrom := rfl
          simp only [columns_startState, startEq, columns_refresh grammar lastDirty lengthEq]
          rfl

theorem columns_commit (cache : TokenCache) (pass : DocumentPass) :
    (cache.commit pass).1.columns = cache.columns.commit pass := by
  by_cases current : pass.ticket.generation = cache.generation
  · have same : pass.ticket.generation = cache.columns.generation := current
    rw [commit, CacheColumns.commit, if_pos current, if_pos same]
    simp [columns, CachedLine.ofResult, Function.comp_def]
  · have lapsed : pass.ticket.generation ≠ cache.columns.generation := current
    rw [commit, CacheColumns.commit, if_neg current, if_neg lapsed]

theorem columns_perform (cache : TokenCache) (operation : Operation) :
    cache.columns.perform operation = (cache.perform operation).map columns := by
  cases operation with
  | invalidateLine line => exact congrArg Except.ok (cache.columns_invalidateLine line).symm
  | invalidateFrom line => exact congrArg Except.ok (cache.columns_invalidateFrom line).symm
  | invalidateAll => rfl
  | editLines start removed inserted => exact cache.columns_editLines start removed inserted
  | update grammar texts => exact congrArg Except.ok (cache.columns_update grammar texts).symm
  | beginPass => rfl
  | commit pass => exact congrArg Except.ok (cache.columns_commit pass).symm

theorem columns_performAll (cache : TokenCache) (operations : List Operation) :
    cache.columns.performAll operations = (cache.performAll operations).map columns := by
  induction operations generalizing cache with
  | nil => rfl
  | cons operation operations ih =>
      simp only [CacheColumns.performAll, performAll, List.foldlM_cons, columns_perform]
      cases cache.perform operation with
      | error error => rfl
      | ok next => exact ih next

end TokenCache

end Scopelight
