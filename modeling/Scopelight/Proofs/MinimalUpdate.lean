import Scopelight.Proofs.RecordedUpdate
import Scopelight.Proofs.TicketHistory

/-!
# Minimal updates

An update of a cache that operations have led to tokenizes no line more than it has to.  The
lines that have to be tokenized are those without tokens, and with each such line the one
below it if the end state that was stored between them has turned out another.  A cache
knows from where on this may be the case: the first invalid line is the first line without
tokens.
-/

namespace Scopelight

namespace TokenCache

/-! ### The first invalid line -/

/-- The index of the first line without tokens, or the number of lines. -/
def firstDirty (lines : List CachedLine) : Nat :=
  lines.findIdx fun stored => stored.tokens.isNone

/-- Where tokens are stored, so is the end state. -/
def EndsKnown (lines : List CachedLine) : Prop :=
  ∀ stored ∈ lines, stored.tokens.isSome → stored.endState.isSome

/-- What all operations on a cache keep true: the first invalid line is the first one without
tokens, and where tokens are stored, so is the end state. -/
structure WellKept (cache : TokenCache) : Prop where
  invalidFromEq : cache.invalidFrom = firstDirty cache.lines
  endsKnown : EndsKnown cache.lines

variable {cache next : TokenCache} {lines before after : List CachedLine}

theorem firstDirty_eq_length (haveTokens : ∀ stored ∈ lines, stored.tokens.isSome) :
    firstDirty lines = lines.length := by
  refine List.findIdx_eq_length.mpr fun stored member => ?_
  rw [← Option.not_isSome, haveTokens stored member, Bool.not_true]

theorem firstDirty_take (lines : List CachedLine) (count : Nat) :
    firstDirty (lines.take count) = min count (firstDirty lines) :=
  List.findIdx_take

/-- Lines behind a dirty one, and the end of all lines, do not count. -/
theorem firstDirty_append (dirty : firstDirty after = 0) :
    firstDirty (before ++ after) = firstDirty before := by
  have inside : firstDirty before ≤ before.length := List.findIdx_le_length
  rw [firstDirty, List.findIdx_append]
  change (if firstDirty before < _ then firstDirty before else firstDirty after + _) = _
  split <;> omega

theorem firstDirty_modify (lines : List CachedLine) (line : Nat) :
    firstDirty (lines.modify line CachedLine.invalidate) = min line (firstDirty lines) := by
  rw [List.modify_eq_take_drop, firstDirty_append, firstDirty_take]
  cases lines.drop line <;> rfl

theorem firstDirty_invalidateFrom (lines : List CachedLine) (line : Nat) :
    firstDirty (lines.take line ++ (lines.drop line).map CachedLine.invalidate) =
      min line (firstDirty lines) := by
  rw [firstDirty_append, firstDirty_take]
  cases lines.drop line <;> rfl

namespace EndsKnown

theorem append (first : EndsKnown before) (second : EndsKnown after) :
    EndsKnown (before ++ after) := by
  intro stored member
  exact (List.mem_append.mp member).elim (first stored) (second stored)

theorem take (known : EndsKnown lines) (count : Nat) : EndsKnown (lines.take count) :=
  fun stored member => known stored (List.mem_of_mem_take member)

theorem drop (known : EndsKnown lines) (count : Nat) : EndsKnown (lines.drop count) :=
  fun stored member => known stored (List.mem_of_mem_drop member)

theorem replicate (count : Nat) : EndsKnown (List.replicate count .empty) := by
  intro stored member hasTokens
  rw [List.eq_of_mem_replicate member] at hasTokens
  cases hasTokens

theorem invalidate (lines : List CachedLine) :
    EndsKnown (lines.map CachedLine.invalidate) := by
  intro stored member hasTokens
  obtain ⟨old, -, rfl⟩ := List.mem_map.mp member
  cases hasTokens

theorem modify (known : EndsKnown lines) (line : Nat) :
    EndsKnown (lines.modify line CachedLine.invalidate) := by
  rw [List.modify_eq_take_drop]
  refine (known.take line).append ?_
  have later := known.drop line
  generalize lines.drop line = rest at later
  cases rest with
  | nil => exact later
  | cons stored rest =>
      refine List.forall_mem_cons.mpr ⟨nofun, ?_⟩
      exact fun other member => later other (List.mem_cons_of_mem _ member)

end EndsKnown

namespace WellKept

theorem cleanBefore (kept : cache.WellKept) : cache.CleanBefore := by
  intro line stored before found
  rw [kept.invalidFromEq] at before
  have clean := List.not_of_lt_findIdx before
  rw [(List.getElem?_eq_some_iff.mp found).2, ← Option.not_isSome] at clean
  simpa using clean

/-- A cache whose lines are all clean. -/
theorem of_clean (invalidFromEq : cache.invalidFrom = cache.lines.length)
    (haveTokens : ∀ stored ∈ cache.lines, stored.tokens.isSome)
    (endsKnown : EndsKnown cache.lines) : cache.WellKept :=
  ⟨invalidFromEq.trans (firstDirty_eq_length haveTokens).symm, endsKnown⟩

theorem empty (lineLimit : Nat) : (empty lineLimit).WellKept :=
  ⟨rfl, nofun⟩

theorem invalidateAll (cache : TokenCache) : cache.invalidateAll.WellKept :=
  ⟨rfl, nofun⟩

theorem invalidateLine (kept : cache.WellKept) (line : Nat) :
    (cache.invalidateLine line).WellKept where
  invalidFromEq := by
    simp only [TokenCache.invalidateLine, firstDirty_modify, kept.invalidFromEq, Nat.min_comm]
  endsKnown := kept.endsKnown.modify line

theorem invalidateFrom (kept : cache.WellKept) (line : Nat) :
    (cache.invalidateFrom line).WellKept where
  invalidFromEq := by
    simp only [TokenCache.invalidateFrom, firstDirty_invalidateFrom, kept.invalidFromEq,
      Nat.min_comm]
  endsKnown := (kept.endsKnown.take line).append (.invalidate _)

/-- The lines before the place of an edit are those that there were. -/
theorem editLines (kept : cache.WellKept) {start removed inserted : Nat}
    (accepted : cache.editLines start removed inserted = .ok next) : next.WellKept := by
  obtain ⟨-, rfl⟩ := editLines_eq_ok_iff.mp accepted
  constructor
  case invalidFromEq =>
    have taken : (cache.lines.take (min start cache.lineCount)).length =
        min start cache.lineCount :=
      List.length_take_of_le (Nat.min_le_right _ _)
    simp only [TokenCache.invalidateLine, firstDirty_modify, kept.invalidFromEq]
    rw [← firstDirty_take _ (min start cache.lineCount), List.append_assoc,
      List.take_left' taken, firstDirty_take, Nat.min_comm]
  case endsKnown =>
    exact (((kept.endsKnown.take _).append (.replicate _)).append
      (kept.endsKnown.drop _)).modify _

theorem commit (kept : cache.WellKept) (pass : DocumentPass) :
    (cache.commit pass).1.WellKept := by
  unfold TokenCache.commit
  split
  · refine .of_clean (by simp) ?_ ?_ <;>
      simp [EndsKnown, CachedLine.ofResult]
  · exact kept

/-- An update gives every line its tokens. -/
theorem updateWith (kept : cache.WellKept) (grammar : Grammar) (texts : List (List Char)) :
    (cache.updateWith grammar texts).1.WellKept ∧
      ∀ stored ∈ (cache.updateWith grammar texts).1.lines, stored.tokens.isSome := by
  obtain ⟨refreshes, -⟩ := refreshes_updateWith grammar (kept.cleanBefore.fit texts.length)
  have haveTokens : ∀ stored ∈ (cache.updateWith grammar texts).1.lines,
      stored.tokens.isSome := by
    intro stored member
    rcases refreshes.eq_ofResult_or_mem member with ⟨result, rfl⟩ | ⟨-, hasTokens⟩
    · rfl
    · exact hasTokens
  have endsKnown : EndsKnown (cache.updateWith grammar texts).1.lines := by
    intro stored member hasTokens
    rcases refreshes.eq_ofResult_or_mem member with ⟨result, rfl⟩ | ⟨old, -⟩
    · rfl
    · exact (kept.endsKnown.take _).append (.replicate _) stored old hasTokens
  refine ⟨.of_clean ?_ haveTokens endsKnown, haveTokens⟩
  rw [updateWith_invalidFrom, refreshes.lengthEq, length_fit]

theorem perform (kept : cache.WellKept) {operation : Operation}
    (performed : cache.perform operation = .ok next) : next.WellKept := by
  cases operation with
  | editLines start removed inserted => exact kept.editLines performed
  | invalidateLine line => exact Except.ok.inj performed ▸ kept.invalidateLine line
  | invalidateFrom line => exact Except.ok.inj performed ▸ kept.invalidateFrom line
  | invalidateAll => exact Except.ok.inj performed ▸ .invalidateAll cache
  | beginPass => exact Except.ok.inj performed ▸ ⟨kept.invalidFromEq, kept.endsKnown⟩
  | commit pass => exact Except.ok.inj performed ▸ kept.commit pass
  | update grammar texts =>
      obtain rfl := Except.ok.inj performed
      cases grammar with
      | none => exact .invalidateAll cache
      | some grammar => exact (kept.updateWith grammar texts).1

theorem performAll (kept : cache.WellKept) {operations : List Operation}
    (performed : cache.performAll operations = .ok next) : next.WellKept := by
  induction operations generalizing cache with
  | nil => exact Except.ok.inj performed ▸ kept
  | cons operation operations ih =>
      obtain ⟨middle, first, rest⟩ := performAll_cons_eq_ok.mp performed
      exact ih (kept.perform first) rest

end WellKept

/-! ### The lines that have to be tokenized -/

/-- A set of lines that have to be tokenized to bring a fitted cache up to date: with the
lines without tokens, and with each line the one below it if its end state has changed. -/
structure Owes (fitted updated : TokenCache) (owed : Set Nat) : Prop where
  missing : ∀ (line : Nat) (stored : CachedLine), fitted.lines[line]? = some stored →
    stored.tokens = none → line ∈ owed
  follows : ∀ line ∈ owed, line + 1 < fitted.lineCount →
    updated.endState? line ≠ fitted.endState? line → line + 1 ∈ owed

/-- The lines that a run tokenizes are owed, and no others are. -/
theorem Refreshes.isLeast {grammar : Grammar} {limit : Nat} {texts : List (List Char)}
    {fitted updated : TokenCache} {calls : List Nat}
    (refreshes : Refreshes grammar limit 0 .initial false fitted.lines texts updated.lines
      calls) :
    IsLeast {owed | Owes fitted updated owed} {line | line ∈ calls} := by
  have calledIff : ∀ (line : Nat) (stored : CachedLine), fitted.lines[line]? = some stored →
      (line ∈ calls ↔ stored.tokens = none ∨
        NewAbove 0 false fitted.lines updated.lines calls line) := by
    simpa only [Nat.zero_add] using refreshes.calledIff
  refine ⟨⟨?missing, ?follows⟩, ?least⟩
  case missing =>
    intro line stored found noTokens
    exact (calledIff line stored found).mpr (.inl noTokens)
  case follows =>
    intro line call inside new
    refine (calledIff (line + 1) _ (List.getElem?_eq_getElem inside)).mpr (.inr ⟨?_, new⟩)
    rw [Nat.zero_add]
    exact call
  case least =>
    intro owed owes line call
    -- From each line that is tokenized for the end state above, go on to the line above.
    induction line with
    | zero =>
        have inside := (refreshes.inside 0 call).2
        rw [Nat.zero_add] at inside
        have found := List.getElem?_eq_getElem inside
        rcases (calledIff 0 _ found).mp call with noTokens | new
        · exact owes.missing 0 _ found noTokens
        · cases new
    | succ above ih =>
        have inside := (refreshes.inside (above + 1) call).2
        rw [Nat.zero_add] at inside
        have found := List.getElem?_eq_getElem inside
        rcases (calledIff (above + 1) _ found).mp call with noTokens | ⟨aboveCall, new⟩
        · exact owes.missing _ _ found noTokens
        · rw [Nat.zero_add] at aboveCall
          exact owes.follows above (ih aboveCall) inside new

theorem fit_of_lineCount_eq {count : Nat} (countEq : cache.lineCount = count) :
    cache.fit count = cache := by
  subst countEq
  simp [fit, lineCount]

/-- A cache that is up to date is left alone. -/
theorem updateWith_of_clean {grammar : Grammar} {texts : List (List Char)}
    (countEq : cache.lineCount = texts.length) (invalidFromEq : cache.invalidFrom = texts.length)
    (haveTokens : ∀ stored ∈ cache.lines, stored.tokens.isSome) :
    cache.updateWith grammar texts = (cache, 0) := by
  have noneDirty : CachedLine.lastDirty? cache.lines = none := by
    refine Option.eq_none_iff_forall_ne_some.mpr fun last dirty => ?_
    obtain ⟨stored, found, missing⟩ := dirty_of_lastDirty? dirty
    have hasTokens := haveTokens stored (List.mem_of_getElem? found)
    rw [missing] at hasTokens
    cases hasTokens
  simp only [updateWith, fit_of_lineCount_eq countEq, noneDirty]
  rw [← invalidFromEq]

/-- An update of any cache that operations lead to tokenizes the least set of lines that it
has to, each of them once.  These lines get their results in the state in which the line
above has ended, all others stay as they are, and a second update has nothing to do.  The
run that records the lines does what the update does. -/
theorem update_tokenizes_least {lineLimit : Nat} {operations : List Operation}
    {cache : TokenCache} (reached : (empty lineLimit).performAll operations = .ok cache)
    (grammar : Grammar) (texts : List (List Char)) :
    let fitted := cache.fit texts.length
    let updated := (cache.update (some grammar) texts).1
    let tokenized := cache.tokenizedLines grammar texts
    (updateM (record grammar cache.lineLimit) cache texts).run.1 =
        cache.update (some grammar) texts ∧
      IsLeast {owed | Owes fitted updated owed} {line | line ∈ tokenized} ∧
      tokenized.Nodup ∧ (cache.update (some grammar) texts).2 = tokenized.length ∧
      (∀ line ∈ tokenized, ∃ text, texts[line]? = some text ∧
        updated.lines[line]? = some (.ofResult
          (grammar.tokenizeLineLimited cache.lineLimit text (updated.startState line)))) ∧
      (∀ line, line ∉ tokenized → updated.lines[line]? = fitted.lines[line]?) ∧
      updated.update (some grammar) texts = (updated, 0) := by
  intro fitted updated tokenized
  have kept := (WellKept.empty lineLimit).performAll reached
  obtain ⟨refreshes, countEq⟩ := refreshes_updateWith grammar (kept.cleanBefore.fit texts.length)
  refine ⟨updateM_record_fst cache texts, refreshes.isLeast, refreshes.nodup, countEq,
    ?tokenized, ?kept, ?again⟩
  case tokenized =>
    intro line call
    obtain ⟨text, textEq, resultEq⟩ := refreshes.tokenized line (by rwa [Nat.zero_add])
    exact ⟨text, textEq, startState_eq_stateAbove updated line ▸ resultEq⟩
  case kept =>
    intro line notCalled
    exact refreshes.kept line (by rwa [Nat.zero_add])
  case again =>
    have sameLineCount : updated.lineCount = texts.length :=
      refreshes.lengthEq.trans (length_fit cache texts.length)
    exact updateWith_of_clean sameLineCount (updateWith_invalidFrom cache grammar texts)
      (kept.updateWith grammar texts).2

/-- An update after two lines were replaced and one added at the end.  The first of them has
got another end state, so the line below it is tokenized as well, and there the end states
agree again. -/
theorem markDocument_tokenizes :
    ∃ grammar, Grammar.ofDocument .standard true markDocument = .ok grammar ∧
      ∃ cache, (empty 80).performAll
          [.update (some grammar) [['<', 'a'], ['a', '>'], ['a'], ['a']],
            .invalidateLine 0, .invalidateLine 3] = .ok cache ∧
        let texts := [['a'], ['a', '>'], ['a'], ['>'], ['<']]
        let updated := (cache.update (some grammar) texts).1
        cache.tokenizedLines grammar texts = [0, 1, 3, 4] ∧
          (cache.update (some grammar) texts).2 = 4 ∧
          IsLeast {owed | Owes (cache.fit 5) updated owed} {line | line ∈ [0, 1, 3, 4]} ∧
          updated.lines[2]? = cache.lines[2]? ∧
          updated.update (some grammar) texts = (updated, 0) := by
  let edits (grammar : Grammar) : List Operation :=
    [.update (some grammar) [['<', 'a'], ['a', '>'], ['a'], ['a']], .invalidateLine 0,
      .invalidateLine 3]
  let texts := [['a'], ['a', '>'], ['a'], ['>'], ['<']]
  have evaluated : ((Grammar.ofDocument .standard true markDocument).toOption.any fun grammar =>
      ((empty 80).performAll (edits grammar)).toOption.any fun cache =>
        decide (cache.tokenizedLines grammar texts = [0, 1, 3, 4] ∧
          (cache.fit 5).lines[2]? = cache.lines[2]?)) = true := by
    decide +kernel
  obtain ⟨grammar, loaded, evaluated⟩ := Grammar.exists_ok_of_any evaluated
  obtain ⟨cache, reached, evaluated⟩ := Grammar.exists_ok_of_any evaluated
  obtain ⟨tokenizedEq, fittedEq⟩ := of_decide_eq_true evaluated
  obtain ⟨-, least, -, countEq, -, kept, again⟩ :=
    update_tokenizes_least reached grammar texts
  rw [tokenizedEq] at least countEq kept
  exact ⟨grammar, loaded, cache, reached, tokenizedEq, countEq, least,
    (kept 2 (by decide)).trans fittedEq, again⟩

end TokenCache

end Scopelight
