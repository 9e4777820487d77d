import Mathlib.Control.Monad.Writer
import Mathlib.Order.Bounds.Defs
import Scopelight.Proofs.IncrementalUpdate

/-!
# Recorded updates

An update calls the tokenizer for some of the lines of a document.  Which lines these are is
seen in a run with a tokenizer that writes down the line it is called for.  A line is
tokenized exactly if it has no tokens, or if the line above it was tokenized and has got
another end state than the one stored for it.  All other lines stay as they are.
-/

namespace Scopelight

namespace TokenCache

/-! ### Updates with any tokenizer -/

section

variable {M : Type → Type} [Monad M]

/-- The loop of `refresh` with any tokenizer, which is told the index of a line and may have
effects of its own. -/
def refreshM (tokenize : Nat → List Char → State → M LineTokens) (lastDirty : Nat) :
    Nat → State → Bool → List CachedLine → List (List Char) → M (List CachedLine × Nat)
  | line, state, stateChanged, stored :: later, text :: texts =>
      if !stateChanged && stored.tokens.isSome then
        if lastDirty < line then return (stored :: later, 0)
        else do
          let (lines, count) ←
            refreshM tokenize lastDirty (line + 1) (stored.endState.getD .initial) false
              later texts
          return (stored :: lines, count)
      else do
        let result ← tokenize line text state
        let changed := decide (stored.endState ≠ some result.endState)
        let (lines, count) ←
          refreshM tokenize lastDirty (line + 1) result.endState changed later texts
        return (.ofResult result :: lines, count + 1)
  | _, _, _, lines, _ => return (lines, 0)

/-- An update with any tokenizer. -/
def updateM (tokenize : Nat → List Char → State → M LineTokens) (cache : TokenCache)
    (texts : List (List Char)) : M (TokenCache × Nat) :=
  let fitted := cache.fit texts.length
  match CachedLine.lastDirty? fitted.lines with
  | none => return ({ fitted with invalidFrom := texts.length }, 0)
  | some lastDirty => do
      let start := fitted.invalidFrom
      let (refreshed, count) ←
        refreshM tokenize lastDirty start (fitted.startState start) false
          (fitted.lines.drop start) (texts.drop start)
      return ({ fitted with
          lines := fitted.lines.take start ++ refreshed
          invalidFrom := texts.length },
        count)

end

/-- The tokenizer of a grammar, which also writes down the line that it is called for. -/
def record (grammar : Grammar) (limit line : Nat) (text : List Char) (state : State) :
    Writer (List Nat) LineTokens :=
  WriterT.mk (grammar.tokenizeLineLimited limit text state, [line])

/-- The lines that an update tokenizes, in this order. -/
def tokenizedLines (cache : TokenCache) (grammar : Grammar) (texts : List (List Char)) :
    List Nat :=
  (updateM (record grammar cache.lineLimit) cache texts).run.2

variable {grammar : Grammar} {limit lastDirty first : Nat} {state : State}
  {stateChanged : Bool} {stored : CachedLine} {lines later refreshed : List CachedLine}
  {text : List Char} {texts : List (List Char)} {calls : List Nat}

theorem refreshM_record_keep (keeps : (!stateChanged && stored.tokens.isSome) = true)
    (ahead : ¬ lastDirty < first) :
    (refreshM (record grammar limit) lastDirty first state stateChanged (stored :: later)
        (text :: texts)).run =
      let rest := (refreshM (record grammar limit) lastDirty (first + 1)
        (stored.endState.getD .initial) false later texts).run
      ((stored :: rest.1.1, rest.1.2), rest.2) := by
  rw [refreshM, if_pos keeps, if_neg ahead]
  exact congrArg (Prod.mk _) (List.append_nil _)

theorem refreshM_record_tokenize (due : ¬ (!stateChanged && stored.tokens.isSome) = true) :
    (refreshM (record grammar limit) lastDirty first state stateChanged (stored :: later)
        (text :: texts)).run =
      let result := grammar.tokenizeLineLimited limit text state
      let rest := (refreshM (record grammar limit) lastDirty (first + 1) result.endState
        (decide (stored.endState ≠ some result.endState)) later texts).run
      ((.ofResult result :: rest.1.1, rest.1.2 + 1), first :: rest.2) := by
  rw [refreshM, if_neg due]
  exact congrArg (fun calls => (_, first :: calls)) (List.append_nil _)

/-- A recorded run of the loop gives what the loop gives. -/
theorem refreshM_record_fst :
    (refreshM (record grammar limit) lastDirty first state stateChanged lines texts).run.1 =
      refresh grammar limit lastDirty first state stateChanged lines texts := by
  induction lines generalizing first state stateChanged texts with
  | nil => cases texts <;> rfl
  | cons stored later ih =>
      cases texts with
      | nil => rfl
      | cons text texts =>
          by_cases keeps : (!stateChanged && stored.tokens.isSome) = true
          · by_cases behind : lastDirty < first
            · rw [refreshM, refresh, if_pos keeps, if_pos behind, if_pos keeps, if_pos behind]
              rfl
            · rw [refreshM_record_keep keeps behind, refresh, if_pos keeps, if_neg behind, ← ih]
          · rw [refreshM_record_tokenize keeps, refresh, if_neg keeps]
            simp only [← ih]

theorem updateM_record_clean {cache : TokenCache}
    (noneDirty : CachedLine.lastDirty? (cache.fit texts.length).lines = none) :
    (updateM (record grammar cache.lineLimit) cache texts).run =
      (({ cache.fit texts.length with invalidFrom := texts.length }, 0), []) := by
  simp only [updateM, noneDirty]
  rfl

theorem updateM_record_dirty {cache : TokenCache}
    (dirty : CachedLine.lastDirty? (cache.fit texts.length).lines = some lastDirty) :
    (updateM (record grammar cache.lineLimit) cache texts).run =
      let fitted := cache.fit texts.length
      let start := fitted.invalidFrom
      let run := (refreshM (record grammar cache.lineLimit) lastDirty start
        (fitted.startState start) false (fitted.lines.drop start) (texts.drop start)).run
      (({ fitted with
          lines := fitted.lines.take start ++ run.1.1
          invalidFrom := texts.length },
        run.1.2), run.2) := by
  simp only [updateM, dirty]
  exact congrArg (Prod.mk _) (List.append_nil _)

/-- A recorded update gives what the update gives. -/
theorem updateM_record_fst (cache : TokenCache) (texts : List (List Char)) :
    (updateM (record grammar cache.lineLimit) cache texts).run.1 =
      cache.updateWith grammar texts := by
  cases dirty : CachedLine.lastDirty? (cache.fit texts.length).lines with
  | none => simp only [updateM_record_clean dirty, updateWith, dirty]
  | some lastDirty => simp only [updateM_record_dirty dirty, refreshM_record_fst, updateWith, dirty]

/-! ### What a recorded run does -/

/-- The end state that is stored for a line. -/
def endAt (lines : List CachedLine) (line : Nat) : Option State :=
  lines[line]?.bind CachedLine.endState

/-- The state that a line starts from if the first one starts in a given state. -/
def stateAbove (state : State) (lines : List CachedLine) : Nat → State
  | 0 => state
  | above + 1 => (endAt lines above).getD .initial

/-- The line above an index was tokenized and has got another end state than the one stored
for it.  Of the line above the first one it is known whether this is so. -/
def NewAbove (first : Nat) (stateChanged : Bool) (lines refreshed : List CachedLine)
    (calls : List Nat) : Nat → Prop
  | 0 => stateChanged = true
  | above + 1 => first + above ∈ calls ∧ endAt refreshed above ≠ endAt lines above

/-- What is made of lines, the first of which has a given index and starts in a given state,
by calls of the tokenizer for some of them. -/
structure Refreshes (grammar : Grammar) (limit first : Nat) (state : State)
    (stateChanged : Bool) (lines : List CachedLine) (texts : List (List Char))
    (refreshed : List CachedLine) (calls : List Nat) : Prop where
  lengthEq : refreshed.length = lines.length
  increasing : calls.Pairwise (· < ·)
  inside : ∀ line ∈ calls, first ≤ line ∧ line < first + lines.length
  kept : ∀ index, first + index ∉ calls → refreshed[index]? = lines[index]?
  tokenized : ∀ index, first + index ∈ calls → ∃ text, texts[index]? = some text ∧
    refreshed[index]? = some (.ofResult
      (grammar.tokenizeLineLimited limit text (stateAbove state refreshed index)))
  calledIff : ∀ index stored, lines[index]? = some stored →
    (first + index ∈ calls ↔
      stored.tokens = none ∨ NewAbove first stateChanged lines refreshed calls index)

namespace Refreshes

/-- Lines that all have tokens are left alone. -/
theorem clean (haveTokens : ∀ stored ∈ lines, stored.tokens.isSome) :
    Refreshes grammar limit first state false lines texts lines [] where
  lengthEq := rfl
  increasing := .nil
  inside := by simp
  kept := fun _ _ => rfl
  tokenized := by simp
  calledIff := by
    intro index stored found
    have hasTokens := haveTokens stored (List.mem_of_getElem? found)
    cases index <;> simp_all [NewAbove, Option.isSome_iff_ne_none]

theorem nil : Refreshes grammar limit first state stateChanged [] texts [] [] where
  lengthEq := rfl
  increasing := .nil
  inside := by simp
  kept := fun _ _ => rfl
  tokenized := by simp
  calledIff := by simp

/-- One line stands before others. -/
theorem cons {refreshedFirst : CachedLine} {callsFirst : List Nat} {nextChanged : Bool}
    (rest : Refreshes grammar limit (first + 1) (refreshedFirst.endState.getD .initial)
      nextChanged later texts refreshed calls)
    (onlyFirst : ∀ line ∈ callsFirst, line = first)
    (increasing : callsFirst.Pairwise (· < ·))
    (kept : first ∉ callsFirst → refreshedFirst = stored)
    (tokenized : first ∈ callsFirst →
      refreshedFirst = .ofResult (grammar.tokenizeLineLimited limit text state))
    (calledIff : first ∈ callsFirst ↔ stored.tokens = none ∨ stateChanged = true)
    (nextIff : nextChanged = true ↔
      first ∈ callsFirst ∧ refreshedFirst.endState ≠ stored.endState) :
    Refreshes grammar limit first state stateChanged (stored :: later) (text :: texts)
      (refreshedFirst :: refreshed) (callsFirst ++ calls) := by
  have firstMem : first ∈ callsFirst ++ calls ↔ first ∈ callsFirst := by
    rw [List.mem_append, or_iff_left_iff_imp]
    intro call
    have := rest.inside first call
    omega
  have laterMem (index : Nat) : first + (index + 1) ∈ callsFirst ++ calls ↔
      first + 1 + index ∈ calls := by
    rw [List.mem_append, Nat.add_assoc, Nat.add_comm 1 index, or_iff_right_iff_imp]
    intro call
    have := onlyFirst _ call
    omega
  constructor
  case lengthEq => exact congrArg Nat.succ rest.lengthEq
  case increasing =>
    refine List.pairwise_append.mpr ⟨increasing, rest.increasing, ?_⟩
    intro line own other call
    have := onlyFirst line own
    have := rest.inside other call
    omega
  case inside =>
    intro line call
    rw [List.length_cons]
    rcases List.mem_append.mp call with own | call
    · have := onlyFirst line own
      omega
    · have := rest.inside line call
      omega
  case kept =>
    intro index notCalled
    cases index with
    | zero => exact congrArg some (kept (mt firstMem.mpr notCalled))
    | succ index => exact rest.kept index (mt (laterMem index).mpr notCalled)
  case tokenized =>
    intro index call
    cases index with
    | zero => exact ⟨text, rfl, congrArg some (tokenized (firstMem.mp call))⟩
    | succ index =>
        obtain ⟨other, textEq, resultEq⟩ := rest.tokenized index ((laterMem index).mp call)
        refine ⟨other, textEq, resultEq.trans ?_⟩
        cases index <;> rfl
  case calledIff =>
    intro index other found
    cases index with
    | zero =>
        cases found
        exact firstMem.trans calledIff
    | succ index =>
        rw [laterMem, rest.calledIff index other found]
        cases index with
        | zero => exact or_congr_right (nextIff.trans (and_congr_left' firstMem.symm))
        | succ above => exact or_congr_right (and_congr_left' (laterMem above).symm)

/-- A line with tokens is passed over if the line above it has got no new end state. -/
theorem keep (hasTokens : stored.tokens.isSome)
    (rest : Refreshes grammar limit (first + 1) (stored.endState.getD .initial) false later
      texts refreshed calls) :
    Refreshes grammar limit first state false (stored :: later) (text :: texts)
      (stored :: refreshed) calls := by
  have notMissing : stored.tokens ≠ none := Option.isSome_iff_ne_none.mp hasTokens
  refine rest.cons (fun _ own => absurd own List.not_mem_nil) .nil (fun _ => rfl)
    (fun own => absurd own List.not_mem_nil) ?_ ?_
  · simp [notMissing]
  · exact ⟨nofun, fun new => absurd new.1 List.not_mem_nil⟩

/-- A line without tokens, or under a new end state, is tokenized. -/
theorem tokenize (due : stored.tokens = none ∨ stateChanged = true)
    (rest : Refreshes grammar limit (first + 1)
      (grammar.tokenizeLineLimited limit text state).endState
      (decide (stored.endState ≠ some (grammar.tokenizeLineLimited limit text state).endState))
      later texts refreshed calls) :
    Refreshes grammar limit first state stateChanged (stored :: later) (text :: texts)
      (.ofResult (grammar.tokenizeLineLimited limit text state) :: refreshed)
      (first :: calls) := by
  have own := List.mem_singleton_self first
  refine rest.cons (fun _ other => List.mem_singleton.mp other) (List.pairwise_singleton _ _)
    (fun notOwn => absurd own notOwn) (fun _ => rfl) (iff_of_true own due) ?_
  rw [decide_eq_true_iff]
  exact ⟨fun new => ⟨own, new.symm⟩, fun new => new.2.symm⟩

/-- Lines with tokens stand before those with which a run begins. -/
theorem prepend {start : Nat}
    (haveTokens : ∀ (line : Nat) (stored : CachedLine), line < start →
      lines[line]? = some stored → stored.tokens.isSome)
    (inside : start ≤ lines.length) (lengthEq : lines.length = texts.length)
    (rest : Refreshes grammar limit (first + start) (stateAbove state lines start) false
      (lines.drop start) (texts.drop start) refreshed calls) :
    Refreshes grammar limit first state false lines texts (lines.take start ++ refreshed)
      calls := by
  induction start generalizing first state lines texts with
  | zero => exact rest
  | succ start ih =>
      obtain ⟨stored, later, rfl⟩ := List.exists_cons_of_length_pos (Nat.zero_lt_of_lt inside)
      obtain ⟨text, textsLater, rfl⟩ :=
        List.exists_cons_of_length_pos (lengthEq ▸ Nat.zero_lt_of_lt inside)
      have stateEq : stateAbove state (stored :: later) (start + 1) =
          stateAbove (stored.endState.getD .initial) later start := by
        cases start <;> rfl
      have firstEq : first + (start + 1) = first + 1 + start := by omega
      rw [stateEq, firstEq] at rest
      refine keep (haveTokens 0 stored (Nat.succ_pos start) rfl) (ih ?_ ?_ ?_ rest)
      · exact fun line other before found =>
          haveTokens (line + 1) other (Nat.succ_lt_succ before) found
      · exact Nat.le_of_succ_le_succ inside
      · exact Nat.succ.inj lengthEq

/-- The whole run is increasing, so no line is tokenized twice. -/
theorem nodup (refreshes : Refreshes grammar limit first state stateChanged lines texts
    refreshed calls) : calls.Nodup :=
  refreshes.increasing.imp Nat.ne_of_lt

/-- Afterwards each line has the result of a call, or the tokens that it had before. -/
theorem eq_ofResult_or_mem (refreshes : Refreshes grammar limit first state stateChanged lines
    texts refreshed calls) {line : CachedLine} (member : line ∈ refreshed) :
    (∃ result, line = .ofResult result) ∨ line ∈ lines ∧ line.tokens.isSome := by
  obtain ⟨index, found⟩ := List.mem_iff_getElem?.mp member
  by_cases call : first + index ∈ calls
  · obtain ⟨text, -, resultEq⟩ := refreshes.tokenized index call
    exact .inl ⟨_, Option.some.inj (found.symm.trans resultEq)⟩
  · have kept := (refreshes.kept index call).symm.trans found
    rw [refreshes.calledIff index line kept, not_or] at call
    exact .inr ⟨List.mem_of_getElem? kept, Option.isSome_iff_ne_none.mpr call.1⟩

end Refreshes

/-- What the recorded loop does: behind the last line without tokens it may stop as soon as
the line above has got no new end state. -/
theorem refreshes_refreshM (grammar : Grammar) (limit : Nat) (state : State)
    (stateChanged : Bool) (lengthEq : lines.length = texts.length)
    (cleanBehind : ∀ (index : Nat) (stored : CachedLine), lastDirty < first + index →
      lines[index]? = some stored → stored.tokens.isSome) :
    let run :=
      (refreshM (record grammar limit) lastDirty first state stateChanged lines texts).run
    Refreshes grammar limit first state stateChanged lines texts run.1.1 run.2 ∧
      run.1.2 = run.2.length := by
  induction lines generalizing first state stateChanged texts with
  | nil =>
      cases texts with
      | nil => exact ⟨.nil, rfl⟩
      | cons => cases lengthEq
  | cons stored later ih =>
      cases texts with
      | nil => cases lengthEq
      | cons text texts =>
          have laterClean : ∀ (index : Nat) (other : CachedLine),
              lastDirty < first + 1 + index → later[index]? = some other →
                other.tokens.isSome :=
            fun index other behind found =>
              cleanBehind (index + 1) other (by omega) found
          have step (state : State) (stateChanged : Bool) :=
            @ih (first + 1) texts state stateChanged (Nat.succ.inj lengthEq) laterClean
          by_cases keeps : (!stateChanged && stored.tokens.isSome) = true
          · obtain ⟨unchanged, hasTokens⟩ : stateChanged = false ∧ stored.tokens.isSome := by
              simpa using keeps
            subst unchanged
            by_cases behind : lastDirty < first
            · rw [refreshM, if_pos keeps, if_pos behind]
              refine ⟨.clean fun other member => ?_, rfl⟩
              obtain ⟨index, found⟩ := List.mem_iff_getElem?.mp member
              exact cleanBehind index other (by omega) found
            · rw [refreshM_record_keep keeps behind]
              obtain ⟨rest, countEq⟩ := step (stored.endState.getD .initial) false
              exact ⟨rest.keep hasTokens, countEq⟩
          · rw [refreshM_record_tokenize keeps]
            have due : stored.tokens = none ∨ stateChanged = true := by
              cases stateChanged <;> simp_all
            obtain ⟨rest, countEq⟩ := step _ _
            exact ⟨rest.tokenize due, congrArg Nat.succ countEq⟩

theorem dirty_of_lastDirty? {last : Nat} (dirtyEq : CachedLine.lastDirty? lines = some last) :
    ∃ stored, lines[last]? = some stored ∧ stored.tokens = none := by
  induction lines generalizing last with
  | nil => cases dirtyEq
  | cons stored later ih =>
      unfold CachedLine.lastDirty? at dirtyEq
      split at dirtyEq
      · next line laterDirty =>
          obtain rfl := Option.some.inj dirtyEq
          exact ih laterDirty
      · split at dirtyEq
        · cases dirtyEq
        · next missing =>
            cases dirtyEq
            exact ⟨stored, rfl, Option.not_isSome_iff_eq_none.mp missing⟩

theorem length_fit (cache : TokenCache) (count : Nat) :
    (cache.fit count).lines.length = count := by
  simp [fit, lineCount]
  omega

theorem startState_eq_stateAbove (cache : TokenCache) (line : Nat) :
    cache.startState line = stateAbove .initial cache.lines line := by
  cases line <;> rfl

/-- An update is a run over all lines of the document: those before the first invalid one,
with which its loop starts, would only be passed over. -/
theorem refreshes_updateWith (grammar : Grammar) {cache : TokenCache}
    (clean : (cache.fit texts.length).CleanBefore) :
    Refreshes grammar cache.lineLimit 0 .initial false (cache.fit texts.length).lines texts
        (cache.updateWith grammar texts).1.lines (cache.tokenizedLines grammar texts) ∧
      (cache.updateWith grammar texts).2 = (cache.tokenizedLines grammar texts).length := by
  have lengthEq := cache.length_fit texts.length
  rw [← updateM_record_fst, tokenizedLines]
  cases dirty : CachedLine.lastDirty? (cache.fit texts.length).lines with
  | none =>
      rw [updateM_record_clean dirty]
      exact ⟨.clean (clean_of_lastDirty?_none dirty), rfl⟩
  | some lastDirty =>
      rw [updateM_record_dirty dirty]
      generalize cache.fit texts.length = fitted at clean lengthEq dirty
      obtain ⟨stored, found, missing⟩ := dirty_of_lastDirty? dirty
      have startLe : fitted.invalidFrom ≤ fitted.lines.length := by
        by_contra beyond
        have inside := (List.getElem?_eq_some_iff.mp found).1
        have hasTokens := clean lastDirty stored (by omega) found
        rw [missing] at hasTokens
        cases hasTokens
      have cleanLater : ∀ (index : Nat) (other : CachedLine),
          lastDirty < fitted.invalidFrom + index →
          (fitted.lines.drop fitted.invalidFrom)[index]? = some other → other.tokens.isSome := by
        intro index other later found
        rw [List.getElem?_drop] at found
        exact clean_behind_lastDirty dirty later found
      have laterLength : (fitted.lines.drop fitted.invalidFrom).length =
          (texts.drop fitted.invalidFrom).length := by
        rw [List.length_drop, List.length_drop, lengthEq]
      obtain ⟨behind, countEq⟩ := refreshes_refreshM grammar cache.lineLimit
        (fitted.startState fitted.invalidFrom) false laterLength cleanLater
      refine ⟨.prepend clean startLe lengthEq ?_, countEq⟩
      rw [Nat.zero_add, ← startState_eq_stateAbove]
      exact behind

end TokenCache

end Scopelight
