import Mathlib.Logic.Relation
import Scopelight.TokenCache

/-!
# Incremental updates

An edit leaves some lines of a cache without tokens, but every line keeps the end state
that it had.  A stored result is therefore right relative to the end state that is stored
for the line above it.  This relation survives edits, insertions and deletions, and an
update that starts from it computes the results of a pass over the whole document.
-/

namespace Scopelight

namespace TokenCache

variable {grammar : Grammar} {limit : Nat}

/-- The stored lines belong to the texts one by one, and tokens that are stored for a line
are those that it has after the end state stored above it.  Nothing is said of a line
above which no end state is known. -/
def Coherent (grammar : Grammar) (limit : Nat) :
    Option State → List CachedLine → List (List Char) → Prop
  | _, [], [] => True
  | above, stored :: later, text :: texts =>
      (∀ state, stored.tokens.isSome → above = some state →
        stored = .ofResult (grammar.tokenizeLineLimited limit text state)) ∧
      Coherent grammar limit stored.endState later texts
  | _, _, _ => False

attribute [simp] Coherent

/-- The end state that is stored above the line after some lines. -/
def stateAfter (above : Option State) (lines : List CachedLine) : Option State :=
  lines.foldl (fun _ line => line.endState) above

theorem stateAfter_replicate (count : Nat) :
    stateAfter none (List.replicate count .empty) = none := by
  induction count with
  | zero => rfl
  | succ count ih => simpa [stateAfter, List.replicate_succ, CachedLine.empty] using ih

namespace Coherent

theorem length_eq {above : Option State} {lines : List CachedLine}
    {texts : List (List Char)} (coherent : Coherent grammar limit above lines texts) :
    lines.length = texts.length := by
  induction lines generalizing above texts with
  | nil => cases texts <;> simp_all [Coherent]
  | cons stored later ih =>
      cases texts with
      | nil => simp [Coherent] at coherent
      | cons text texts => simpa using ih coherent.2

/-- Without the end state above, nothing is asked of the first line. -/
theorem forget {above : Option State} {lines : List CachedLine}
    {texts : List (List Char)} (coherent : Coherent grammar limit above lines texts) :
    Coherent grammar limit none lines texts := by
  cases lines <;> cases texts <;> simp_all [Coherent]

/-- A first line without tokens may follow any end state. -/
theorem modifyHead {above : Option State} {lines : List CachedLine}
    {texts : List (List Char)} (coherent : Coherent grammar limit above lines texts)
    (other : Option State) :
    Coherent grammar limit other (lines.modifyHead CachedLine.invalidate) texts := by
  cases lines <;> cases texts <;>
    simp_all [Coherent, CachedLine.invalidate]

theorem append_iff {above : Option State} {first second : List CachedLine}
    {texts others : List (List Char)} (lengthEq : first.length = texts.length) :
    Coherent grammar limit above (first ++ second) (texts ++ others) ↔
      Coherent grammar limit above first texts ∧
        Coherent grammar limit (stateAfter above first) second others := by
  induction first generalizing above texts with
  | nil =>
      cases texts with
      | nil => simp [Coherent, stateAfter]
      | cons text texts => simp at lengthEq
  | cons stored later ih =>
      cases texts with
      | nil => simp at lengthEq
      | cons text texts =>
          have lengths : later.length = texts.length := by simpa using lengthEq
          have step := @ih stored.endState texts lengths
          simp only [List.cons_append, Coherent, step, stateAfter, List.foldl_cons,
            and_assoc]

theorem of_forall_empty {above : Option State} {lines : List CachedLine}
    {texts : List (List Char)} (empty : ∀ line ∈ lines, line = .empty)
    (lengthEq : lines.length = texts.length) :
    Coherent grammar limit above lines texts := by
  induction lines generalizing above texts with
  | nil => cases texts <;> simp_all [Coherent]
  | cons stored later ih =>
      cases texts with
      | nil => simp at lengthEq
      | cons text texts =>
          have known : stored = .empty := empty stored (by simp)
          refine ⟨?_, ih (fun line member => empty line (by simp [member]))
            (by simpa using lengthEq)⟩
          simp [known, CachedLine.empty]

theorem of_passLines (state : State) (texts : List (List Char)) :
    Coherent grammar limit (some state)
      ((passLines grammar limit state texts).map .ofResult) texts := by
  induction texts generalizing state with
  | nil => simp [passLines, Coherent]
  | cons text texts ih =>
      refine ⟨?_, ih _⟩
      rintro _ _ ⟨rfl⟩
      rfl

/-- The text of one line changes, and the line loses its tokens. -/
theorem set_modify {above : Option State} {lines : List CachedLine}
    {texts : List (List Char)} (coherent : Coherent grammar limit above lines texts)
    (line : Nat) (text : List Char) :
    Coherent grammar limit above (lines.modify line CachedLine.invalidate)
      (texts.set line text) := by
  induction lines generalizing above texts line with
  | nil => cases texts <;> simp_all [Coherent]
  | cons stored later ih =>
      cases texts with
      | nil => simp [Coherent] at coherent
      | cons head texts =>
          cases line with
          | zero => exact ⟨by simp [CachedLine.invalidate], coherent.2⟩
          | succ line => exact ⟨coherent.1, ih coherent.2 line⟩

/-- The texts from a line on change, and these lines lose their tokens. -/
theorem rewriteFrom {above : Option State} {lines : List CachedLine}
    {texts others : List (List Char)} (coherent : Coherent grammar limit above lines texts)
    {line : Nat} (lengthEq : others.length = texts.length)
    (kept : others.take line = texts.take line) :
    Coherent grammar limit above
      (lines.take line ++ (lines.drop line).map CachedLine.invalidate) others := by
  induction lines generalizing above texts others line with
  | nil =>
      cases texts <;> cases others <;> simp_all [Coherent]
  | cons stored later ih =>
      cases texts with
      | nil => simp [Coherent] at coherent
      | cons text texts =>
          cases others with
          | nil => simp at lengthEq
          | cons other others =>
              have lengths : others.length = texts.length := by simpa using lengthEq
              cases line with
              | zero =>
                  exact ⟨by simp [CachedLine.invalidate], ih coherent.2 lengths
                    (rfl : others.take 0 = texts.take 0)⟩
              | succ line =>
                  simp only [List.take_succ_cons, List.cons.injEq] at kept
                  obtain ⟨rfl, kept⟩ := kept
                  exact ⟨coherent.1, ih coherent.2 lengths kept⟩

theorem take_drop {above : Option State} {lines : List CachedLine}
    {texts : List (List Char)} (coherent : Coherent grammar limit above lines texts)
    (count : Nat) :
    Coherent grammar limit above (lines.take count) (texts.take count) ∧
      Coherent grammar limit (stateAfter above (lines.take count)) (lines.drop count)
        (texts.drop count) := by
  have lengths : (lines.take count).length = (texts.take count).length := by
    simp [coherent.length_eq]
  rw [← append_iff lengths, List.take_append_drop, List.take_append_drop]
  exact coherent

/-- Some lines are replaced by new ones, of which nothing is known, and the line at the
place of the edit loses its tokens.  If lines were inserted, the line after them follows
one without an end state; if not, it is the one that loses its tokens. -/
theorem splice {above : Option State} {lines : List CachedLine}
    {texts : List (List Char)} (coherent : Coherent grammar limit above lines texts)
    (first last : Nat) (firstLe : first ≤ lines.length) (inserted : List (List Char)) :
    Coherent grammar limit above
      ((lines.take first ++ List.replicate inserted.length CachedLine.empty ++
        lines.drop last).modify first CachedLine.invalidate)
      (texts.take first ++ inserted ++ texts.drop last) := by
  have before := (coherent.take_drop first).1
  have behind := (coherent.take_drop last).2
  have taken : (lines.take first).length = first := List.length_take_of_le firstLe
  rw [List.append_assoc, List.modify_eq_take_drop, List.take_left' taken,
    List.drop_left' taken, List.append_assoc, append_iff before.length_eq]
  refine ⟨before, ?_⟩
  cases inserted with
  | nil => simpa using behind.modifyHead _
  | cons text inserted =>
      rw [List.length_cons, List.replicate_succ, List.cons_append, List.modifyHead_cons,
        List.cons_append]
      refine ⟨by simp [CachedLine.invalidate], ?_⟩
      have fresh : Coherent grammar limit none
          (List.replicate inserted.length .empty) inserted :=
        of_forall_empty (fun line member => List.eq_of_mem_replicate member) (by simp)
      have follows : Coherent grammar limit
          (stateAfter none (List.replicate inserted.length .empty)) (lines.drop last)
          (texts.drop last) := by
        rw [stateAfter_replicate]
        exact behind.forget
      exact (append_iff fresh.length_eq).mpr ⟨fresh, follows⟩

/-- Lines are added without results, or dropped, at the end. -/
theorem resize {above : Option State} {lines : List CachedLine}
    {texts others : List (List Char)} (coherent : Coherent grammar limit above lines texts)
    (resized : texts <+: others ∨ others <+: texts) :
    Coherent grammar limit above
      (lines.take others.length ++
        List.replicate (others.length - lines.length) CachedLine.empty) others := by
  rcases resized with ⟨added, rfl⟩ | ⟨dropped, rfl⟩
  · have fresh : Coherent grammar limit (stateAfter above lines)
        (List.replicate added.length .empty) added :=
      of_forall_empty (fun line member => List.eq_of_mem_replicate member) (by simp)
    simpa [coherent.length_eq, List.take_of_length_le] using
      (append_iff coherent.length_eq).mpr ⟨coherent, fresh⟩
  · have kept := (coherent.take_drop others.length).1
    simpa [coherent.length_eq] using kept

end Coherent

/-- Lines that all have tokens are those of a pass. -/
theorem Coherent.eq_passLines {state : State} {lines : List CachedLine}
    {texts : List (List Char)} (coherent : Coherent grammar limit (some state) lines texts)
    (clean : ∀ stored ∈ lines, stored.tokens.isSome) :
    lines = (passLines grammar limit state texts).map .ofResult := by
  induction lines generalizing state texts with
  | nil => cases texts <;> simp_all [Coherent, passLines]
  | cons stored later ih =>
      cases texts with
      | nil => simp [Coherent] at coherent
      | cons text texts =>
          have storedEq := coherent.1 state (clean stored List.mem_cons_self) rfl
          have rest := coherent.2
          rw [storedEq] at rest
          have laterEq := ih rest fun other member =>
            clean other (List.mem_cons_of_mem _ member)
          rw [passLines, List.map_cons, ← laterEq, ← storedEq]

theorem clean_of_lastDirty?_none {lines : List CachedLine}
    (noneDirty : CachedLine.lastDirty? lines = none) :
    ∀ stored ∈ lines, stored.tokens.isSome := by
  induction lines with
  | nil => simp
  | cons first later ih =>
      unfold CachedLine.lastDirty? at noneDirty
      split at noneDirty
      · cases noneDirty
      · next laterClean =>
          have firstClean : first.tokens.isSome := by
            split at noneDirty
            · next firstClean => exact firstClean
            · cases noneDirty
          exact List.forall_mem_cons.mpr ⟨firstClean, ih laterClean⟩

theorem clean_behind_lastDirty {lines : List CachedLine} {last : Nat}
    (dirtyEq : CachedLine.lastDirty? lines = some last) {line : Nat}
    {stored : CachedLine} (behind : last < line) (found : lines[line]? = some stored) :
    stored.tokens.isSome := by
  induction lines generalizing last line with
  | nil => cases found
  | cons first later ih =>
      cases line with
      | zero => omega
      | succ line =>
          unfold CachedLine.lastDirty? at dirtyEq
          split at dirtyEq
          · next laterLast laterDirty =>
              obtain rfl := Option.some.inj dirtyEq
              exact ih laterDirty (Nat.lt_of_succ_lt_succ behind) found
          · next laterClean =>
              exact clean_of_lastDirty?_none laterClean stored (List.mem_of_getElem? found)

/-- Lines that are tokenized where needed get the results of a pass.  As long as no end
state has changed, the present state is the one stored above the next line, so tokens that
are stored for it may stay, and behind the last line without tokens all of them may. -/
theorem refresh_eq_passLines {above : Option State} {lines : List CachedLine}
    {texts : List (List Char)} {lastDirty line : Nat} {state : State} {stateChanged : Bool}
    (coherent : Coherent grammar limit above lines texts)
    (same : stateChanged = false → above = some state)
    (cleanBehind : ∀ (index : Nat) (stored : CachedLine), lastDirty < line + index →
      lines[index]? = some stored → stored.tokens.isSome) :
    (refresh grammar limit lastDirty line state stateChanged lines texts).1 =
      (passLines grammar limit state texts).map .ofResult := by
  -- After a change the stored state above is not the present one, but then the next line is
  -- tokenized again, and what is stored for it only decides whether the change goes on.
  induction lines generalizing above texts line state stateChanged with
  | nil => cases texts <;> simp_all [Coherent, refresh, passLines]
  | cons stored later ih =>
      cases texts with
      | nil => simp [Coherent] at coherent
      | cons text texts =>
          have laterClean : ∀ (index : Nat) (other : CachedLine),
              lastDirty < line + 1 + index → later[index]? = some other →
                other.tokens.isSome :=
            fun index other behind found =>
              cleanBehind (index + 1) other (by omega) found
          by_cases keeps : (!stateChanged && stored.tokens.isSome) = true
          · have unchanged : stateChanged = false := by simp_all
            have aboveEq := same unchanged
            rw [refresh, if_pos keeps]
            split
            case isTrue behind =>
              subst aboveEq
              apply coherent.eq_passLines
              intro other member
              obtain ⟨index, found⟩ := List.mem_iff_getElem?.mp member
              exact cleanBehind index other (by omega) found
            case isFalse =>
              have storedEq := coherent.1 state (by simp_all) aboveEq
              have follows : false = false → stored.endState =
                  some (grammar.tokenizeLineLimited limit text state).endState := by
                simp [storedEq, CachedLine.ofResult]
              have rest := ih coherent.2 follows laterClean
              simpa [passLines, storedEq, CachedLine.ofResult] using rest
          · have follows : decide (stored.endState ≠
                some (grammar.tokenizeLineLimited limit text state).endState) = false →
                stored.endState =
                  some (grammar.tokenizeLineLimited limit text state).endState := by
              simp
            have rest := ih coherent.2 follows laterClean
            rw [refresh, if_neg keeps]
            simpa [passLines] using rest

/-- Lines before the first invalid one have tokens. -/
def CleanBefore (cache : TokenCache) : Prop :=
  ∀ (line : Nat) (stored : CachedLine), line < cache.invalidFrom →
    cache.lines[line]? = some stored → stored.tokens.isSome

theorem CleanBefore.fit {cache : TokenCache} (clean : cache.CleanBefore) (count : Nat) :
    (cache.fit count).CleanBefore := by
  intro line stored before found
  simp only [TokenCache.fit] at before found
  by_cases grows : cache.lineCount < count
  · rw [if_pos grows] at before
    have stands : line < cache.lines.length := by
      simp only [lineCount] at before
      omega
    rw [List.take_of_length_le (Nat.le_of_lt grows), List.getElem?_append_left stands]
      at found
    exact clean line stored (by omega) found
  · rw [if_neg grows] at before
    rw [Nat.sub_eq_zero_of_le (by omega), List.replicate_zero, List.append_nil,
      List.getElem?_take] at found
    split at found
    · exact clean line stored before found
    · simp at found

/-- What the operations on a cache keep true of it and the texts of its document: the
lines before the first invalid one have tokens, and the lines agree with the texts, unless
nothing is known about any of them. -/
structure Tracks (grammar : Grammar) (cache : TokenCache) (texts : List (List Char)) :
    Prop where
  cleanBefore : ∀ (line : Nat) (stored : CachedLine), line < cache.invalidFrom →
    cache.lines[line]? = some stored → stored.tokens.isSome
  coherentOrEmpty :
    Coherent grammar cache.lineLimit (some .initial) cache.lines texts ∨
      ∀ stored ∈ cache.lines, stored = .empty

namespace Tracks

variable {cache : TokenCache} {texts : List (List Char)}

theorem empty (lineLimit : Nat) (texts : List (List Char)) :
    Tracks grammar (.empty lineLimit) texts where
  cleanBefore := by simp [TokenCache.empty]
  coherentOrEmpty := .inr (by simp [TokenCache.empty])

theorem invalidateAll (cache : TokenCache) (texts : List (List Char)) :
    Tracks grammar cache.invalidateAll texts where
  cleanBefore := by simp [TokenCache.invalidateAll]
  coherentOrEmpty := .inr (by simp [TokenCache.invalidateAll])

private theorem forall_modify_empty {lines : List CachedLine}
    (empty : ∀ stored ∈ lines, stored = .empty) (line : Nat) :
    ∀ stored ∈ lines.modify line CachedLine.invalidate, stored = .empty := by
  intro stored member
  obtain ⟨index, found⟩ := List.mem_iff_getElem?.mp member
  rw [List.getElem?_modify, Option.map_eq_map, Option.map_eq_some_iff] at found
  obtain ⟨old, atIndex, rfl⟩ := found
  rw [empty old (List.mem_of_getElem? atIndex)]
  split <;> rfl

private theorem clean_before_modify {lines : List CachedLine} {invalidFrom line : Nat}
    (clean : ∀ (index : Nat) (stored : CachedLine), index < invalidFrom → index < line →
      lines[index]? = some stored → stored.tokens.isSome) :
    ∀ (index : Nat) (stored : CachedLine), index < min invalidFrom line →
      (lines.modify line CachedLine.invalidate)[index]? = some stored →
        stored.tokens.isSome := by
  intro index stored before found
  rw [List.getElem?_modify_ne _ _ (by omega)] at found
  exact clean index stored (by omega) (by omega) found

theorem invalidateLine (tracks : Tracks grammar cache texts) (line : Nat)
    (text : List Char) :
    Tracks grammar (cache.invalidateLine line) (texts.set line text) where
  cleanBefore :=
    clean_before_modify fun index stored before _ => tracks.cleanBefore index stored before
  coherentOrEmpty :=
    tracks.coherentOrEmpty.imp (fun coherent => coherent.set_modify line text)
      (fun empty => forall_modify_empty empty line)

theorem invalidateFrom (tracks : Tracks grammar cache texts) {line : Nat}
    {others : List (List Char)} (lengthEq : others.length = texts.length)
    (kept : others.take line = texts.take line) :
    Tracks grammar (cache.invalidateFrom line) others where
  cleanBefore := by
    intro index stored before found
    have inside : index < line ∧ index < cache.invalidFrom := by
      simp only [TokenCache.invalidateFrom] at before
      omega
    apply tracks.cleanBefore index stored inside.2
    simp only [TokenCache.invalidateFrom] at found
    rcases Nat.lt_or_ge index cache.lines.length with stands | beyond
    · rw [List.getElem?_append_left (by simp; omega), List.getElem?_take_of_lt inside.1]
        at found
      exact found
    · rw [List.drop_eq_nil_of_le (by omega), List.take_of_length_le (by omega)] at found
      simpa using found
  coherentOrEmpty := by
    refine tracks.coherentOrEmpty.imp
      (fun coherent => coherent.rewriteFrom lengthEq kept) ?_
    intro empty stored member
    rcases List.mem_append.mp member with early | late
    · exact empty stored (List.mem_of_mem_take early)
    · obtain ⟨old, oldMem, rfl⟩ := List.mem_map.mp late
      rw [empty old (List.mem_of_mem_drop oldMem)]
      rfl

/-- The lines that an edit replaces are the same as those of the text, which ends where the
cache does. -/
private theorem take_drop_clamped (texts : List (List Char)) (start removed : Nat) :
    texts.take (min start texts.length) = texts.take start ∧
      texts.drop (min (min start texts.length + removed) texts.length) =
        texts.drop (start + removed) := by
  constructor
  · rcases Nat.le_total start texts.length with inside | beyond
    · rw [Nat.min_eq_left inside]
    · rw [Nat.min_eq_right beyond, List.take_of_length_le (Nat.le_refl _),
        List.take_of_length_le beyond]
  · rcases Nat.le_total (start + removed) texts.length with inside | beyond
    · rw [Nat.min_eq_left (by omega : start ≤ texts.length), Nat.min_eq_left inside]
    · rw [Nat.min_eq_right (by omega), List.drop_of_length_le (Nat.le_refl _),
        List.drop_of_length_le beyond]

theorem editLines (tracks : Tracks grammar cache texts) {start removed : Nat}
    {inserted : List (List Char)} {edited : TokenCache}
    (accepted : cache.editLines start removed inserted.length = .ok edited) :
    Tracks grammar edited
      (texts.take start ++ inserted ++ texts.drop (start + removed)) := by
  obtain ⟨-, rfl⟩ := editLines_eq_ok_iff.mp accepted
  refine ⟨clean_before_modify ?_, ?_⟩
  · intro index stored before inside found
    have stands : index < min start cache.lineCount := inside
    rw [List.append_assoc, List.getElem?_append_left (by simp [lineCount] at *; omega),
      List.getElem?_take_of_lt stands] at found
    exact tracks.cleanBefore index stored before found
  · refine tracks.coherentOrEmpty.imp (fun coherent => ?_) (fun empty => ?_)
    · have lengths : cache.lineCount = texts.length := coherent.length_eq
      have spliced := coherent.splice (min start cache.lineCount)
        (min (min start cache.lineCount + removed) cache.lineCount)
        (Nat.min_le_right _ _) inserted
      rw [lengths, (take_drop_clamped texts start removed).1,
        (take_drop_clamped texts start removed).2, ← lengths] at spliced
      exact spliced
    · refine forall_modify_empty (fun stored member => ?_) _
      simp only [List.mem_append] at member
      rcases member with (early | fresh) | late
      · exact empty stored (List.mem_of_mem_take early)
      · exact List.eq_of_mem_replicate fresh
      · exact empty stored (List.mem_of_mem_drop late)

theorem fit (tracks : Tracks grammar cache texts) {others : List (List Char)}
    (resized : texts <+: others ∨ others <+: texts) :
    (∀ (line : Nat) (stored : CachedLine), line < (cache.fit others.length).invalidFrom →
      (cache.fit others.length).lines[line]? = some stored → stored.tokens.isSome) ∧
    Coherent grammar cache.lineLimit (some .initial) (cache.fit others.length).lines
      others := by
  refine ⟨CleanBefore.fit tracks.cleanBefore others.length, ?_⟩
  rcases tracks.coherentOrEmpty with coherent | empty
  · exact coherent.resize resized
  · refine .of_forall_empty ?_ (by simp [TokenCache.fit, lineCount]; omega)
    intro stored member
    rcases List.mem_append.mp member with old | added
    · exact empty stored (List.mem_of_mem_take old)
    · exact List.eq_of_mem_replicate added

end Tracks

/-- Lines with tokens that stand before the first invalid one are those of a pass. -/
theorem Coherent.take_eq_passLines {state : State} {lines : List CachedLine}
    {texts : List (List Char)} (coherent : Coherent grammar limit (some state) lines texts)
    {count : Nat} (clean : ∀ (line : Nat) (stored : CachedLine), line < count →
      lines[line]? = some stored → stored.tokens.isSome) :
    lines.take count =
      (passLines grammar limit state (texts.take count)).map .ofResult := by
  refine (coherent.take_drop count).1.eq_passLines fun stored member => ?_
  obtain ⟨line, found⟩ := List.mem_iff_getElem?.mp member
  rw [List.getElem?_take] at found
  split at found
  · next before => exact clean line stored before found
  · cases found

/-- The state after the lines of a text. -/
def passEnd (grammar : Grammar) (limit : Nat) (state : State) (texts : List (List Char)) :
    State :=
  texts.foldl (fun state text => (grammar.tokenizeLineLimited limit text state).endState)
    state

theorem length_passLines (state : State) (texts : List (List Char)) :
    (passLines grammar limit state texts).length = texts.length := by
  induction texts generalizing state with
  | nil => rfl
  | cons text texts ih => simp [passLines, ih]

theorem passLines_append (state : State) (first second : List (List Char)) :
    passLines grammar limit state (first ++ second) =
      passLines grammar limit state first ++
        passLines grammar limit (passEnd grammar limit state first) second := by
  induction first generalizing state with
  | nil => rfl
  | cons text first ih => simp [passLines, ih, passEnd]

theorem stateAfter_passLines (state : State) (texts : List (List Char)) :
    stateAfter (some state) ((passLines grammar limit state texts).map .ofResult) =
      some (passEnd grammar limit state texts) := by
  induction texts generalizing state with
  | nil => rfl
  | cons text texts ih => exact ih _

theorem startState_eq {cache : TokenCache} {line : Nat} {state : State}
    (inside : line ≤ cache.lines.length)
    (known : stateAfter (some .initial) (cache.lines.take line) = some state) :
    cache.startState line = state := by
  cases line with
  | zero => simpa [stateAfter, startState] using known
  | succ previous =>
      have found : cache.lines[previous]? = some cache.lines[previous] :=
        List.getElem?_eq_getElem inside
      rw [List.take_add_one, found] at known
      have stored : cache.lines[previous].endState = some state := by
        rw [stateAfter, List.foldl_append] at known
        exact known
      simp [startState, endState?, found, stored]

@[simp]
theorem updateWith_lineLimit (cache : TokenCache) (grammar : Grammar)
    (texts : List (List Char)) :
    (cache.updateWith grammar texts).1.lineLimit = cache.lineLimit := by
  simp only [updateWith]
  split <;> rfl

@[simp]
theorem updateWith_invalidFrom (cache : TokenCache) (grammar : Grammar)
    (texts : List (List Char)) :
    (cache.updateWith grammar texts).1.invalidFrom = texts.length := by
  simp only [updateWith]
  split <;> rfl

/-- An update leaves the results of a pass, whatever the cache held of the texts before. -/
theorem Tracks.updateWith_lines {cache : TokenCache} {texts others : List (List Char)}
    (tracks : Tracks grammar cache texts)
    (resized : texts <+: others ∨ others <+: texts) :
    (cache.updateWith grammar others).1.lines =
      (passLines grammar cache.lineLimit .initial others).map .ofResult := by
  obtain ⟨clean, coherent⟩ := tracks.fit resized
  have storedEq := coherent.take_eq_passLines clean
  simp only [updateWith]
  generalize cache.fit others.length = fitted at clean coherent storedEq ⊢
  split
  case h_1 noneDirty => exact coherent.eq_passLines (clean_of_lastDirty?_none noneDirty)
  case h_2 lastDirty dirtyEq =>
    rcases Nat.lt_or_ge fitted.lines.length fitted.invalidFrom with beyond | inside
    · -- Every line has its tokens, so the pass over the rest has nothing to do.
      rw [List.take_of_length_le (by omega), List.take_of_length_le
        (by rw [← coherent.length_eq]; omega)] at storedEq
      rw [List.drop_eq_nil_of_le (by omega), List.take_of_length_le (by omega),
        List.drop_eq_nil_of_le (by rw [← coherent.length_eq]; omega)]
      simpa [refresh] using storedEq
    · have known : stateAfter (some .initial) (fitted.lines.take fitted.invalidFrom) =
          some (passEnd grammar cache.lineLimit .initial (others.take fitted.invalidFrom)) := by
        rw [storedEq]
        exact stateAfter_passLines _ _
      have behind := (coherent.take_drop fitted.invalidFrom).2
      rw [known] at behind
      have cleanBehind : ∀ (index : Nat) (stored : CachedLine),
          lastDirty < fitted.invalidFrom + index →
          (fitted.lines.drop fitted.invalidFrom)[index]? = some stored →
            stored.tokens.isSome := by
        intro index stored later found
        rw [List.getElem?_drop] at found
        exact clean_behind_lastDirty dirtyEq later found
      have refreshed := refresh_eq_passLines behind (fun _ : false = false => rfl) cleanBehind
      calc
        _ = (passLines grammar cache.lineLimit .initial
                (others.take fitted.invalidFrom)).map CachedLine.ofResult ++
              (passLines grammar cache.lineLimit
                (passEnd grammar cache.lineLimit .initial (others.take fitted.invalidFrom))
                (others.drop fitted.invalidFrom)).map CachedLine.ofResult := by
            rw [← refreshed, ← storedEq, startState_eq inside known]
        _ = _ := by
            rw [← List.map_append, ← passLines_append, List.take_append_drop]

end TokenCache

end Scopelight
