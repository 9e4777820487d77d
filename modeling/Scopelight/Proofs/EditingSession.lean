import Scopelight.Proofs.IncrementalUpdate
import Scopelight.Proofs.LoadedGrammar

/-!
# Editing sessions

A document and its cache change together: every edit of the text is reported to the cache,
and an update may find that lines were added or dropped at the end without a report.  At
any moment of such a session an update gives each line the tokens and the end state that
it has in a pass over the whole document.
-/

namespace Scopelight

open TokenCache

/-- A text and the cache of its lines. -/
structure EditingSession where
  texts : List (List Char)
  cache : TokenCache

/-- Lines were added, or dropped, at the end of a text. -/
def Resized (texts others : List (List Char)) : Prop :=
  texts <+: others ∨ others <+: texts

namespace EditingSession

/-- A text with a cache that knows nothing of it. -/
def start (lineLimit : Nat) (texts : List (List Char)) : EditingSession :=
  ⟨texts, .empty lineLimit⟩

/-- One change of a text with its report to the cache, or one update of the cache. -/
inductive Step (grammar : Grammar) : EditingSession → EditingSession → Prop
  | replaceLine (session : EditingSession) (line : Nat) (text : List Char) :
      Step grammar session
        ⟨session.texts.set line text, session.cache.invalidateLine line⟩
  | splice (session : EditingSession) (start removed : Nat) (inserted : List (List Char))
      (edited : TokenCache)
      (accepted : session.cache.editLines start removed inserted.length = .ok edited) :
      Step grammar session
        ⟨session.texts.take start ++ inserted ++ session.texts.drop (start + removed),
          edited⟩
  | rewriteFrom (session : EditingSession) (line : Nat) (texts : List (List Char))
      (lengthEq : texts.length = session.texts.length)
      (kept : texts.take line = session.texts.take line) :
      Step grammar session ⟨texts, session.cache.invalidateFrom line⟩
  | replaceAll (session : EditingSession) (texts : List (List Char)) :
      Step grammar session ⟨texts, session.cache.invalidateAll⟩
  | updateWithout (session : EditingSession) (texts : List (List Char))
      (resized : Resized session.texts texts) :
      Step grammar session ⟨texts, (session.cache.update none texts).1⟩
  | updateWith (session : EditingSession) (texts : List (List Char))
      (resized : Resized session.texts texts) :
      Step grammar session ⟨texts, (session.cache.update (some grammar) texts).1⟩

end EditingSession

namespace TokenCache

theorem editLines_lineLimit {cache edited : TokenCache} {start removed inserted : Nat}
    (accepted : cache.editLines start removed inserted = .ok edited) :
    edited.lineLimit = cache.lineLimit := by
  obtain ⟨-, rfl⟩ := editLines_eq_ok_iff.mp accepted
  rfl

theorem editLines_accepted (cache : TokenCache) {start removed : Nat} (inserted : Nat)
    (addressable : start + removed < wordSize) :
    ∃ edited, cache.editLines start removed inserted = .ok edited := by
  have clamped : min start cache.lineCount + removed < wordSize := by omega
  exact ⟨_, editLines_eq_ok_iff.mpr ⟨clamped, rfl⟩⟩

theorem Tracks.updateWith {grammar : Grammar} {cache : TokenCache}
    {texts others : List (List Char)} (tracks : Tracks grammar cache texts)
    (resized : Resized texts others) :
    Tracks grammar (cache.updateWith grammar others).1 others where
  cleanBefore := by
    intro line stored _ found
    rw [tracks.updateWith_lines resized, List.getElem?_map, Option.map_eq_some_iff] at found
    obtain ⟨result, -, rfl⟩ := found
    rfl
  coherentOrEmpty := by
    rw [tracks.updateWith_lines resized, updateWith_lineLimit]
    exact .inl (.of_passLines _ _)

end TokenCache

namespace EditingSession

variable {grammar : Grammar}

theorem Step.tracks {before after : EditingSession} (step : Step grammar before after)
    (tracks : Tracks grammar before.cache before.texts) :
    Tracks grammar after.cache after.texts := by
  cases step with
  | replaceLine line text => exact tracks.invalidateLine line text
  | splice start removed inserted edited accepted => exact tracks.editLines accepted
  | rewriteFrom line texts lengthEq kept => exact tracks.invalidateFrom lengthEq kept
  | replaceAll texts => exact .invalidateAll _ _
  | updateWithout texts resized => exact .invalidateAll _ _
  | updateWith texts resized => exact tracks.updateWith resized

theorem Step.lineLimit_eq {before after : EditingSession} (step : Step grammar before after) :
    after.cache.lineLimit = before.cache.lineLimit := by
  cases step with
  | splice start removed inserted edited accepted => exact editLines_lineLimit accepted
  | updateWith texts resized => exact updateWith_lineLimit _ _ _
  | replaceLine | rewriteFrom | replaceAll | updateWithout => rfl

theorem tracks_of_reaches {lineLimit : Nat} {texts : List (List Char)}
    {session : EditingSession}
    (reaches : Relation.ReflTransGen (Step grammar) (start lineLimit texts) session) :
    Tracks grammar session.cache session.texts ∧
      session.cache.lineLimit = max lineLimit 1 := by
  induction reaches with
  | refl => exact ⟨.empty _ _, rfl⟩
  | tail _ step ih => exact ⟨step.tracks ih.1, step.lineLimit_eq.trans ih.2⟩

/-- After any session, an update leaves exactly the tokens and the end states of a pass over
the whole text, and no line is left to do.  In a session no edit is refused whose lines
have numbers of 64 bits. -/
theorem update_eq_runPass {lineLimit : Nat} {initial : List (List Char)}
    {session : EditingSession}
    (reaches : Relation.ReflTransGen (Step grammar) (start lineLimit initial) session) :
    (∀ start removed inserted, start + removed < wordSize →
      ∃ edited, session.cache.editLines start removed inserted = .ok edited) ∧
    ∀ texts, Resized session.texts texts → ∀ ticket : PassTicket,
      let updated := (session.cache.update (some grammar) texts).1
      let pass := runPass grammar texts lineLimit ticket
      updated.lineCount = texts.length ∧ updated.isDirty = false ∧
        pass.lines.length = texts.length ∧
        ∀ (line : Nat) (result : LineTokens), pass.lines[line]? = some result →
          updated.tokens line = result.tokens ∧
            updated.endState? line = some result.endState := by
  refine ⟨fun start removed inserted => session.cache.editLines_accepted inserted, ?_⟩
  intro texts resized ticket updated pass
  obtain ⟨tracks, lineLimitEq⟩ := tracks_of_reaches reaches
  have linesEq : updated.lines = pass.lines.map .ofResult := by
    change (session.cache.updateWith grammar texts).1.lines = _
    rw [tracks.updateWith_lines resized, lineLimitEq]
    rfl
  have passLength : pass.lines.length = texts.length := length_passLines _ _
  have sameLineCount : updated.lineCount = texts.length := by
    rw [lineCount, linesEq, List.length_map, passLength]
  refine ⟨sameLineCount, ?_, passLength, ?_⟩
  · have upToDate : updated.invalidFrom = texts.length :=
      updateWith_invalidFrom _ _ _
    simp [isDirty, sameLineCount, upToDate]
  · intro line result found
    have stored : updated.lines[line]? = some (.ofResult result) := by
      rw [linesEq, List.getElem?_map, found, Option.map_some]
    exact ⟨by simp [tokens, stored, CachedLine.ofResult],
      by simp [endState?, stored, CachedLine.ofResult]⟩

/-- A session over a small grammar: an update, a line replaced, two lines put in the place of
another, and then an update that finds one more line. -/
theorem markDocument_session :
    ∃ grammar, Grammar.ofDocument .standard true markDocument = .ok grammar ∧
      ∃ session : EditingSession,
        Relation.ReflTransGen (Step grammar) (start 80 [['<', 'a'], ['a', '>']]) session ∧
        session.texts = [['a'], ['<'], ['a']] ∧
        let texts := session.texts ++ [['>']]
        let updated := (session.cache.update (some grammar) texts).1
        updated.lineCount = 4 ∧ updated.isDirty = false ∧
          ∀ line result, (runPass grammar texts 80 ⟨0⟩).lines[line]? = some result →
            updated.tokens line = result.tokens ∧
              updated.endState? line = some result.endState := by
  obtain ⟨grammar, loaded, -⟩ := markDocument_loads
  have updated : Step grammar (start 80 [['<', 'a'], ['a', '>']]) _ :=
    .updateWith _ [['<', 'a'], ['a', '>']] (.inl (List.prefix_refl _))
  obtain ⟨edited, accepted⟩ := TokenCache.editLines_accepted
    (((start 80 [['<', 'a'], ['a', '>']]).cache.update (some grammar)
      [['<', 'a'], ['a', '>']]).1.invalidateLine 0) 2 (show 1 + 1 < wordSize by decide)
  have replaced := (Relation.ReflTransGen.single updated).tail (.replaceLine _ 0 ['a'])
  have reaches := replaced.tail (.splice _ 1 1 [['<'], ['a']] edited accepted)
  obtain ⟨sameLineCount, clean, -, same⟩ :=
    (update_eq_runPass reaches).2 [['a'], ['<'], ['a'], ['>']]
      (.inl ⟨[['>']], rfl⟩) ⟨0⟩
  exact ⟨grammar, loaded, _, reaches, rfl, sameLineCount, clean, same⟩

end EditingSession

end Scopelight
