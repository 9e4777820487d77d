import Scopelight.Proofs.EditingSession

/-!
# Passes on the side

While a document goes on changing, its text may be tokenized on the side by passes whose
results are committed later.  A ticket is current as long as no edit has been reported and
no newer ticket issued since.  A pass with a current ticket is installed, and the cache
then has the results of the text that the pass ran over.  This is the text that the document
was given last, unless an update or another pass has found lines added or dropped at the
end of it: such a change has no report, and the tickets do not take note of it.
-/

namespace Scopelight

open TokenCache

namespace TokenCache

/-- A report to a cache that lines of its document have changed. -/
inductive Report : TokenCache → TokenCache → Prop
  | line (cache : TokenCache) (line : Nat) : Report cache (cache.invalidateLine line)
  | onward (cache : TokenCache) (line : Nat) : Report cache (cache.invalidateFrom line)
  | all (cache : TokenCache) : Report cache cache.invalidateAll
  | splice {cache edited : TokenCache} (start removed inserted : Nat)
      (accepted : cache.editLines start removed inserted = .ok edited) : Report cache edited

/-- A cache has the results of a pass over a text, and no others. -/
structure Holds (grammar : Grammar) (cache : TokenCache) (texts : List (List Char)) :
    Prop where
  lineCountEq : cache.lineCount = texts.length
  resultsEq : ∀ (line : Nat) (result : LineTokens),
    (passLines grammar cache.lineLimit .initial texts)[line]? = some result →
      cache.tokens line = result.tokens ∧ cache.endState? line = some result.endState

variable {grammar : Grammar} {cache : TokenCache}

theorem Report.generation_eq {edited : TokenCache} (reported : Report cache edited) :
    edited.generation = cache.generation + 1 := by
  cases reported with
  | line | onward | all => rfl
  | splice start removed inserted accepted =>
      obtain ⟨-, rfl⟩ := editLines_eq_ok_iff.mp accepted
      rfl

theorem Report.lineLimit_eq {edited : TokenCache} (reported : Report cache edited) :
    edited.lineLimit = cache.lineLimit := by
  cases reported with
  | line | onward | all => rfl
  | splice start removed inserted accepted => exact editLines_lineLimit accepted

@[simp]
theorem updateWith_generation (cache : TokenCache) (grammar : Grammar)
    (texts : List (List Char)) :
    (cache.updateWith grammar texts).1.generation = cache.generation := by
  simp only [updateWith]
  split <;> rfl

@[simp]
theorem commit_generation (cache : TokenCache) (pass : DocumentPass) :
    (cache.commit pass).1.generation = cache.generation := by
  unfold commit
  split <;> rfl

@[simp]
theorem commit_lineLimit (cache : TokenCache) (pass : DocumentPass) :
    (cache.commit pass).1.lineLimit = cache.lineLimit := by
  unfold commit
  split <;> rfl

theorem commit_installs_iff {pass : DocumentPass} :
    (cache.commit pass).2 = true ↔ pass.ticket.generation = cache.generation := by
  unfold commit
  split <;> simp_all

theorem commit_lines {pass : DocumentPass} (installed : (cache.commit pass).2 = true) :
    (cache.commit pass).1.lines = pass.lines.map .ofResult := by
  rw [commit, if_pos (commit_installs_iff.mp installed)]

theorem holds_of_lines {texts : List (List Char)}
    (linesEq : cache.lines =
      (passLines grammar cache.lineLimit .initial texts).map .ofResult) :
    cache.Holds grammar texts where
  lineCountEq := by rw [lineCount, linesEq, List.length_map, length_passLines]
  resultsEq := by
    intro line result found
    have stored : cache.lines[line]? = some (.ofResult result) := by
      rw [linesEq, List.getElem?_map, found, Option.map_some]
    exact ⟨by simp [tokens, stored, CachedLine.ofResult],
      by simp [endState?, stored, CachedLine.ofResult]⟩

end TokenCache

theorem Resized.eq_of_length {texts others : List (List Char)}
    (resized : Resized texts others) (lengthEq : others.length = texts.length) :
    others = texts := by
  rcases resized with longer | shorter
  · exact (longer.eq_of_length lengthEq.symm).symm
  · exact shorter.eq_of_length lengthEq

/-- A document with its cache, and the passes over it. -/
structure PassSession where
  texts : List (List Char)
  cache : TokenCache
  /-- The text that was given to the latest update or pass. -/
  given : List (List Char)
  /-- The tickets issued so far. -/
  tickets : List PassTicket
  /-- The passes run so far, each of which may be committed any number of times. -/
  passes : List DocumentPass

namespace PassSession

/-- A text with a cache that knows nothing of it, and no passes. -/
def start (lineLimit : Nat) (texts : List (List Char)) : PassSession :=
  ⟨texts, .empty lineLimit, [], [], []⟩

/-- The session after a change of the text that is reported to the cache. -/
def edit (session : PassSession) (texts : List (List Char)) (edited : TokenCache) :
    PassSession :=
  { session with texts, cache := edited }

/-- The session after an update, which may find another end of the text. -/
def update (session : PassSession) (grammar : Grammar) (texts : List (List Char)) :
    PassSession :=
  { session with
    texts
    cache := (session.cache.update (some grammar) texts).1
    given := texts }

def beginPass (session : PassSession) : PassSession :=
  { session with
    cache := session.cache.beginPass.1
    tickets := session.cache.beginPass.2 :: session.tickets }

/-- The session after a pass with the line limit of the cache, which may find another end
of the text. -/
def runPass (session : PassSession) (grammar : Grammar) (texts : List (List Char))
    (ticket : PassTicket) : PassSession :=
  { session with
    texts
    given := texts
    passes :=
      TokenCache.runPass grammar texts session.cache.lineLimit ticket :: session.passes }

def commit (session : PassSession) (pass : DocumentPass) : PassSession :=
  { session with cache := (session.cache.commit pass).1 }

/-- What a pass that has begun before may be overtaken by: a reported edit, or the beginning
of a newer pass. -/
inductive Overtakes : PassSession → PassSession → Prop
  | edit (session : PassSession) (texts : List (List Char)) (edited : TokenCache)
      (reported : Report session.cache edited) :
      Overtakes session (session.edit texts edited)
  | beginPass (session : PassSession) : Overtakes session session.beginPass

/-- One step of a document, its cache or its passes. -/
inductive Step (grammar : Grammar) : PassSession → PassSession → Prop
  | overtake {before after : PassSession} (overtakes : Overtakes before after) :
      Step grammar before after
  | update (session : PassSession) (texts : List (List Char))
      (resized : Resized session.texts texts) :
      Step grammar session (session.update grammar texts)
  | runPass (session : PassSession) (texts : List (List Char)) (ticket : PassTicket)
      (issued : ticket ∈ session.tickets) (resized : Resized session.texts texts) :
      Step grammar session (session.runPass grammar texts ticket)
  | commit (session : PassSession) (pass : DocumentPass) (ran : pass ∈ session.passes) :
      Step grammar session (session.commit pass)

/-- A step after which an older ticket is as current as before. -/
def Undisturbed (grammar : Grammar) (before after : PassSession) : Prop :=
  Step grammar before after ∧ ¬ Overtakes before after

/-- A step in which no update and no pass finds another number of lines than the update or
pass before it. -/
def Steady (grammar : Grammar) (before after : PassSession) : Prop :=
  Step grammar before after ∧ after.given.length = before.given.length

variable {grammar : Grammar} {before after : PassSession}

theorem Overtakes.generation_eq (overtakes : Overtakes before after) :
    after.cache.generation = before.cache.generation + 1 := by
  cases overtakes with
  | edit texts edited reported => exact reported.generation_eq
  | beginPass => rfl

theorem Step.generation_le (step : Step grammar before after) :
    before.cache.generation ≤ after.cache.generation := by
  cases step with
  | overtake overtakes => exact overtakes.generation_eq ▸ Nat.le_succ _
  | update texts => exact Nat.le_of_eq (updateWith_generation _ _ texts).symm
  | runPass => exact Nat.le_refl _
  | commit pass => exact Nat.le_of_eq (commit_generation _ pass).symm

theorem Step.lineLimit_eq (step : Step grammar before after) :
    after.cache.lineLimit = before.cache.lineLimit := by
  cases step with
  | overtake overtakes =>
      cases overtakes with
      | edit texts edited reported => exact reported.lineLimit_eq
      | beginPass => rfl
  | update texts => exact updateWith_lineLimit _ _ texts
  | runPass => rfl
  | commit pass => exact commit_lineLimit _ pass

/-- What holds in every session: a line has room for at least one byte, and no ticket is
newer than the cache. -/
structure Sound (session : PassSession) : Prop where
  lineLimitPos : 1 ≤ session.cache.lineLimit
  issuedLe : ∀ ticket ∈ session.tickets, ticket.generation ≤ session.cache.generation

theorem Sound.step (sound : before.Sound) (step : Step grammar before after) :
    after.Sound where
  lineLimitPos := step.lineLimit_eq ▸ sound.lineLimitPos
  issuedLe := by
    have older : ∀ ticket ∈ before.tickets, ticket.generation ≤ after.cache.generation :=
      fun ticket issued => Nat.le_trans (sound.issuedLe ticket issued) step.generation_le
    cases step with
    | overtake overtakes =>
        cases overtakes with
        | edit => exact older
        | beginPass =>
            intro ticket issued
            rcases List.mem_cons.mp issued with rfl | old
            · exact Nat.le_refl _
            · exact older ticket old
    | update | runPass | commit => exact older

theorem sound_of_reaches {lineLimit : Nat} {texts : List (List Char)} {session : PassSession}
    (reaches : Relation.ReflTransGen (Step grammar) (start lineLimit texts) session) :
    session.Sound := by
  induction reaches with
  | refl => exact ⟨Nat.le_max_right _ _, by simp [start]⟩
  | tail _ step ih => exact ih.step step

theorem generation_le_of_reaches
    (reaches : Relation.ReflTransGen (Step grammar) before after) :
    before.cache.generation ≤ after.cache.generation := by
  induction reaches with
  | refl => exact Nat.le_refl _
  | tail _ step ih => exact Nat.le_trans ih step.generation_le

theorem lineLimit_eq_of_reaches
    (reaches : Relation.ReflTransGen (Step grammar) before after) :
    after.cache.lineLimit = before.cache.lineLimit := by
  induction reaches with
  | refl => rfl
  | tail _ step ih => exact step.lineLimit_eq.trans ih

/-- As long as the generation stands, nothing has been reported and no ticket issued. -/
theorem undisturbed_of_generation_eq
    (reaches : Relation.ReflTransGen (Step grammar) before after)
    (generationEq : after.cache.generation = before.cache.generation) :
    Relation.ReflTransGen (Undisturbed grammar) before after := by
  induction reaches with
  | refl => exact .refl
  | tail earlier step ih =>
      have := generation_le_of_reaches earlier
      have := step.generation_le
      refine (ih (by omega)).tail ⟨step, fun overtakes => ?_⟩
      have := overtakes.generation_eq
      omega

/-- A steady step that overtakes nothing leaves the text as it was given. -/
theorem Steady.given_eq {texts : List (List Char)} (steady : Steady grammar before after)
    (undisturbed : ¬ Overtakes before after)
    (known : before.texts = texts ∧ before.given = texts) :
    after.texts = texts ∧ after.given = texts := by
  obtain ⟨step, lengthEq⟩ := steady
  obtain ⟨rfl, givenEq⟩ := known
  rw [givenEq] at lengthEq
  cases step with
  | overtake overtakes => exact absurd overtakes undisturbed
  | update texts resized =>
      have same := resized.eq_of_length lengthEq
      exact ⟨same, same⟩
  | runPass texts ticket issued resized =>
      have same := resized.eq_of_length lengthEq
      exact ⟨same, same⟩
  | commit => exact ⟨rfl, givenEq⟩

theorem given_eq_of_steady {texts : List (List Char)}
    (steady : Relation.ReflTransGen (Steady grammar) before after)
    (generationEq : after.cache.generation = before.cache.generation)
    (known : before.texts = texts ∧ before.given = texts) :
    after.texts = texts ∧ after.given = texts := by
  induction steady with
  | refl => exact known
  | tail earlier step ih =>
      have steps : Relation.ReflTransGen (Step grammar) before _ :=
        Relation.ReflTransGen.mono (fun _ _ => And.left) _ _ earlier
      have := generation_le_of_reaches steps
      have := step.1.generation_le
      refine step.given_eq (fun overtakes => ?_) (ih (by omega))
      have := overtakes.generation_eq
      omega

/-- A pass is installed only if no edit was reported and no newer pass begun since it ran.
The cache then has the results of the text that the pass ran over, and this is the text
given last if no update and no pass has since found lines added or dropped at the end. -/
theorem commit_holds {lineLimit : Nat} {initial texts : List (List Char)}
    {ticket : PassTicket}
    (reaches : Relation.ReflTransGen (Step grammar) (start lineLimit initial) before)
    (issued : ticket ∈ before.tickets)
    (later : Relation.ReflTransGen (Step grammar) (before.runPass grammar texts ticket) after)
    (installed :
      (after.cache.commit (TokenCache.runPass grammar texts before.cache.lineLimit ticket)).2 =
        true) :
    let committed :=
      (after.cache.commit (TokenCache.runPass grammar texts before.cache.lineLimit ticket)).1
    committed.Holds grammar texts ∧
      Relation.ReflTransGen (Undisturbed grammar) (before.runPass grammar texts ticket)
        after ∧
      (Relation.ReflTransGen (Steady grammar) (before.runPass grammar texts ticket) after →
        after.given = texts ∧ committed.Holds grammar after.given) := by
  intro committed
  have sound := sound_of_reaches reaches
  -- The ticket is no newer than the cache was, and the generation only grows.
  have generationEq :
      after.cache.generation = (before.runPass grammar texts ticket).cache.generation := by
    have current : ticket.generation = after.cache.generation :=
      commit_installs_iff.mp installed
    have older := sound.issuedLe ticket issued
    have grown := generation_le_of_reaches later
    simp only [PassSession.runPass] at grown ⊢
    omega
  have limitEq : committed.lineLimit = before.cache.lineLimit := by
    have kept := lineLimit_eq_of_reaches later
    exact (commit_lineLimit _ _).trans kept
  have holds : committed.Holds grammar texts := by
    apply holds_of_lines
    rw [limitEq]
    refine (commit_lines installed).trans ?_
    rw [TokenCache.runPass, Nat.max_eq_left sound.lineLimitPos]
  refine ⟨holds, undisturbed_of_generation_eq later generationEq, fun steady => ?_⟩
  have givenEq := (given_eq_of_steady steady generationEq ⟨rfl, rfl⟩).2
  exact ⟨givenEq, givenEq.symm ▸ holds⟩

/-- A pass over a small text, during which an update finds the text as it was. -/
theorem markDocument_commit :
    ∃ grammar, Grammar.ofDocument .standard true markDocument = .ok grammar ∧
      ∃ before after : PassSession,
        let texts := [['<', 'a'], ['a', '>']]
        let pass := TokenCache.runPass grammar texts before.cache.lineLimit ⟨1⟩
        Relation.ReflTransGen (Step grammar) (start 80 texts) before ∧
          ⟨1⟩ ∈ before.tickets ∧
          Relation.ReflTransGen (Step grammar) (before.runPass grammar texts ⟨1⟩) after ∧
          (after.cache.commit pass).2 = true ∧
          (after.cache.commit pass).1.Holds grammar after.given := by
  obtain ⟨grammar, loaded, -⟩ := markDocument_loads
  let texts := [['<', 'a'], ['a', '>']]
  have unchanged : Resized texts texts := .inl (List.prefix_refl _)
  have updated : Step grammar (start 80 texts) ((start 80 texts).update grammar texts) :=
    .update _ texts unchanged
  have begun : Step grammar _ ((start 80 texts).update grammar texts).beginPass :=
    .overtake (.beginPass _)
  have reaches := (Relation.ReflTransGen.single updated).tail begun
  let before := ((start 80 texts).update grammar texts).beginPass
  have generationEq : before.cache.generation = 1 :=
    congrArg (· + 1) (updateWith_generation (.empty 80) grammar texts)
  have issued : ⟨1⟩ ∈ before.tickets :=
    List.mem_cons.mpr (.inl (congrArg PassTicket.mk generationEq.symm))
  let ran := before.runPass grammar texts ⟨1⟩
  have again : Steady grammar ran (ran.update grammar texts) :=
    ⟨.update _ texts unchanged, rfl⟩
  have installed : ((ran.update grammar texts).cache.commit
      (TokenCache.runPass grammar texts before.cache.lineLimit ⟨1⟩)).2 = true := by
    rw [commit_installs_iff]
    exact generationEq.symm.trans (updateWith_generation before.cache grammar texts).symm
  have held := commit_holds reaches issued (.single again.1) installed
  exact ⟨grammar, loaded, before, _, reaches, issued, .single again.1, installed,
    (held.2.2 (.single again)).2⟩

/-- An update that finds a new last line goes unnoticed by a pass that ran before it: the
pass is installed, and the line is lost from the cache. -/
theorem commit_after_growth :
    ∃ grammar, Grammar.ofDocument .standard true markDocument = .ok grammar ∧
      ∃ session : PassSession,
        Relation.ReflTransGen (Step grammar) (start 80 [['a']]) session ∧
        session.given = [['a'], ['<']] ∧
        ∃ pass ∈ session.passes, (session.cache.commit pass).2 = true ∧
          (session.cache.commit pass).1.lineCount = 1 ∧
          ¬ (session.cache.commit pass).1.Holds grammar session.given := by
  obtain ⟨grammar, loaded, -⟩ := markDocument_loads
  let begun := (start 80 [['a']]).beginPass
  let ran := begun.runPass grammar [['a']] ⟨1⟩
  have begins : Step grammar (start 80 [['a']]) begun := .overtake (.beginPass _)
  have runs : Step grammar begun ran :=
    .runPass _ _ _ List.mem_cons_self (.inl (List.prefix_refl _))
  have grows : Step grammar ran (ran.update grammar [['a'], ['<']]) :=
    .update _ _ (.inl ⟨[['<']], rfl⟩)
  have reaches := ((Relation.ReflTransGen.single begins).tail runs).tail grows
  let pass := TokenCache.runPass grammar [['a']] begun.cache.lineLimit ⟨1⟩
  have installed : ((ran.update grammar [['a'], ['<']]).cache.commit pass).2 = true := by
    rw [commit_installs_iff]
    exact (updateWith_generation begun.cache grammar _).symm
  have sameLineCount : ((ran.update grammar [['a'], ['<']]).cache.commit pass).1.lineCount = 1 :=
    congrArg List.length (commit_lines installed)
  refine ⟨grammar, loaded, _, reaches, rfl, pass, List.mem_cons_self, installed, sameLineCount,
    fun holds => ?_⟩
  have sameCount := holds.lineCountEq
  rw [sameLineCount] at sameCount
  cases sameCount

end PassSession

end Scopelight
