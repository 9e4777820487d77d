import Scopelight.Proofs.PassTickets

/-!
# Histories of tickets

A cache issues tickets in the course of its operations, and the pass made with a ticket may
be committed at any later time and any number of times.  Each operation either lets all
tickets lapse that were issued before it or leaves them as they are, and the generation
counts the operations of the first kind.  So a ticket is good until the next of these, at
most one ticket is good at a time, and a ticket that has lapsed is never good again.
-/

namespace Scopelight

namespace TokenCache

/-- What can be done to a cache. -/
inductive Operation where
  | invalidateLine (line : Nat)
  | invalidateFrom (line : Nat)
  | invalidateAll
  | editLines (start removed inserted : Nat)
  /-- An update, for which there may be no grammar. -/
  | update (grammar : Option Grammar) (texts : List (List Char))
  | beginPass
  | commit (pass : DocumentPass)

/-- Whether the tickets issued before an operation lapse with it. -/
def Operation.lapses : Operation → Bool
  | .invalidateLine _ => true
  | .invalidateFrom _ => true
  | .invalidateAll => true
  | .editLines _ _ _ => true
  | .update grammar _ => grammar.isNone
  | .beginPass => true
  | .commit _ => false

/-- The cache after an operation.  Only an edit can be refused. -/
def perform (cache : TokenCache) : Operation → Except EditError TokenCache
  | .invalidateLine line => .ok (cache.invalidateLine line)
  | .invalidateFrom line => .ok (cache.invalidateFrom line)
  | .invalidateAll => .ok cache.invalidateAll
  | .editLines start removed inserted => cache.editLines start removed inserted
  | .update grammar texts => .ok (cache.update grammar texts).1
  | .beginPass => .ok cache.beginPass.1
  | .commit pass => .ok (cache.commit pass).1

/-- The cache after some operations, none of which is refused. -/
def performAll (cache : TokenCache) (operations : List Operation) :
    Except EditError TokenCache :=
  operations.foldlM perform cache

/-- A history from an empty cache to another one: after some operations a ticket is issued,
and others follow. -/
inductive Issued (lineLimit : Nat) :
    List Operation → PassTicket → List Operation → TokenCache → Prop
  | intro {earlier later : List Operation} {before cache : TokenCache}
      (reached : (empty lineLimit).performAll earlier = .ok before)
      (followed : before.beginPass.1.performAll later = .ok cache) :
      Issued lineLimit earlier before.beginPass.2 later cache

variable {cache next : TokenCache}

theorem performAll_cons_eq_ok {operation : Operation} {operations : List Operation} :
    cache.performAll (operation :: operations) = .ok next ↔
      ∃ middle, cache.perform operation = .ok middle ∧
        middle.performAll operations = .ok next := by
  constructor
  · intro performed
    exact Grammar.bind_eq_ok performed
  · rintro ⟨middle, first, rest⟩
    simp only [performAll, List.foldlM_cons, first]
    exact rest

/-- The generation counts the operations with which tickets lapse. -/
theorem perform_generation {operation : Operation}
    (performed : cache.perform operation = .ok next) :
    next.generation = cache.generation + operation.lapses.toNat := by
  cases operation with
  | invalidateLine | invalidateFrom | invalidateAll | beginPass =>
      cases performed
      rfl
  | editLines start removed inserted =>
      exact (Report.splice start removed inserted performed).generation_eq
  | update grammar texts =>
      cases performed
      cases grammar with
      | none => rfl
      | some grammar => exact updateWith_generation cache grammar texts
  | commit pass =>
      cases performed
      exact commit_generation cache pass

theorem performAll_generation {operations : List Operation}
    (performed : cache.performAll operations = .ok next) :
    next.generation = cache.generation + operations.countP Operation.lapses := by
  induction operations generalizing cache with
  | nil =>
      cases performed
      rfl
  | cons operation operations ih =>
      obtain ⟨middle, first, rest⟩ := performAll_cons_eq_ok.mp performed
      have firstEq := perform_generation first
      have restEq := ih rest
      cases lapses : operation.lapses <;> simp [lapses] at firstEq ⊢ <;> omega

/-- A ticket that has been refused is refused after any further operations. -/
theorem commit_refused_of_performAll {pass other : DocumentPass} {operations : List Operation}
    (issuedBefore : pass.ticket.generation ≤ cache.generation)
    (refused : (cache.commit pass).2 = false)
    (performed : cache.performAll operations = .ok next) (same : other.ticket = pass.ticket) :
    (next.commit other).2 = false := by
  have grown := performAll_generation performed
  rw [← Bool.not_eq_true, commit_installs_iff] at refused ⊢
  rw [same]
  omega

theorem commit_of_refused {pass : DocumentPass} (refused : (cache.commit pass).2 = false) :
    (cache.commit pass).1 = cache := by
  have lapsed : pass.ticket.generation ≠ cache.generation := by
    rwa [Ne, ← commit_installs_iff, Bool.not_eq_true]
  rw [commit, if_neg lapsed]

/-- What the commit of a pass makes of a cache if it is accepted. -/
structure Installs (cache : TokenCache) (pass : DocumentPass) (committed : TokenCache) :
    Prop where
  linesEq : committed.lines = pass.lines.map .ofResult
  clean : committed.isDirty = false
  generationEq : committed.generation = cache.generation
  lineLimitEq : committed.lineLimit = cache.lineLimit

theorem commit_of_accepted {pass : DocumentPass} (accepted : (cache.commit pass).2 = true) :
    Installs cache pass (cache.commit pass).1 where
  linesEq := commit_lines accepted
  clean := by
    rw [commit, if_pos (commit_installs_iff.mp accepted)]
    simp [isDirty, lineCount]
  generationEq := commit_generation cache pass
  lineLimitEq := commit_lineLimit cache pass

namespace Issued

variable {lineLimit : Nat} {earlier later : List Operation} {ticket : PassTicket}

theorem generation_eq (issued : Issued lineLimit earlier ticket later cache) :
    cache.generation = ticket.generation + later.countP Operation.lapses := by
  cases issued with
  | intro reached followed => exact performAll_generation followed

/-- A ticket is good until the first operation with which tickets lapse. -/
theorem accepts_iff (issued : Issued lineLimit earlier ticket later cache)
    {pass : DocumentPass} (ticketEq : pass.ticket = ticket) :
    (cache.commit pass).2 = true ↔ ∀ operation ∈ later, operation.lapses = false := by
  have countEq := issued.generation_eq
  have noneLapses : later.countP Operation.lapses = 0 ↔
      ∀ operation ∈ later, operation.lapses = false := by
    simp [List.countP_eq_zero]
  rw [commit_installs_iff, ticketEq, ← noneLapses]
  omega

end Issued

/-- Two places at which a list has the same element are the same, or one of them lies behind
the other. -/
theorem splits_eq_or_mem {Item : Type} {item : Item} {before after before' after' : List Item}
    (same : before ++ item :: after = before' ++ item :: after') :
    before = before' ∨ item ∈ after ∨ item ∈ after' := by
  rcases List.append_eq_append_iff.mp same with ⟨between, rfl, restEq⟩ | ⟨between, rfl, restEq⟩
  · cases between with
    | nil => exact .inl (by simp)
    | cons first between =>
        obtain ⟨-, rfl⟩ := List.cons.inj restEq
        exact .inr (.inl (by simp))
  · cases between with
    | nil => exact .inl (by simp)
    | cons first between =>
        obtain ⟨-, rfl⟩ := List.cons.inj restEq
        exact .inr (.inr (by simp))

/-- A pass is accepted exactly if no operation with which tickets lapse has followed the
issue of its ticket.  So of all tickets issued in a history at most one is good at its end,
and a pass that is refused leaves the cache as it is and is refused ever after.  A pass that
is accepted gives the cache its lines, none of which is left to do, and nothing else. -/
theorem commit_discipline {lineLimit : Nat} {earlier later : List Operation}
    {ticket : PassTicket} {cache : TokenCache}
    (issued : Issued lineLimit earlier ticket later cache) {pass : DocumentPass}
    (ticketEq : pass.ticket = ticket) :
    ((cache.commit pass).2 = true ↔ ∀ operation ∈ later, operation.lapses = false) ∧
      (∀ earlier' ticket' later', Issued lineLimit earlier' ticket' later' cache →
        earlier' ++ .beginPass :: later' = earlier ++ .beginPass :: later →
        ∀ pass' : DocumentPass, pass'.ticket = ticket' →
          (cache.commit pass).2 = true → (cache.commit pass').2 = true →
          earlier' = earlier ∧ ticket' = ticket) ∧
      ((cache.commit pass).2 = false → (cache.commit pass).1 = cache ∧
        ∀ more next, cache.performAll more = .ok next →
          ∀ other : DocumentPass, other.ticket = ticket → (next.commit other).2 = false) ∧
      ((cache.commit pass).2 = true → Installs cache pass (cache.commit pass).1) := by
  have acceptsIff := issued.accepts_iff ticketEq
  refine ⟨acceptsIff, ?_, ?_, commit_of_accepted⟩
  · intro earlier' ticket' later' issued' sameHistory pass' ticketEq' accepted accepted'
    have quiet := acceptsIff.mp accepted
    have quiet' := (issued'.accepts_iff ticketEq').mp accepted'
    rcases splits_eq_or_mem sameHistory with same | behind | behind
    · have generationEq := commit_installs_iff.mp accepted
      have generationEq' := commit_installs_iff.mp accepted'
      rw [← generationEq, ticketEq, ticketEq'] at generationEq'
      exact ⟨same, by cases ticket; cases ticket'; exact congrArg PassTicket.mk generationEq'⟩
    · cases quiet' _ behind
    · cases quiet _ behind
  · intro refused
    refine ⟨commit_of_refused refused, fun more next performed other otherEq => ?_⟩
    have countEq := issued.generation_eq
    have issuedBefore : pass.ticket.generation ≤ cache.generation := by
      rw [ticketEq]
      omega
    exact commit_refused_of_performAll issuedBefore refused performed
      (otherEq.trans ticketEq.symm)

/-- A history in which a pass is committed twice, and one that goes on with an update without
a grammar, after which the pass is refused. -/
theorem markDocument_discipline :
    ∃ grammar, Grammar.ofDocument .standard true markDocument = .ok grammar ∧
      ∃ (ticket : PassTicket) (cache dropped : TokenCache),
        let texts := [['<', 'a'], ['a', '>']]
        let pass := runPass grammar texts 80 ticket
        let earlier := [.update (some grammar) texts, .invalidateLine 0]
        let later := [.update (some grammar) texts, .commit pass]
        Issued 80 earlier ticket later cache ∧ (cache.commit pass).2 = true ∧
          Installs cache pass (cache.commit pass).1 ∧
          Issued 80 earlier ticket (later ++ [.update none []]) dropped ∧
          (dropped.commit pass).2 = false ∧ (dropped.commit pass).1 = dropped := by
  obtain ⟨grammar, loaded, -⟩ := markDocument_loads
  let texts := [['<', 'a'], ['a', '>']]
  let before := ((empty 80).update (some grammar) texts).1.invalidateLine 0
  let pass := runPass grammar texts 80 before.beginPass.2
  let earlier : List Operation := [.update (some grammar) texts, .invalidateLine 0]
  let later : List Operation := [.update (some grammar) texts, .commit pass]
  have issued : Issued 80 earlier before.beginPass.2 later _ := .intro rfl rfl
  have issued' : Issued 80 earlier before.beginPass.2 (later ++ [.update none []]) _ :=
    .intro rfl rfl
  have ticketEq : pass.ticket = before.beginPass.2 := rfl
  obtain ⟨acceptsIff, -, -, installs⟩ := commit_discipline issued ticketEq
  obtain ⟨acceptsIff', -, refuses, -⟩ := commit_discipline issued' ticketEq
  have accepted := acceptsIff.mpr (by simp [later, Operation.lapses])
  have refused := Bool.eq_false_iff.mpr (mt acceptsIff'.mp (by simp [Operation.lapses]))
  exact ⟨grammar, loaded, _, _, _, issued, accepted, installs accepted, issued', refused,
    (refuses refused).1⟩

end TokenCache

end Scopelight
