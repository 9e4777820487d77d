import Scopelight.Grammar.Load

/-!
# Loaded grammars

A rule of a loaded grammar can start only if the pattern by which it starts compiles by
itself: rules with a pattern that does not compile have been made inert.
-/

namespace Scopelight

/-- A rule that can start has a pattern that the engine compiles. -/
def Rule.Compiles (engine : Engine) (rule : Rule) : Prop :=
  ∀ text, rule.startPattern? = some text → ∃ scanner, engine.compile [text] = .ok scanner

namespace Grammar

/-- All rules numbered so far compile. -/
def Builder.Compiles (engine : Engine) (builder : Builder) : Prop :=
  ∀ rule ∈ builder.rules, rule.Compiles engine

theorem bind_eq_ok {Error First Second : Type} {first : Except Error First}
    {next : First → Except Error Second} {result : Second}
    (done : first >>= next = .ok result) :
    ∃ value, first = .ok value ∧ next value = .ok result := by
  cases first with
  | error error => cases done
  | ok value => exact ⟨value, rfl, done⟩

theorem bind_eq_error {Error First Second : Type} {first : Except Error First}
    {next : First → Except Error Second} {error : Error}
    (failed : first >>= next = .error error) :
    first = .error error ∨ ∃ value, first = .ok value ∧ next value = .error error := by
  cases first with
  | error => exact .inl (by cases failed; rfl)
  | ok value => exact .inr ⟨value, rfl, failed⟩

/-- A result that is there and passes a check. -/
theorem exists_ok_of_any {Error Value : Type} {result : Except Error Value}
    {check : Value → Bool} (evaluated : result.toOption.any check = true) :
    ∃ value, result = .ok value ∧ check value = true := by
  cases result with
  | error error => cases evaluated
  | ok value => exact ⟨value, rfl, evaluated⟩

variable {engine : Engine}

theorem firstError?_none {patterns : List String}
    (noneFails : firstError? engine patterns = none) :
    ∀ pattern ∈ patterns, ∃ scanner, engine.compile [pattern] = .ok scanner := by
  induction patterns with
  | nil => simp
  | cons pattern patterns ih =>
      unfold firstError? at noneFails
      split at noneFails
      · cases noneFails
      · next scanner compiled =>
          intro other member
          rcases List.mem_cons.mp member with rfl | later
          · exact ⟨scanner, compiled⟩
          · exact ih noneFails other later

namespace Builder.Compiles

variable {builder : Builder}

theorem push (compiles : builder.Compiles engine) {rule : Rule}
    (ruleCompiles : rule.Compiles engine) : (builder.push rule).2.Compiles engine := by
  intro other member
  rcases Array.mem_push.mp member with old | rfl
  · exact compiles other old
  · exact ruleCompiles

/-- A rule is made inert if one of its patterns fails. -/
theorem pushChecked (compiles : builder.Compiles engine) {patterns : List String}
    {rule : Bool → Rule} (inert : (rule true).startPattern? = none)
    (start : ∀ text, (rule false).startPattern? = some text → text ∈ patterns) :
    (builder.pushChecked (firstError? engine patterns) rule).2.Compiles engine := by
  unfold Builder.pushChecked
  split
  · next noneFails =>
      exact compiles.push fun text textEq => firstError?_none noneFails text (start text textEq)
  · have inertCompiles : (rule true).Compiles engine := by
      intro text textEq
      rw [inert] at textEq
      cases textEq
    exact compiles.push inertCompiles

end Builder.Compiles

theorem buildRule_compiles (engine : Engine) :
    (∀ document builder id next, buildRule engine document builder = .ok (id, next) →
        builder.Compiles engine → next.Compiles engine) ∧
      ∀ documents builder ids next, buildRules engine documents builder = .ok (ids, next) →
        builder.Compiles engine → next.Compiles engine := by
  refine buildRule.mutual_induct
    (fun document builder => ∀ id next, buildRule engine document builder = .ok (id, next) →
      builder.Compiles engine → next.Compiles engine)
    (fun documents builder => ∀ ids next,
      buildRules engine documents builder = .ok (ids, next) →
      builder.Compiles engine → next.Compiles engine) ?_ ?_ ?_ ?_ ?_
  · intro _ _ _ _ _ _ _ _ _ _ _ builder _ id next built compiles
    unfold buildRule at built
    cases built
    exact compiles.push fun text textEq => by cases textEq
  · intro name _ _ _ captures _ _ _ _ _ builder pattern id next built compiles
    unfold buildRule at built
    obtain ⟨_, -, built⟩ := bind_eq_ok built
    obtain ⟨captures, -, built⟩ := bind_eq_ok built
    obtain rfl := congrArg Prod.snd (Except.ok.inj built)
    refine compiles.pushChecked rfl fun text textEq => ?_
    cases textEq
    exact List.mem_singleton_self _
  · intro name _ opening _ _ _ _ _ _ _ builder ih id next built compiles
    unfold buildRule at built
    obtain ⟨⟨ids, inner⟩, membersBuilt, built⟩ := bind_eq_ok built
    have innerCompiles := ih _ _ membersBuilt compiles
    cases opening with
    | none =>
        cases built
        exact innerCompiles.push fun text textEq => by cases textEq
    | some opening =>
        obtain ⟨_, -, built⟩ := bind_eq_ok built
        obtain ⟨_, -, built⟩ := bind_eq_ok built
        obtain ⟨_, -, built⟩ := bind_eq_ok built
        obtain ⟨_, -, built⟩ := bind_eq_ok built
        obtain rfl := congrArg Prod.snd (Except.ok.inj built)
        refine innerCompiles.pushChecked rfl fun text textEq => ?_
        cases textEq
        exact List.mem_cons_self
  · intro builder ids next built compiles
    unfold buildRules at built
    cases built
    exact compiles
  · intro document rest builder documentIH restIH ids next built compiles
    unfold buildRules at built
    obtain ⟨⟨id, inner⟩, documentBuilt, built⟩ := bind_eq_ok built
    obtain ⟨⟨others, last⟩, restBuilt, built⟩ := bind_eq_ok built
    cases built
    exact restIH inner _ _ restBuilt (documentIH _ _ documentBuilt compiles)

theorem buildRepository_compiles {documents : List (String × RuleDocument)}
    {builder next : Builder} {entries : List (String × RuleId)}
    (built : buildRepository engine documents builder = .ok (entries, next))
    (compiles : builder.Compiles engine) : next.Compiles engine := by
  induction documents generalizing builder entries next with
  | nil =>
      cases built
      exact compiles
  | cons entry documents ih =>
      unfold buildRepository at built
      obtain ⟨⟨id, inner⟩, ruleBuilt, built⟩ := bind_eq_ok built
      obtain ⟨⟨others, last⟩, restBuilt, built⟩ := bind_eq_ok built
      cases built
      exact ih restBuilt ((buildRule_compiles engine).1 _ _ _ _ ruleBuilt compiles)

/-- A loaded grammar has the engine that it was loaded with, and its rules compile. -/
theorem ofDocument_compiles {strict : Bool} {document : GrammarDocument} {grammar : Grammar}
    (loaded : ofDocument engine strict document = .ok grammar) :
    grammar.engine = engine ∧
      ∀ id rule, grammar.rule? id = some rule → rule.Compiles engine := by
  unfold ofDocument at loaded
  obtain ⟨scopeName, -, loaded⟩ := bind_eq_ok loaded
  split at loaded
  · cases loaded
  · obtain ⟨⟨members, builder⟩, rulesBuilt, loaded⟩ := bind_eq_ok loaded
    obtain ⟨⟨repository, last⟩, repositoryBuilt, loaded⟩ := bind_eq_ok loaded
    have emptyCompiles : Builder.empty.Compiles engine := by
      simp [Builder.Compiles, Builder.empty]
    have membersCompile := (buildRule_compiles engine).2 _ _ _ _ rulesBuilt emptyCompiles
    have rootCompiles : (Rule.group members).Compiles engine := fun text textEq => by
      cases textEq
    have lastCompiles :=
      buildRepository_compiles repositoryBuilt (membersCompile.push rootCompiles)
    obtain ⟨diagnostics, -, loaded⟩ := bind_eq_ok loaded
    cases loaded
    exact ⟨rfl, fun id rule ruleEq => lastCompiles rule (Array.mem_of_getElem? ruleEq)⟩

end Grammar

/-! ### A small grammar -/

/-- A grammar of marks between angle brackets. -/
def markDocument : GrammarDocument where
  scopeName := some "text.marks"
  name := none
  fileTypes := []
  patterns := some [{
    name := some "mark"
    contentName := some "mark.inner"
    opening := some "<"
    closing := some ">"
    members := [{ name := some "letter", pattern := some "a" }]
  }]
  repository := []

def markRules : Array Rule :=
  #[.single ⟨[⟨"letter"⟩], "a", .empty, false⟩,
    .span {
      name := [⟨"mark"⟩]
      contentName := [⟨"mark.inner"⟩]
      opening := "<"
      closing := ">"
      openingCaptures := .empty
      closingCaptures := .empty
      members := [0]
      closingLast := false
      allowEmptySpan := true
      hasReferences := false
      inert := false
    },
    .group [1]]

theorem markDocument_loads :
    ∃ grammar, Grammar.ofDocument .standard true markDocument = .ok grammar ∧
      grammar.rules = markRules ∧ grammar.root = 2 ∧ grammar.scopeName = ⟨"text.marks"⟩ := by
  have evaluated : ((Grammar.ofDocument .standard true markDocument).toOption.any fun grammar =>
      decide (grammar.rules = markRules ∧ grammar.root = 2 ∧
        grammar.scopeName = ⟨"text.marks"⟩)) = true := by
    decide +kernel
  obtain ⟨grammar, loaded, checked⟩ := Grammar.exists_ok_of_any evaluated
  exact ⟨grammar, loaded, of_decide_eq_true checked⟩

end Scopelight
