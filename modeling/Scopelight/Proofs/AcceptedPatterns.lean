import Scopelight.Proofs.RuleShapes

/-!
# Grammars of accepted patterns

How a document is numbered depends on an engine only in so far as the engine accepts the
patterns.  So a document can be loaded with an engine that accepts some patterns untried and
objects to all others: any engine that accepts the same patterns loads the same rules.
-/

namespace Scopelight

/-- An engine has nothing against a pattern. -/
structure Engine.Accepts (engine : Engine) (text : String) : Prop where
  supported : engine.unsupportedFeature text = none
  compiles : ∃ scanner, engine.compile [text] = .ok scanner

/-- An engine that accepts some patterns, with scanners that find nothing. -/
def Engine.knowing (texts : List String) : Engine where
  compile _ := .ok ⟨fun _ _ _ => none⟩
  unsupportedFeature text := if text ∈ texts then none else some "an unknown pattern"

namespace Grammar

variable {engine : Engine} {texts : List String}

theorem firstError?_knowing (patterns : List String) :
    firstError? (.knowing texts) patterns = none := by
  induction patterns with
  | nil => rfl
  | cons pattern patterns ih => exact ih

theorem firstError?_of_accepts {patterns : List String}
    (accepts : ∀ pattern ∈ patterns, engine.Accepts pattern) :
    firstError? engine patterns = none := by
  induction patterns with
  | nil => rfl
  | cons pattern patterns ih =>
      obtain ⟨scanner, compiled⟩ := (accepts pattern List.mem_cons_self).compiles
      rw [firstError?, compiled]
      exact ih fun other member => accepts other (List.mem_cons_of_mem _ member)

theorem mem_of_requireSupported {text : String} {done : Unit}
    (required : requireSupported (.knowing texts) text = .ok done) : text ∈ texts := by
  by_cases known : text ∈ texts
  · exact known
  · simp [requireSupported, Engine.knowing, known] at required

theorem requireSupported_of_accepts {text : String} (accepts : engine.Accepts text)
    (done : Unit) : requireSupported engine text = .ok done := by
  rw [requireSupported, accepts.supported]

variable (accepts : ∀ text ∈ texts, engine.Accepts text)

include accepts

theorem shape_of_knowing {document : RuleDocument} {error? : Option CompileError}
    {make : List RuleId → Bool → Rule}
    (shaped : document.shape (.knowing texts) = .ok (error?, make)) :
    document.shape engine = .ok (error?, make) := by
  unfold RuleDocument.shape at shaped ⊢
  split at shaped
  · next pattern patternEq =>
      obtain ⟨done, required, shaped⟩ := bind_eq_ok shaped
      obtain ⟨captures, capturesEq, shaped⟩ := bind_eq_ok shaped
      have accepted := accepts pattern (mem_of_requireSupported required)
      simp only [requireSupported_of_accepts accepted done, capturesEq]
      rw [firstError?_knowing] at shaped
      rw [firstError?_of_accepts (by simpa using accepted)]
      exact shaped
  · split at shaped
    · exact shaped
    · next opening openingEq =>
        obtain ⟨done, openingRequired, shaped⟩ := bind_eq_ok shaped
        obtain ⟨done', closingRequired, shaped⟩ := bind_eq_ok shaped
        have openingAccepted := accepts opening (mem_of_requireSupported openingRequired)
        have closingAccepted := accepts _ (mem_of_requireSupported closingRequired)
        simp only [requireSupported_of_accepts openingAccepted done,
          requireSupported_of_accepts closingAccepted done']
        rw [firstError?_knowing] at shaped
        rw [firstError?_of_accepts (by simpa using ⟨openingAccepted, closingAccepted⟩)]
        exact shaped

/-- A rule that is built from accepted patterns alone is built by the engine. -/
theorem buildRule_of_knowing :
    (∀ document builder result, buildRule (.knowing texts) document builder = .ok result →
      buildRule engine document builder = .ok result) ∧
    ∀ documents builder result, buildRules (.knowing texts) documents builder = .ok result →
      buildRules engine documents builder = .ok result := by
  refine documents_induct ?reference ?around ?nil ?cons
  case reference =>
    intro document text reference builder result built
    rw [buildRule_reference reference] at built ⊢
    exact built
  case around =>
    rintro document noReference ih builder ⟨id, next⟩ built
    obtain ⟨ids, inner, error?, make, partsBuilt, shaped, pushed⟩ :=
      buildRule_ok noReference built
    rw [pushed]
    exact buildRule_of_parts noReference (ih builder _ partsBuilt)
      (shape_of_knowing accepts shaped)
  case nil => exact fun _ _ built => built
  case cons =>
    rintro document rest documentIH restIH builder ⟨ids, next⟩ built
    obtain ⟨id, inner, later, documentBuilt, restBuilt, rfl⟩ :=
      buildRules_cons_eq_ok.mp built
    exact buildRules_cons_eq_ok.mpr ⟨id, inner, later, documentIH builder _ documentBuilt,
      restIH inner _ restBuilt, rfl⟩

theorem buildRepository_of_knowing {documents : List (String × RuleDocument)}
    {builder next : Builder} {entries : List (String × RuleId)}
    (built : buildRepository (.knowing texts) documents builder = .ok (entries, next)) :
    buildRepository engine documents builder = .ok (entries, next) := by
  induction documents generalizing builder entries next with
  | nil => exact built
  | cons entry documents ih =>
      obtain ⟨id, inner, later, documentBuilt, restBuilt, rfl⟩ :=
        buildRepository_cons_eq_ok.mp built
      exact buildRepository_cons_eq_ok.mpr ⟨id, inner, later,
        (buildRule_of_knowing accepts).1 _ _ _ documentBuilt, ih restBuilt, rfl⟩

/-- A document of accepted patterns whose references resolve is loaded by the engine, with
the same rules. -/
theorem ofDocument_of_knowing {document : GrammarDocument} {draft : Grammar}
    (loaded : ofDocument (.knowing texts) true document = .ok draft) (strict : Bool) :
    ∃ grammar, ofDocument engine strict document = .ok grammar ∧
      grammar.toRulebook = { draft.toRulebook with engine } ∧
      grammar.scopeName = draft.scopeName := by
  obtain ⟨scopeNameEq, patterns, members, builder, last, builds⟩ :=
    buildsBook_of_ofDocument loaded
  have bookEq := builds.bookEq
  refine ofDocument_of_buildsBook scopeNameEq ⟨builds.patternsEq,
    (buildRule_of_knowing accepts).2 _ _ _ builds.membersBuilt,
    buildRepository_of_knowing accepts builds.repositoryBuilt, ?_, fun _ target member => ?_⟩
  · rw [bookEq]
  · have resolves := builds.resolves rfl target member
    cases target <;> exact resolves

end Grammar

end Scopelight
