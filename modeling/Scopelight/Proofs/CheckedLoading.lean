import Scopelight.Proofs.CaptureTables
import Scopelight.Proofs.FilledReferences
import Scopelight.Proofs.RuleShapes

/-!
# Loading without faults

A load looks into a capture table, into the bytes of a pattern and into the rules numbered so
far.  None of these indices lies outside, and no sum is too great for 64 bits, as long as no
capture table gives scopes to a group that is too great.  Such a group is the only reason for
which a load has no answer.
-/

namespace Scopelight

open Grammar

namespace RuleDocument

/-- The tables of capture groups of a rule: that of a single pattern, or those of the patterns
that open and close a span, which share one if they have none of their own. -/
def tables (document : RuleDocument) : List (Option (List (String × Option String))) :=
  match document.pattern with
  | some _ => [document.captures]
  | none =>
      match document.opening with
      | none => []
      | some _ =>
          [document.openingCaptures.or document.captures,
            document.closingCaptures.or document.captures]

theorem tables_of_pattern {document : RuleDocument} {pattern : String}
    (patternEq : document.pattern = some pattern) : document.tables = [document.captures] := by
  rw [tables, patternEq]

theorem tables_of_no_opening {document : RuleDocument} (noPattern : document.pattern = none)
    (noOpening : document.opening = none) : document.tables = [] := by
  rw [tables, noPattern, noOpening]

theorem tables_of_opening {document : RuleDocument} {opening : String}
    (noPattern : document.pattern = none) (openingEq : document.opening = some opening) :
    document.tables =
      [document.openingCaptures.or document.captures,
        document.closingCaptures.or document.captures] := by
  rw [tables, noPattern, openingEq]

/-- A table of a rule, or of a rule inside it, gives scopes to a group that is too great.
What stands beside a reference does not count. -/
inductive Oversized : RuleDocument → Prop where
  | own {document : RuleDocument} {table : Option (List (String × Option String))}
      (noReference : document.reference = none) (member : table ∈ document.tables)
      (oversized : Captures.Oversized (capturePairs (table.getD []))) : Oversized document
  | inside {document part : RuleDocument} (noReference : document.reference = none)
      (member : part ∈ document.parts) (oversized : Oversized part) : Oversized document

end RuleDocument

/-- A table of a rule of a grammar gives scopes to a group that is too great. -/
def GrammarDocument.Oversized (document : GrammarDocument) : Prop :=
  (∃ rules, document.patterns = some rules ∧ ∃ rule ∈ rules, rule.Oversized) ∨
    ∃ entry ∈ document.repository, entry.2.Oversized

/-- A rule that has been found not to compile. -/
def Rule.asInert : Rule → Rule
  | .single rule => .single { rule with inert := true }
  | .span rule => .span { rule with inert := true }
  | rule => rule

namespace Grammar

variable {engine : Engine} {strict : Bool} {document : RuleDocument}

namespace Builder

/-- Look up a rule by its number, and note that it does not compile. -/
def makeInert (builder : Builder) (id : RuleId) (error : CompileError) : Except Fault Builder :=
  if inside : id < builder.rules.size then
    .ok { builder with
      rules := builder.rules.set id builder.rules[id].asInert
      diagnostics := builder.diagnostics ++ [.inertRule id error] }
  else .error .index

/-- Number a rule first, and look it up again if its patterns do not compile. -/
def pushThenCheck (builder : Builder) (error? : Option CompileError) (rule : Rule) :
    Except Fault (RuleId × Builder) := do
  let (id, next) := builder.push rule
  match error? with
  | none => return (id, next)
  | some error => return (id, ← next.makeInert id error)

/-- The number of a new rule is never outside of the rules. -/
theorem pushThenCheck_eq {error? : Option CompileError} {make : List RuleId → Bool → Rule}
    (shaped : document.shape engine = .ok (error?, make)) (builder : Builder)
    (members : List RuleId) :
    builder.pushThenCheck error? (make members false) =
      .ok (builder.pushChecked error? (make members)) := by
  cases error? with
  | none => rfl
  | some error =>
      have inertEq : (make members false).asInert = make members true := by
        rcases RuleDocument.shape_cases shaped with ⟨rule, rfl⟩ | ⟨rule, rfl⟩ | ⟨noneEq, -⟩
        · rfl
        · rfl
        · cases noneEq
      have inside : builder.rules.size < (builder.rules.push (make members false)).size := by
        simp
      change (Builder.makeInert _ _ error >>= _) = _
      rw [makeInert, dif_pos inside]
      simp [push, pushChecked, inertEq, Array.set_push]

end Builder

/-! ### Oversized tables -/

theorem buildCaptures_cases (table : Option (List (String × Option String))) :
    (Captures.Oversized (capturePairs (table.getD [])) ∧
      buildCaptures table = .error .captureOverflow) ∨
    (¬Captures.Oversized (capturePairs (table.getD [])) ∧
      ∃ captures, buildCaptures table = .ok captures) := by
  by_cases oversized : Captures.Oversized (capturePairs (table.getD []))
  · exact .inl ⟨oversized, by rw [buildCaptures, Captures.ofPairs?_of_oversized oversized]⟩
  · obtain ⟨captures, capturesEq, -⟩ := Captures.ofPairs?_of_fits oversized
    exact .inr ⟨oversized, captures, by rw [buildCaptures, capturesEq]⟩

theorem oversized_of_buildCaptures {table : Option (List (String × Option String))}
    (overflows : buildCaptures table = .error .captureOverflow) :
    Captures.Oversized (capturePairs (table.getD [])) := by
  rcases buildCaptures_cases table with ⟨oversized, -⟩ | ⟨-, captures, built⟩
  · exact oversized
  · rw [built] at overflows
    cases overflows

theorem fits_of_buildCaptures {table : Option (List (String × Option String))}
    {captures : Captures} (built : buildCaptures table = .ok captures) :
    ¬Captures.Oversized (capturePairs (table.getD [])) := by
  rcases buildCaptures_cases table with ⟨-, overflows⟩ | ⟨fits, -⟩
  · rw [overflows] at built
    cases built
  · exact fits

theorem requireSupported_ne_overflow {pattern : String} :
    requireSupported engine pattern ≠ .error .captureOverflow := by
  unfold requireSupported
  split <;> simp

/-- The shape of a rule lacks room only for a table of the rule. -/
theorem exists_table_of_shape (overflows : document.shape engine = .error .captureOverflow) :
    ∃ table ∈ document.tables, Captures.Oversized (capturePairs (table.getD [])) := by
  unfold RuleDocument.shape at overflows
  split at overflows
  · next patternEq =>
      rw [RuleDocument.tables_of_pattern patternEq]
      rcases bind_eq_error overflows with overflows | ⟨_, -, overflows⟩
      · exact absurd overflows requireSupported_ne_overflow
      rcases bind_eq_error overflows with overflows | ⟨_, -, overflows⟩
      · exact ⟨_, by simp, oversized_of_buildCaptures overflows⟩
      · cases overflows
  split at overflows
  · cases overflows
  · next noPattern _ _ openingEq =>
      rw [RuleDocument.tables_of_opening noPattern openingEq]
      rcases bind_eq_error overflows with overflows | ⟨_, -, overflows⟩
      · exact absurd overflows requireSupported_ne_overflow
      rcases bind_eq_error overflows with overflows | ⟨_, -, overflows⟩
      · exact absurd overflows requireSupported_ne_overflow
      rcases bind_eq_error overflows with overflows | ⟨_, -, overflows⟩
      · exact ⟨_, List.mem_cons_self, oversized_of_buildCaptures overflows⟩
      rcases bind_eq_error overflows with overflows | ⟨_, -, overflows⟩
      · exact ⟨_, by simp, oversized_of_buildCaptures overflows⟩
      · cases overflows

/-- A rule with a shape has room for its tables. -/
theorem tables_fit_of_shape {shape : Option CompileError × (List RuleId → Bool → Rule)}
    (shaped : document.shape engine = .ok shape) :
    ∀ table ∈ document.tables, ¬Captures.Oversized (capturePairs (table.getD [])) := by
  unfold RuleDocument.shape at shaped
  split at shaped
  · next patternEq =>
      obtain ⟨_, -, shaped⟩ := bind_eq_ok shaped
      obtain ⟨_, built, -⟩ := bind_eq_ok shaped
      rw [RuleDocument.tables_of_pattern patternEq, List.forall_mem_singleton]
      exact fits_of_buildCaptures built
  split at shaped
  · next noPattern _ noOpening =>
      rw [RuleDocument.tables_of_no_opening noPattern noOpening]
      exact List.forall_mem_nil _
  · next noPattern _ _ openingEq =>
      obtain ⟨_, -, shaped⟩ := bind_eq_ok shaped
      obtain ⟨_, -, shaped⟩ := bind_eq_ok shaped
      obtain ⟨_, openingBuilt, shaped⟩ := bind_eq_ok shaped
      obtain ⟨_, closingBuilt, -⟩ := bind_eq_ok shaped
      rw [RuleDocument.tables_of_opening noPattern openingEq, List.forall_mem_cons,
        List.forall_mem_singleton]
      exact ⟨fits_of_buildCaptures openingBuilt, fits_of_buildCaptures closingBuilt⟩

theorem oversized_of_fails (fails : document.Fails engine .captureOverflow) :
    document.Oversized := by
  induction fails with
  | own noReference shapeEq =>
      obtain ⟨table, member, oversized⟩ := exists_table_of_shape shapeEq
      exact .own noReference member oversized
  | inside noReference member _ ih => exact .inside noReference member ih

theorem not_oversized_of_reference {text : String} (reference : document.reference = some text) :
    ¬document.Oversized := by
  intro oversized
  cases oversized with
  | own noReference => rw [reference] at noReference; cases noReference
  | inside noReference => rw [reference] at noReference; cases noReference

/-- A rule that has been numbered has room for its tables and those inside it. -/
theorem buildRule_fits (engine : Engine) :
    (∀ document builder (id : Nat) next, buildRule engine document builder = .ok (id, next) →
      ¬document.Oversized) ∧
    ∀ documents builder ids next, buildRules engine documents builder = .ok (ids, next) →
      ∀ document ∈ documents, ¬document.Oversized := by
  refine documents_induct ?reference ?around ?nil ?cons
  case reference =>
    intro document text reference builder id next _
    exact not_oversized_of_reference reference
  case around =>
    intro document noReference ih builder id next built oversized
    obtain ⟨ids, inner, error?, make, partsBuilt, shaped, -⟩ := buildRule_ok noReference built
    cases oversized with
    | own _ member oversized => exact tables_fit_of_shape shaped _ member oversized
    | inside _ member oversized => exact ih builder ids inner partsBuilt _ member oversized
  case nil =>
    intro builder ids next _
    exact List.forall_mem_nil _
  case cons =>
    intro document rest documentFits restFits builder ids next built
    obtain ⟨id, inner, others, documentBuilt, restBuilt, -⟩ := buildRules_cons_eq_ok.mp built
    exact List.forall_mem_cons.mpr ⟨documentFits builder id inner documentBuilt,
      restFits inner others next restBuilt⟩

theorem buildRepository_fits {documents : List (String × RuleDocument)}
    {builder next : Builder} {entries : List (String × RuleId)}
    (built : buildRepository engine documents builder = .ok (entries, next)) :
    ∀ entry ∈ documents, ¬entry.2.Oversized := by
  induction documents generalizing builder entries with
  | nil => exact List.forall_mem_nil _
  | cons entry documents ih =>
      obtain ⟨id, inner, later, documentBuilt, restBuilt, -⟩ :=
        buildRepository_cons_eq_ok.mp built
      exact List.forall_mem_cons.mpr
        ⟨(buildRule_fits engine).1 _ _ _ _ documentBuilt, ih restBuilt⟩

/-- A load has no answer only if a table gives scopes to a group that is too great. -/
theorem oversized_of_ofDocument {document : GrammarDocument}
    (overflows : ofDocument engine strict document = .error .captureOverflow) :
    document.Oversized := by
  rcases ofDocument_failed overflows with missing | missing | ⟨_, dangling⟩ | fails
  · cases missing
  · cases missing
  · cases dangling
  rcases fails with ⟨rules, rulesEq, rule, member, fails⟩ | ⟨entry, member, fails⟩
  · exact .inl ⟨rules, rulesEq, rule, member, oversized_of_fails fails⟩
  · exact .inr ⟨entry, member, oversized_of_fails fails⟩

/-- A grammar with such a table is never loaded. -/
theorem not_oversized_of_ofDocument {document : GrammarDocument} {grammar : Grammar}
    (loaded : ofDocument engine strict document = .ok grammar) : ¬document.Oversized := by
  obtain ⟨-, patterns, members, builder, last, builds⟩ := buildsBook_of_ofDocument loaded
  rintro (⟨rules, rulesEq, rule, member, oversized⟩ | ⟨entry, member, oversized⟩)
  · obtain rfl := Option.some.inj (rulesEq.symm.trans builds.patternsEq)
    exact (buildRule_fits engine).2 _ _ _ _ builds.membersBuilt rule member oversized
  · exact buildRepository_fits builds.repositoryBuilt entry member oversized

/-- A load of a source text has no answer only if a capture table of the document gives scopes
to a group that is too great, and a grammar with such a table is never loaded.  Otherwise a
table can be filled for every list of groups, and holds for each of them the scopes that are
not empty and were given last.  The rules are looked up by numbers that they have, and the
searches for references and for unsupported constructs in a text of less than `2^63` bytes
stay within its bytes. -/
theorem load_without_faults (engine : Engine) (strict : Bool) (source : String) :
    (load engine strict source = .error .captureOverflow →
      ∃ document, GrammarDocument.parse? source = some document ∧ document.Oversized) ∧
    (∀ document grammar, GrammarDocument.parse? source = some document →
      load engine strict source = .ok grammar → ¬document.Oversized) ∧
    (∀ pairs, ¬Captures.Oversized pairs → ∃ table captures,
      CaptureTable.ofPairs pairs = .ok table ∧ Captures.ofPairs? pairs = some captures ∧
      ∀ group, table.get? group = Captures.lastGiven pairs group ∧
        captures.get? group = Captures.lastGiven pairs group) ∧
    (∀ pairs, Captures.Oversized pairs → Captures.ofPairs? pairs = none ∧
      (CaptureTable.ofPairs pairs = .error .sum ∨ CaptureTable.ofPairs pairs = .error .room)) ∧
    (∀ (document : RuleDocument) error? make, document.shape engine = .ok (error?, make) →
      ∀ (builder : Builder) members, builder.pushThenCheck error? (make members false) =
        .ok (builder.pushChecked error? (make members))) ∧
    ∀ text, (Text.bytes text).length < 0x8000000000000000 →
      Pattern.referenceFrom (Text.bytes text) 0 = .ok (Pattern.hasReferences text) ∧
      Pattern.unsupportedFrom (Text.bytes text) 0 = .ok (Pattern.unsupportedFeature text) := by
  refine ⟨fun overflows => ?overflows, fun document grammar parsed loaded => ?loaded,
    fun pairs => (CaptureTable.ofPairs_eq pairs).1, fun pairs => (CaptureTable.ofPairs_eq pairs).2,
    fun document error? make => Builder.pushThenCheck_eq,
    fun text small => ⟨Pattern.referenceFrom_zero text small,
      Pattern.unsupportedFrom_zero text small⟩⟩
  case overflows =>
    unfold load at overflows
    split at overflows
    · cases overflows
    · next document parsed => exact ⟨document, parsed, oversized_of_ofDocument overflows⟩
  case loaded =>
    rw [load, parsed] at loaded
    exact not_oversized_of_ofDocument loaded

/-- A grammar that gives scopes to the greatest group number of 64 bits. -/
def farSource : String :=
  "\x7b\"scopeName\":\"source.t\",\"patterns\":[\x7b\"match\":\"x\",\"name\":\"mark\"," ++
    "\"captures\":\x7b\"18446744073709551615\":\x7b\"name\":\"far\"\x7d\x7d\x7d]\x7d"

/-- A pattern that does not compile. -/
def unclosed : RuleDocument where
  pattern := some "("

def sparse : List (Nat × List Scope) :=
  [(2, [⟨"b"⟩]), (0, [⟨"a"⟩]), (1, [])]

theorem eq_error_of_check {Error Value : Type} [DecidableEq Error]
    {result : Except Error Value} {error : Error}
    (evaluated : (match result with
      | .error found => decide (found = error)
      | .ok _ => false) = true) : result = .error error := by
  cases result with
  | error found => rw [of_decide_eq_true evaluated]
  | ok value => cases evaluated

theorem farSource_oversized :
    (∃ document, GrammarDocument.parse? farSource = some document ∧ document.Oversized) ∧
    (∃ table captures, CaptureTable.ofPairs sparse = .ok table ∧
      Captures.ofPairs? sparse = some captures ∧
      ∀ group, table.get? group = Captures.lastGiven sparse group ∧
        captures.get? group = Captures.lastGiven sparse group) ∧
    (∃ error make, unclosed.shape .standard = .ok (some error, make) ∧
      Builder.empty.pushThenCheck (some error) (make [] false) =
        .ok (Builder.empty.pushChecked (some error) (make []))) ∧
    Pattern.referenceFrom (Text.bytes ['é', '\\', '1']) 0 = .ok true ∧
    Pattern.unsupportedFrom (Text.bytes ['é', '(', '?', '=']) 0 = .ok (some "look-around") := by
  have facts := load_without_faults .standard true farSource
  refine ⟨facts.1 (eq_error_of_check (by decide +kernel)), ?table, ?builder, ?references, ?looks⟩
  case table => exact facts.2.2.1 sparse (by simp [Captures.Oversized, sparse, Captures.groupLimit])
  case builder =>
    have checked :
        ((unclosed.shape .standard).toOption.any fun shape => shape.1.isSome) = true := by
      decide +kernel
    obtain ⟨⟨error?, make⟩, shaped, failed⟩ := exists_ok_of_any checked
    obtain ⟨error, rfl⟩ := Option.isSome_iff_exists.mp failed
    exact ⟨error, make, shaped, facts.2.2.2.2.1 unclosed _ make shaped .empty []⟩
  case references => exact (facts.2.2.2.2.2 ['é', '\\', '1'] (by decide)).1
  case looks => exact (facts.2.2.2.2.2 ['é', '(', '?', '='] (by decide)).2

/-- The greatest group number that can be read has no place in a table. -/
theorem farSource_overflows :
    groupNumber? "18446744073709551615" = some 0xFFFFFFFFFFFFFFFF ∧
    CaptureTable.ofPairs (capturePairs [("18446744073709551615", some "far")]) = .error .sum ∧
    ¬∀ source, load .standard true source ≠ .error .captureOverflow := by
  refine ⟨by decide +kernel, by decide +kernel, fun answers => answers farSource ?_⟩
  exact eq_error_of_check (by decide +kernel)

end Grammar

end Scopelight
