import Scopelight.Proofs.InertElements
import Scopelight.Proofs.InertSpans
import Scopelight.Proofs.RuleForest

/-!
# Noted faults

A load tries the patterns of each rule by themselves, the closing pattern of a span with
nothing filled in.  The first pattern of a rule that does not compile makes the rule inert,
and its error is noted with the number of the rule.  The faults of all rules, in the order of
the rules, stand before all other problems that are noted.
-/

namespace Scopelight

namespace Rule

/-- The patterns of a rule that are tried when it is numbered. -/
def triedPatterns : Rule → List String
  | .single rule => [rule.pattern]
  | .span rule => [rule.opening, rule.template]
  | .reference _ => []
  | .group _ => []

/-- The error of the first pattern of a rule that does not compile. -/
def fault? (engine : Engine) (rule : Rule) : Option CompileError :=
  Grammar.firstError? engine rule.triedPatterns

/-- An error is that of the first pattern of a rule that does not compile. -/
def FailsFirst (engine : Engine) (error : CompileError) : Rule → Prop
  | .single rule => engine.compile [rule.pattern] = .error error
  | .span rule =>
      engine.compile [rule.opening] = .error error ∨
        (∃ scanner, engine.compile [rule.opening] = .ok scanner) ∧
          engine.compile [rule.template] = .error error
  | .reference _ => False
  | .group _ => False

end Rule

namespace Grammar

variable {engine : Engine}

/-- The faults of numbered rules, with the numbers of the rules. -/
def faults (engine : Engine) (rules : Array Rule) : List (RuleId × CompileError) :=
  rules.toList.zipIdx.filterMap fun (rule, id) =>
    (rule.fault? engine).map fun error => (id, error)

theorem mem_faults_iff {rules : Array Rule} {id : RuleId} {error : CompileError} :
    (id, error) ∈ faults engine rules ↔
      ∃ rule, rules[id]? = some rule ∧ rule.fault? engine = some error := by
  rw [faults, List.mem_filterMap]
  constructor
  · rintro ⟨⟨rule, place⟩, member, found⟩
    obtain ⟨error, errorEq, same⟩ := Option.map_eq_some_iff.mp found
    obtain ⟨rfl, rfl⟩ := Prod.mk.inj same
    exact ⟨rule, by simpa using List.mem_zipIdx_iff_getElem?.mp member, errorEq⟩
  · rintro ⟨rule, ruleEq, errorEq⟩
    refine ⟨(rule, id), List.mem_zipIdx_iff_getElem?.mpr (by simpa using ruleEq), ?_⟩
    simp only [errorEq, Option.map_some]

/-- Faults are listed by the numbers of their rules, and no rule has two of them. -/
theorem faults_ascending (engine : Engine) (rules : Array Rule) :
    (faults engine rules).Pairwise fun fault other => fault.1 < other.1 := by
  have places : rules.toList.zipIdx.Pairwise fun entry other => entry.2 < other.2 := by
    rw [← List.pairwise_map, List.zipIdx_map_snd]
    exact List.pairwise_lt_range'
  refine List.Pairwise.filterMap _ (fun entry other before fault found later foundLater => ?_)
    places
  obtain ⟨_, -, rfl⟩ := Option.map_eq_some_iff.mp found
  obtain ⟨_, -, rfl⟩ := Option.map_eq_some_iff.mp foundLater
  exact before

theorem faults_push (engine : Engine) (rules : Array Rule) (rule : Rule) :
    faults engine (rules.push rule) = faults engine rules ++
      ((rule.fault? engine).map fun error => (rules.size, error)).toList := by
  rw [faults, Array.toList_push, List.zipIdx_append, List.filterMap_append]
  cases faultEq : rule.fault? engine <;> simp [faults, faultEq]

/-- The fault of a rule is the error of the first of its patterns that fails. -/
theorem fault?_eq_some_iff {rule : Rule} {error : CompileError} :
    rule.fault? engine = some error ↔ rule.FailsFirst engine error := by
  have singleIff (pattern : String) : firstError? engine [pattern] = some error ↔
      engine.compile [pattern] = .error error := by
    cases compiled : engine.compile [pattern] <;> simp [firstError?, compiled]
  cases rule with
  | single rule => exact singleIff rule.pattern
  | span rule =>
      change firstError? engine [rule.opening, rule.template] = some error ↔ _
      rw [firstError?]
      cases opens : engine.compile [rule.opening] with
      | error first => simp [Rule.FailsFirst, opens]
      | ok scanner => simpa [Rule.FailsFirst, opens] using singleIff rule.template
  | reference target => simp [Rule.fault?, Rule.triedPatterns, firstError?, Rule.FailsFirst]
  | group members => simp [Rule.fault?, Rule.triedPatterns, firstError?, Rule.FailsFirst]

/-- The error of a span is that of one of its two patterns. -/
theorem failsFirst_span_iff {rule : SpanRule} :
    (∃ error, (Rule.span rule).FailsFirst engine error) ↔
      ∃ error, engine.compile [rule.opening] = .error error ∨
        engine.compile [rule.template] = .error error := by
  cases opens : engine.compile [rule.opening] <;> simp [Rule.FailsFirst, opens]

/-- An engine that compiles like the standard one names the pattern that does not compile. -/
theorem pattern_of_compile_error (alike : engine.compile = Engine.standard.compile)
    {text : String} {error : CompileError} (fails : engine.compile [text] = .error error) :
    Pattern.compile? text = none ∧ error.pattern = text := by
  rw [alike] at fails
  change (Pattern.compileAll [text]).map Pattern.scanner = _ at fails
  rw [Pattern.compileAll] at fails
  split at fails
  · next absent =>
      cases fails
      exact ⟨absent, rfl⟩
  · cases fails

/-- With an engine that compiles like the standard one, the error of a rule carries the first
of its patterns that does not compile. -/
theorem find?_of_failsFirst (alike : engine.compile = Engine.standard.compile) {rule : Rule}
    {error : CompileError} (fails : rule.FailsFirst engine error) :
    rule.triedPatterns.find? (fun text => (Pattern.compile? text).isNone) =
      some error.pattern := by
  cases rule with
  | single rule =>
      obtain ⟨absent, patternEq⟩ := pattern_of_compile_error alike fails
      simp [Rule.triedPatterns, absent, patternEq]
  | span rule =>
      rcases fails with fails | ⟨opens, fails⟩
      · obtain ⟨absent, patternEq⟩ := pattern_of_compile_error alike fails
        simp [Rule.triedPatterns, absent, patternEq]
      · obtain ⟨absent, patternEq⟩ := pattern_of_compile_error alike fails
        rw [alike] at opens
        obtain ⟨compiled, compiledEq⟩ := Engine.standard_compiles_iff.mp opens
        simp [Rule.triedPatterns, compiledEq, absent, patternEq]
  | reference target => exact fails.elim
  | group members => exact fails.elim

/-! ### The walk -/

/-- The fault of a rule is the error that its document was numbered with. -/
theorem fault?_of_shape {document : RuleDocument} {error? : Option CompileError}
    {make : List RuleId → Bool → Rule} (shaped : document.shape engine = .ok (error?, make))
    (ids : List RuleId) (inert : Bool) : (make ids inert).fault? engine = error? := by
  unfold RuleDocument.shape at shaped
  split at shaped
  · obtain ⟨_, -, shaped⟩ := bind_eq_ok shaped
    obtain ⟨_, -, shaped⟩ := bind_eq_ok shaped
    cases shaped
    rfl
  · split at shaped
    · cases shaped
      rfl
    · obtain ⟨_, -, shaped⟩ := bind_eq_ok shaped
      obtain ⟨_, -, shaped⟩ := bind_eq_ok shaped
      obtain ⟨_, -, shaped⟩ := bind_eq_ok shaped
      obtain ⟨_, -, shaped⟩ := bind_eq_ok shaped
      cases shaped
      rfl

/-- What has been noted so far are the faults of the rules, and the rules with faults are
inert. -/
structure Builder.NotesFaults (engine : Engine) (builder : Builder) : Prop where
  diagnosticsEq : builder.diagnostics =
    (faults engine builder.rules).map fun fault => .inertRule fault.1 fault.2
  inertEq : ∀ rule ∈ builder.rules, rule.inert = (rule.fault? engine).isSome

/-- A rule is numbered and its fault noted, if it has one. -/
theorem Builder.NotesFaults.push {builder next : Builder} (notes : builder.NotesFaults engine)
    {rule : Rule} (rulesEq : next.rules = builder.rules.push rule)
    (diagnosticsEq : next.diagnostics = builder.diagnostics ++
      ((rule.fault? engine).map fun error => .inertRule builder.rules.size error).toList)
    (inertEq : rule.inert = (rule.fault? engine).isSome) : next.NotesFaults engine where
  diagnosticsEq := by
    rw [diagnosticsEq, notes.diagnosticsEq, rulesEq, faults_push, List.map_append]
    cases rule.fault? engine <;> rfl
  inertEq := by
    intro other member
    rw [rulesEq] at member
    rcases Array.mem_push.mp member with old | rfl
    · exact notes.inertEq other old
    · exact inertEq

theorem followsWalk_notesFaults (engine : Engine) :
    FollowsWalk engine fun before _ after =>
      before.NotesFaults engine → after.NotesFaults engine where
  refl _ notes := notes
  trans first second notes := second (first notes)
  reference _ target notes :=
    have noFault : (Rule.reference target).fault? engine = none := rfl
    notes.push rfl (by rw [noFault]; exact (List.append_nil _).symm) rfl
  around := by
    intro document error? make shaped before inner ids keeps notes
    have faultEq := fault?_of_shape shaped ids error?.isSome
    obtain ⟨diagnostics, pushedEq⟩ := inner.pushChecked_eq error? (make ids)
    have rulesEq : (inner.pushChecked error? (make ids)).2.rules =
        inner.rules.push (make ids error?.isSome) := by rw [pushedEq]
    refine (keeps notes).push rulesEq ?_ ?_
    · rw [faultEq]
      cases error? with
      | none => exact (List.append_nil _).symm
      | some error => rfl
    · rw [faultEq]
      exact RuleDocument.inert_of_shape shaped ids

/-! ### Loaded grammars -/

/-- Some faults are those of the rules of a grammar.  They stand before the other problems,
name the inert rules, each once and in the order of the rules, and carry the errors that made
the rules inert. -/
structure NotesFaults (grammar : Grammar) (faults : List (RuleId × CompileError)) : Prop where
  notedFirst : ∃ names : List String, grammar.diagnostics =
    faults.map (fun fault => .inertRule fault.1 fault.2) ++ names.map .unresolvedReference
  ascending : (faults.map Prod.fst).Pairwise fun id other => id < other
  memIffInert : ∀ id, id ∈ faults.map Prod.fst ↔
    ∃ rule, grammar.rule? id = some rule ∧ rule.inert = true
  failsFirst : ∀ fault ∈ faults, ∃ rule, grammar.rule? fault.1 = some rule ∧
    rule.FailsFirst grammar.engine fault.2
  singleInertIff : ∀ id (rule : SingleRule), grammar.rule? id = some (.single rule) →
    (rule.inert = true ↔ ∃ error, grammar.engine.compile [rule.pattern] = .error error)
  spanInertIff : ∀ id (rule : SpanRule), grammar.rule? id = some (.span rule) →
    (rule.inert = true ↔
      (∃ error, grammar.engine.compile [rule.opening] = .error error) ∨
        ∃ error, grammar.engine.compile [rule.template] = .error error)

section

variable {strict : Bool} {document : GrammarDocument} {grammar : Grammar}

/-- The walk over the document of a loaded grammar has noted the faults of all rules. -/
theorem exists_noted (loaded : ofDocument engine strict document = .ok grammar) :
    (∃ names : List String, grammar.diagnostics =
      (faults engine grammar.rules).map (fun fault => .inertRule fault.1 fault.2) ++
        names.map .unresolvedReference) ∧
    ∀ id rule, grammar.rule? id = some rule → rule.inert = (rule.fault? engine).isSome := by
  obtain ⟨draft, names, drafts, rfl⟩ := exists_draft loaded
  obtain ⟨keeps, rulesEq⟩ := (followsWalk_notesFaults engine).draft drafts
  have notes : draft.builder.NotesFaults engine := keeps ⟨rfl, fun rule member => by
    simp [Builder.empty] at member⟩
  constructor
  · refine ⟨names, ?_⟩
    change draft.builder.diagnostics ++ _ = (faults engine draft.book.rules).map _ ++ _
    rw [rulesEq, notes.diagnosticsEq]
  · intro id rule ruleEq
    refine notes.inertEq rule ?_
    rw [← rulesEq]
    exact Array.mem_of_getElem? ruleEq

theorem inert_iff_failsFirst (loaded : ofDocument engine strict document = .ok grammar)
    {id : RuleId} {rule : Rule} (ruleEq : grammar.rule? id = some rule) :
    rule.inert = true ↔ ∃ error, rule.FailsFirst engine error := by
  rw [(exists_noted loaded).2 id rule ruleEq, Option.isSome_iff_exists]
  simp only [fault?_eq_some_iff]

theorem notesFaults_of_ofDocument (loaded : ofDocument engine strict document = .ok grammar) :
    grammar.NotesFaults (faults engine grammar.rules) := by
  have engineEq : grammar.engine = engine := (ofDocument_compiles loaded).1
  refine ⟨(exists_noted loaded).1, ?_, fun id => ?_, fun fault member => ?_,
    fun id rule ruleEq => ?_, fun id rule ruleEq => ?_⟩
  · rw [List.pairwise_map]
    exact faults_ascending engine grammar.rules
  · rw [List.mem_map]
    constructor
    · rintro ⟨⟨_, error⟩, member, rfl⟩
      obtain ⟨rule, ruleEq, faultEq⟩ := mem_faults_iff.mp member
      exact ⟨rule, ruleEq,
        (inert_iff_failsFirst loaded ruleEq).mpr ⟨error, fault?_eq_some_iff.mp faultEq⟩⟩
    · rintro ⟨rule, ruleEq, inert⟩
      obtain ⟨error, fails⟩ := (inert_iff_failsFirst loaded ruleEq).mp inert
      exact ⟨(id, error), mem_faults_iff.mpr ⟨rule, ruleEq, fault?_eq_some_iff.mpr fails⟩, rfl⟩
  · obtain ⟨rule, ruleEq, faultEq⟩ := mem_faults_iff.mp member
    exact ⟨rule, ruleEq, engineEq ▸ fault?_eq_some_iff.mp faultEq⟩
  · rw [engineEq]
    exact inert_iff_failsFirst loaded ruleEq
  · rw [engineEq, ← exists_or]
    rw [← failsFirst_span_iff]
    exact inert_iff_failsFirst loaded ruleEq

/-- The rules of a text that loads form a forest.  The faults of these rules are noted before
all other problems, by the numbers of the rules, and make just these rules inert.  With an
engine that compiles like the standard one, what is noted with a rule is the first of its
patterns that does not compile. -/
theorem load_forest_faults {source : String} (loads : load engine strict source = .ok grammar) :
    grammar.engine = engine ∧ grammar.IsForest ∧ ∃ noted, grammar.NotesFaults noted ∧
      (engine.compile = Engine.standard.compile → ∀ fault ∈ noted, ∃ rule,
        grammar.rule? fault.1 = some rule ∧
          rule.triedPatterns.find? (fun text => (Pattern.compile? text).isNone) =
            some fault.2.pattern) := by
  unfold load at loads
  split at loads
  · cases loads
  next document _ =>
    have engineEq : grammar.engine = engine := (ofDocument_compiles loads).1
    have notes := notesFaults_of_ofDocument loads
    refine ⟨engineEq, isForest_of_ofDocument loads, _, notes, fun alike fault member => ?_⟩
    obtain ⟨rule, ruleEq, fails⟩ := notes.failsFirst fault member
    exact ⟨rule, ruleEq, find?_of_failsFirst alike (engineEq ▸ fails)⟩

/-- A grammar with three rules that have faults: a pattern, an opening pattern and a closing
pattern that do not compile.  One of its references names nothing. -/
def faultySource : String :=
  "\x7b\"scopeName\":\"source.faulty\",\"patterns\":[\x7b\"match\":\"(\"\x7d," ++
  "\x7b\"begin\":\"x\",\"end\":\"[\",\"patterns\":[\x7b\"match\":\"y\"\x7d]\x7d," ++
  "\x7b\"include\":\"#gone\"\x7d],\"repository\":\x7b\"named\":" ++
  "\x7b\"begin\":\"*\",\"end\":\"(\"\x7d\x7d\x7d"

theorem faultySource_forest_faults :
    ∃ grammar, load .standard false faultySource = .ok grammar ∧
      grammar.diagnostics = [.inertRule 0 ⟨"("⟩, .inertRule 2 ⟨"["⟩, .inertRule 5 ⟨"*"⟩,
        .unresolvedReference "#gone"] ∧
      grammar.IsForest ∧
      ∃ noted, grammar.NotesFaults noted ∧ ∀ fault ∈ noted, ∃ rule,
        grammar.rule? fault.1 = some rule ∧
          rule.triedPatterns.find? (fun text => (Pattern.compile? text).isNone) =
            some fault.2.pattern := by
  have evaluated : ((load .standard false faultySource).toOption.any fun grammar =>
      decide (grammar.diagnostics = [.inertRule 0 ⟨"("⟩, .inertRule 2 ⟨"["⟩,
        .inertRule 5 ⟨"*"⟩, .unresolvedReference "#gone"])) = true := by
    decide +kernel
  obtain ⟨grammar, loads, checked⟩ := exists_ok_of_any evaluated
  obtain ⟨-, forest, noted, notes, carries⟩ := load_forest_faults loads
  exact ⟨grammar, loads, of_decide_eq_true checked, forest, noted, notes, carries rfl⟩

end

end Grammar

end Scopelight
