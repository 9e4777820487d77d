import Scopelight.Proofs.ProviderLifecycle

/-!
# The registered language

A provider declares its language before the grammar is loaded.  The declaration lists the
file types of the grammar only if an earlier attempt has loaded it; afterwards the language
of the provider has them in any case.
-/

namespace Scopelight

namespace Language

/-- The extension is there after it was added, or it is empty. -/
theorem mem_addExtension_iff (language : Language) (text extension : String) :
    extension ∈ (language.addExtension text).extensions ↔
      extension ∈ language.extensions ∨
        extension ≠ "" ∧ normalExtension text = extension := by
  simp only [addExtension]
  split
  · next kept =>
      rw [Bool.or_eq_true, String.isEmpty_iff, List.contains_iff_mem] at kept
      constructor
      · exact .inl
      · rintro (present | ⟨nonempty, rfl⟩)
        · exact present
        · exact kept.resolve_left nonempty
  · next added =>
      rw [Bool.or_eq_true, String.isEmpty_iff, not_or] at added
      rw [List.mem_append, List.mem_singleton]
      refine or_congr_right ⟨?_, fun ⟨_, same⟩ => same.symm⟩
      rintro rfl
      exact ⟨added.1, rfl⟩

/-- An extension that is empty or already there changes nothing. -/
theorem addExtension_eq_self {language : Language} {text : String}
    (known : normalExtension text = "" ∨ normalExtension text ∈ language.extensions) :
    language.addExtension text = language := by
  simp only [addExtension]
  rw [if_pos]
  simpa using known

/-- The extensions after some were added, by induction on these. -/
theorem mem_addExtensions_iff (language : Language) (texts : List String)
    (extension : String) :
    extension ∈ (texts.foldl addExtension language).extensions ↔
      extension ∈ language.extensions ∨
        extension ≠ "" ∧ ∃ text ∈ texts, normalExtension text = extension := by
  induction texts generalizing language with
  | nil => simp
  | cons text texts ih =>
      rw [List.foldl_cons, ih, mem_addExtension_iff, or_assoc, ← and_or_left]
      simp

/-- Adding extensions changes a language unless all of them are empty or already there. -/
theorem addExtensions_eq_self_iff (language : Language) (texts : List String) :
    texts.foldl addExtension language = language ↔
      ∀ text ∈ texts,
        normalExtension text = "" ∨ normalExtension text ∈ language.extensions := by
  constructor
  · intro same text textMem
    have known := language.mem_addExtensions_iff texts (normalExtension text)
    rw [same] at known
    by_cases empty : normalExtension text = ""
    · exact .inl empty
    · exact .inr (known.mpr (.inr ⟨empty, text, textMem, rfl⟩))
  · intro known
    induction texts with
    | nil => rfl
    | cons text texts ih =>
        rw [List.foldl_cons, addExtension_eq_self (known text List.mem_cons_self)]
        exact ih fun other otherMem => known other (List.mem_cons_of_mem _ otherMem)

end Language

namespace Provider

variable (provider : Provider)

/-- The language before the grammar is loaded: the built-in one under the configured id. -/
def declared : Language :=
  { Snbt.language with id := provider.config.languageId }

theorem language_of_grammar {grammar : Grammar} (loaded : provider.grammar = some grammar) :
    provider.language = grammar.fileTypes.foldl Language.addExtension provider.declared := by
  simp [language, declared, loaded]

theorem language_of_not_ready (waiting : provider.isReady = false) :
    provider.language = provider.declared := by
  have missing : provider.grammar = none := by simpa [isReady] using waiting
  simp [language, declared, missing]

theorem mem_language_of_grammar {grammar : Grammar} (loaded : provider.grammar = some grammar)
    {text : String} (textMem : text ∈ grammar.fileTypes)
    (nonempty : Language.normalExtension text ≠ "") :
    Language.normalExtension text ∈ provider.language.extensions := by
  rw [provider.language_of_grammar loaded, Language.mem_addExtensions_iff]
  exact .inr ⟨nonempty, text, textMem, rfl⟩

/-- The calls of a registration that succeeds. -/
theorem register_calls {files : Files} {number : UInt8}
    (succeeds : (provider.register files number).2.2 = .ok ()) :
    (provider.register files number).2.1 =
      [.registerLanguage provider.language,
        .setTokensProvider provider.config.languageId,
        .setConfiguration provider.config.languageId provider.configuration] := by
  obtain ⟨configEq, -⟩ :=
    ({ provider with languageNumber := number } : Provider).prepare_keeps files
  rw [register_outcome] at succeeds
  simp only [register, succeeds, configEq, configuration]

/-- A registration that succeeds leaves the provider with a grammar, the one it had if it
had one, and with the same settings. -/
theorem register_grammar {files : Files} {number : UInt8}
    (succeeds : (provider.register files number).2.2 = .ok ()) :
    let registered := (provider.register files number).1
    registered.declared = provider.declared ∧
      (∃ grammar, registered.grammar = some grammar) ∧
      (provider.isReady = true → registered.grammar = provider.grammar) := by
  intro registered
  obtain ⟨configEq, -, grammarEq, -⟩ := provider.perform_keeps (.register files number)
  have attempt : (Action.register files number).files? = some files := rfl
  have ready : registered.isReady = true := provider.isReady_of_ok attempt succeeds
  refine ⟨by rw [declared, declared, ← configEq]; rfl,
    Option.isSome_iff_exists.mp ready, fun already => ?_⟩
  obtain ⟨grammar, found⟩ := Option.isSome_iff_exists.mp already
  exact grammarEq.trans (by simp [found])

/-- What a registration hands to the editor is the language from before the grammar was
loaded.  The language of the provider has all file types of the grammar afterwards; it is
the one that was handed over if the grammar was there already, or if the file types add
nothing to the built-in extensions. -/
theorem register_declares {files : Files} {number : UInt8}
    (succeeds : (provider.register files number).2.2 = .ok ()) :
    let registered := (provider.register files number).1
    (provider.register files number).2.1 =
      [.registerLanguage provider.language,
        .setTokensProvider provider.config.languageId,
        .setConfiguration provider.config.languageId provider.configuration] ∧
    ∃ grammar, registered.grammar = some grammar ∧
      (∀ text ∈ grammar.fileTypes, Language.normalExtension text ≠ "" →
        Language.normalExtension text ∈ registered.language.extensions) ∧
      (provider.isReady = true → provider.language = registered.language) ∧
      (provider.isReady = false →
        provider.language = provider.declared ∧
          (provider.language = registered.language ↔
            ∀ text ∈ grammar.fileTypes, Language.normalExtension text = "" ∨
              Language.normalExtension text ∈ Snbt.language.extensions)) := by
  intro registered
  obtain ⟨declaredEq, ⟨grammar, loaded⟩, kept⟩ := provider.register_grammar succeeds
  have languageEq := registered.language_of_grammar loaded
  refine ⟨provider.register_calls succeeds, grammar, loaded, ?_, ?_, ?_⟩
  · intro text textMem nonempty
    exact registered.mem_language_of_grammar loaded textMem nonempty
  · intro ready
    rw [languageEq, provider.language_of_grammar ((kept ready).symm.trans loaded),
      declaredEq]
  · intro waiting
    have before := provider.language_of_not_ready waiting
    refine ⟨before, ?_⟩
    rw [before, languageEq, declaredEq, eq_comm, Language.addExtensions_eq_self_iff]
    rfl

/-- Settings that name a file for the grammar. -/
def archiveConfig : Config where
  grammarPath := some "archive.json"

/-- A file with a grammar that declares a file type. -/
def archiveFiles : Files := fun path =>
  if path = "archive.json" then
    .ofText "\x7b\"scopeName\": \"source.nbt\", \"fileTypes\": [\".NBT\"], \"patterns\": []\x7d"
  else .missing

/-- The provider that reads this file, before it has done so. -/
def archiveProvider : Provider :=
  new archiveConfig .standard

theorem archiveProvider_loads :
    (archiveProvider.register archiveFiles 7).2.2 = .ok () ∧
      ∃ grammar, (archiveProvider.register archiveFiles 7).1.grammar = some grammar ∧
        grammar.fileTypes = [".NBT"] := by
  have evaluated : (archiveProvider.register archiveFiles 7).2.2.toBool = true ∧
      ((archiveProvider.register archiveFiles 7).1.grammar.any fun grammar =>
        grammar.fileTypes == [".NBT"]) = true := by
    decide +kernel
  obtain ⟨succeeds, declares⟩ := evaluated
  obtain ⟨grammar, loaded, same⟩ := (Option.any_eq_true _ _).mp declares
  refine ⟨?_, grammar, loaded, eq_of_beq same⟩
  cases found : (archiveProvider.register archiveFiles 7).2.2 with
  | ok result => rfl
  | error error =>
      rw [found] at succeeds
      cases succeeds

theorem normalExtension_archive :
    Language.normalExtension ".NBT" ≠ "" ∧
      Language.normalExtension ".NBT" ∉ Snbt.language.extensions := by
  decide +kernel

/-- Registered at first, the language lacks the file type that it has afterwards. -/
theorem register_declares_archive :
    (archiveProvider.register archiveFiles 7).2.2 = .ok () ∧
      (archiveProvider.register archiveFiles 7).2.1.head? =
        some (.registerLanguage archiveProvider.declared) ∧
      archiveProvider.declared ≠ (archiveProvider.register archiveFiles 7).1.language := by
  obtain ⟨succeeds, grammar, loaded, fileTypesEq⟩ := archiveProvider_loads
  obtain ⟨calls, other, otherLoaded, -, -, fresh⟩ := register_declares archiveProvider succeeds
  obtain rfl : grammar = other := Option.some.inj (loaded.symm.trans otherLoaded)
  obtain ⟨declaredEq, sameIff⟩ := fresh rfl
  refine ⟨succeeds, ?_, ?_⟩
  · rw [calls, declaredEq, List.head?_cons]
  · intro same
    have known := sameIff.mp (declaredEq.trans same) ".NBT" (by simp [fileTypesEq])
    exact known.elim normalExtension_archive.1 normalExtension_archive.2

/-- Not every registration declares the language that the provider has afterwards. -/
theorem not_register_declares_afterwards :
    ¬∀ (provider : Provider) (files : Files) (number : UInt8),
      (provider.register files number).2.2 = .ok () →
        SurfaceCall.registerLanguage (provider.register files number).1.language ∈
          (provider.register files number).2.1 := by
  intro always
  obtain ⟨succeeds, grammar, loaded, fileTypesEq⟩ := archiveProvider_loads
  have handed := always archiveProvider archiveFiles 7 succeeds
  rw [register_calls _ succeeds] at handed
  have same : (archiveProvider.register archiveFiles 7).1.language =
      archiveProvider.language := by
    simpa using handed
  have declares : ".NBT" ∈ grammar.fileTypes := by simp [fileTypesEq]
  have present := mem_language_of_grammar _ loaded declares normalExtension_archive.1
  rw [same, language_of_not_ready _ rfl] at present
  exact normalExtension_archive.2 present

end Provider

end Scopelight
