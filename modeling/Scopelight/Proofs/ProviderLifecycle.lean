import Scopelight.Provider

/-!
# The life of a provider

Grammar and theme of a provider are filled in by different actions, in any order, and each
attempt to load them meets other files.  The grammar is the one of the first attempt whose
files can be loaded; the theme of that attempt counts as long as no theme is set.
-/

namespace Scopelight

namespace Provider

/-- What can be asked of a provider.  An attempt to load is given the files of its moment. -/
inductive Action where
  | prepare (files : Files)
  | register (files : Files) (number : UInt8)
  | setTheme (theme : Theme)
  | present
  | tokenize (line : List Char) (state : State)
  | encode (line : List Char) (state : State)
  | updateDocument (document : TokenCache) (texts : List (List Char))

namespace Action

/-- The files that an attempt to load reads. -/
def files? : Action → Option Files
  | prepare files => some files
  | register files _ => some files
  | _ => none

/-- The theme that an action sets. -/
def theme? : Action → Option Theme
  | setTheme theme => some theme
  | _ => none

/-- What an attempt can load. -/
def assets? (config : Config) (engine : Engine) (action : Action) :
    Option (Grammar × Theme) :=
  action.files?.bind fun files => (loadAssets config engine files).toOption

end Action

/-- The provider after an action. -/
def perform (provider : Provider) : Action → Provider
  | .prepare files => (provider.prepare files).1
  | .register files number => (provider.register files number).1
  | .setTheme theme => provider.setTheme theme
  | _ => provider

/-- Whether an action succeeds, and why it does not. -/
def outcome (provider : Provider) : Action → Except ProviderError Unit
  | .prepare files => (provider.prepare files).2
  | .register files number => (provider.register files number).2.2
  | .setTheme _ => .ok ()
  | .present => provider.presentation.map fun _ => ()
  | .tokenize line state => (provider.tokenizeLine line state).map fun _ => ()
  | .encode line state => (provider.encodeLine line state).map fun _ => ()
  | .updateDocument _ _ => .ok ()

/-- The provider after some actions. -/
def after (provider : Provider) (actions : List Action) : Provider :=
  actions.foldl perform provider

/-- The action after these ones is an attempt to load, and it succeeds. -/
def LoadsAfter (provider : Provider) (before : List Action) (action : Action) : Prop :=
  action.files?.isSome = true ∧ (provider.after before).outcome action = .ok ()

/-- The theme that was set last. -/
def lastTheme? (actions : List Action) : Option Theme :=
  (actions.filterMap Action.theme?).getLast?

variable (provider : Provider)

/-! ### One action -/

theorem prepare_of_grammar {grammar : Grammar} (files : Files)
    (loaded : provider.grammar = some grammar) :
    provider.prepare files = (provider, .ok ()) := by
  simp [prepare, loaded]

theorem prepare_of_error {files : Files} {error : ProviderError}
    (missing : provider.grammar = none)
    (fails : loadAssets provider.config provider.engine files = .error error) :
    provider.prepare files = (provider, .error error) := by
  simp [prepare, missing, fails]

theorem prepare_of_ok {files : Files} {assets : Grammar × Theme}
    (missing : provider.grammar = none)
    (loads : loadAssets provider.config provider.engine files = .ok assets) :
    provider.prepare files =
      ({ provider with
          grammar := some assets.1
          theme := some (provider.theme.getD assets.2) },
        .ok ()) := by
  simp [prepare, missing, loads]

theorem register_fst (files : Files) (number : UInt8) :
    (provider.register files number).1 =
      (({ provider with languageNumber := number } : Provider).prepare files).1 := by
  simp only [register]
  split <;> rfl

theorem register_outcome (files : Files) (number : UInt8) :
    (provider.register files number).2.2 =
      (({ provider with languageNumber := number } : Provider).prepare files).2 := by
  simp only [register]
  split <;> simp_all

/-- What an attempt to load changes. -/
theorem prepare_keeps (files : Files) :
    let prepared := (provider.prepare files).1
    let assets := (loadAssets provider.config provider.engine files).toOption
    prepared.config = provider.config ∧ prepared.engine = provider.engine ∧
      prepared.grammar = provider.grammar.or (assets.map Prod.fst) ∧
      prepared.theme =
        provider.theme.or (if provider.isReady then none else assets.map Prod.snd) := by
  intro prepared assets
  cases found : provider.grammar with
  | some grammar =>
      have ready : provider.isReady = true := by simp [isReady, found]
      simp [prepared, provider.prepare_of_grammar files found, found, ready]
  | none =>
      have waiting : provider.isReady = false := by simp [isReady, found]
      cases loaded : loadAssets provider.config provider.engine files with
      | error error =>
          simp [prepared, assets, provider.prepare_of_error found loaded, found, loaded,
            Except.toOption]
      | ok pair =>
          simp [prepared, assets, provider.prepare_of_ok found loaded, loaded, waiting,
            Except.toOption]

/-- What an action changes: the grammar is filled in once, and the theme is set, or filled in
together with the grammar. -/
theorem perform_keeps (action : Action) :
    let next := provider.perform action
    let assets := action.assets? provider.config provider.engine
    next.config = provider.config ∧ next.engine = provider.engine ∧
      next.grammar = provider.grammar.or (assets.map Prod.fst) ∧
      next.theme =
        action.theme?.or
          (provider.theme.or (if provider.isReady then none else assets.map Prod.snd)) := by
  cases action with
  | prepare files => exact provider.prepare_keeps files
  | register files number =>
      simp only [perform, register_fst]
      exact ({ provider with languageNumber := number } : Provider).prepare_keeps files
  | setTheme theme =>
      simp [perform, setTheme, Action.assets?, Action.files?, Action.theme?]
  | present | tokenize | encode | updateDocument =>
      simp [perform, Action.assets?, Action.files?, Action.theme?]

@[simp]
theorem perform_config (action : Action) :
    (provider.perform action).config = provider.config :=
  (provider.perform_keeps action).1

@[simp]
theorem perform_engine (action : Action) :
    (provider.perform action).engine = provider.engine :=
  (provider.perform_keeps action).2.1

theorem prepare_ok_iff (files : Files) :
    (provider.prepare files).2 = .ok () ↔
      provider.isReady = true ∨
        ∃ assets, loadAssets provider.config provider.engine files = .ok assets := by
  cases found : provider.grammar with
  | some grammar => simp [provider.prepare_of_grammar files found, isReady, found]
  | none =>
      cases loaded : loadAssets provider.config provider.engine files with
      | error error => simp [provider.prepare_of_error found loaded, isReady, found]
      | ok assets => simp [provider.prepare_of_ok found loaded]

/-- An attempt succeeds if the grammar is there already or the files can be loaded now. -/
theorem outcome_ok_iff {action : Action} {files : Files}
    (attempt : action.files? = some files) :
    provider.outcome action = .ok () ↔
      provider.isReady = true ∨
        ∃ assets, loadAssets provider.config provider.engine files = .ok assets := by
  cases action with
  | prepare others =>
      obtain rfl : others = files := Option.some.inj attempt
      exact provider.prepare_ok_iff _
  | register others number =>
      obtain rfl : others = files := Option.some.inj attempt
      rw [outcome, register_outcome, prepare_ok_iff]
      rfl
  | setTheme | present | tokenize | encode | updateDocument => simp [Action.files?] at attempt

/-- An attempt fails only if the grammar is not there and the files cannot be loaded. -/
theorem waiting_of_error {action : Action} {files : Files} {error : ProviderError}
    (attempt : action.files? = some files) (fails : provider.outcome action = .error error) :
    provider.isReady = false ∧
      action.assets? provider.config provider.engine = none := by
  have notOk : ¬provider.outcome action = .ok () := by simp [fails]
  rw [provider.outcome_ok_iff attempt, not_or, Bool.not_eq_true] at notOk
  refine ⟨notOk.1, ?_⟩
  cases loaded : loadAssets provider.config provider.engine files with
  | ok assets => exact absurd ⟨assets, loaded⟩ notOk.2
  | error error => simp [Action.assets?, attempt, loaded, Except.toOption]

/-- An attempt that fails leaves all as it was, but for the number of the language. -/
theorem perform_of_error {action : Action} {files : Files} {error : ProviderError}
    (attempt : action.files? = some files) (fails : provider.outcome action = .error error) :
    (provider.perform action).grammar = provider.grammar ∧
      (provider.perform action).theme = provider.theme := by
  have noAssets := (provider.waiting_of_error attempt fails).2
  have setsNone : action.theme? = none := by
    cases action <;> simp_all [Action.files?, Action.theme?]
  obtain ⟨-, -, grammarEq, themeEq⟩ := provider.perform_keeps action
  rw [noAssets] at grammarEq themeEq
  rw [setsNone] at themeEq
  exact ⟨by simpa using grammarEq, by simpa using themeEq⟩

theorem isReady_of_ok {action : Action} {files : Files} (attempt : action.files? = some files)
    (succeeds : provider.outcome action = .ok ()) :
    (provider.perform action).isReady = true := by
  rw [provider.outcome_ok_iff attempt] at succeeds
  rw [isReady, (provider.perform_keeps action).2.2.1]
  rcases succeeds with ready | ⟨assets, loads⟩
  · obtain ⟨grammar, found⟩ := Option.isSome_iff_exists.mp ready
    simp [found]
  · simp [Action.assets?, attempt, loads, Except.toOption]

/-! ### A run -/

@[simp]
theorem after_nil : provider.after [] = provider :=
  rfl

@[simp]
theorem after_cons (action : Action) (actions : List Action) :
    provider.after (action :: actions) = (provider.perform action).after actions :=
  rfl

theorem after_append (first second : List Action) :
    provider.after (first ++ second) = (provider.after first).after second :=
  List.foldl_append

theorem lastTheme?_cons (action : Action) (actions : List Action) :
    lastTheme? (action :: actions) = (lastTheme? actions).or action.theme? := by
  cases found : action.theme? with
  | none => simp [lastTheme?, found]
  | some theme => simp [lastTheme?, found, List.getLast?_cons]

/-- What a run changes, by induction on its actions: the first attempt that can load fills in
the grammar, and it fills in the theme if none is there and none is set. -/
theorem after_keeps (actions : List Action) :
    let last := provider.after actions
    let assets := actions.findSome? (Action.assets? provider.config provider.engine)
    last.config = provider.config ∧ last.engine = provider.engine ∧
      last.grammar = provider.grammar.or (assets.map Prod.fst) ∧
      last.theme =
        (lastTheme? actions).or
          (provider.theme.or (if provider.isReady then none else assets.map Prod.snd)) := by
  induction actions generalizing provider with
  | nil => simp [lastTheme?]
  | cons action actions ih =>
      obtain ⟨configEq, engineEq, grammarEq, themeEq⟩ := provider.perform_keeps action
      obtain ⟨lastConfig, lastEngine, lastGrammar, lastTheme⟩ :=
        ih (provider.perform action)
      rw [configEq, engineEq] at lastGrammar lastTheme
      refine ⟨lastConfig.trans configEq, lastEngine.trans engineEq, ?_, ?_⟩
      · rw [after_cons, lastGrammar, grammarEq, Option.or_assoc, List.findSome?_cons]
        cases action.assets? provider.config provider.engine <;> simp
      · have readyEq : (provider.perform action).isReady =
            (provider.isReady || (action.assets? provider.config provider.engine).isSome) := by
          rw [isReady, grammarEq]
          simp [isReady]
        rw [after_cons, lastTheme, themeEq, readyEq, lastTheme?_cons, List.findSome?_cons,
          Option.or_assoc, Option.or_assoc, Option.or_assoc]
        cases provider.isReady <;>
          cases action.assets? provider.config provider.engine <;> simp

theorem after_isReady {actions : List Action} (ready : provider.isReady = true) :
    (provider.after actions).grammar = provider.grammar := by
  rw [(provider.after_keeps actions).2.2.1]
  obtain ⟨grammar, found⟩ := Option.isSome_iff_exists.mp ready
  simp [found]

variable (config : Config) (engine : Engine)

theorem grammar_after_new (actions : List Action) :
    ((new config engine).after actions).grammar =
      (actions.findSome? (Action.assets? config engine)).map Prod.fst := by
  rw [((new config engine).after_keeps actions).2.2.1]
  simp [new]

theorem theme_after_new (actions : List Action) :
    ((new config engine).after actions).theme =
      (lastTheme? actions).or
        ((actions.findSome? (Action.assets? config engine)).map Prod.snd) := by
  rw [((new config engine).after_keeps actions).2.2.2]
  simp [new, isReady]

/-- Something was loaded in a run exactly if it came from an attempt before which the provider
was not ready. -/
theorem findSome?_assets_iff (actions : List Action) (assets : Grammar × Theme) :
    actions.findSome? (Action.assets? config engine) = some assets ↔
      ∃ before action later files, actions = before ++ action :: later ∧
        action.files? = some files ∧
        ((new config engine).after before).isReady = false ∧
        loadAssets config engine files = .ok assets := by
  have waitingIff (before : List Action) :
      ((new config engine).after before).isReady = false ↔
        ∀ action ∈ before, action.assets? config engine = none := by
    rw [isReady, grammar_after_new]
    simp
  have assetsIff (action : Action) :
      action.assets? config engine = some assets ↔
        ∃ files, action.files? = some files ∧ loadAssets config engine files = .ok assets := by
    simp only [Action.assets?, Option.bind_eq_some_iff]
    refine exists_congr fun files => and_congr_right fun _ => ?_
    cases loadAssets config engine files <;> simp [Except.toOption]
  rw [List.findSome?_eq_some_iff]
  constructor
  · rintro ⟨before, action, later, rfl, found, noneBefore⟩
    obtain ⟨files, attempt, loads⟩ := (assetsIff action).mp found
    exact ⟨before, action, later, files, rfl, attempt, (waitingIff before).mpr noneBefore,
      loads⟩
  · rintro ⟨before, action, later, files, rfl, attempt, waiting, loads⟩
    exact ⟨before, action, later, rfl, (assetsIff action).mpr ⟨files, attempt, loads⟩,
      (waitingIff before).mp waiting⟩

/-- An attempt in a run succeeds if the grammar is there by then or its files can be loaded. -/
theorem outcome_after_new_ok_iff (before : List Action) {action : Action} {files : Files}
    (attempt : action.files? = some files) :
    ((new config engine).after before).outcome action = .ok () ↔
      ((new config engine).after before).isReady = true ∨
        ∃ assets, loadAssets config engine files = .ok assets := by
  obtain ⟨configEq, engineEq, -, -⟩ := (new config engine).after_keeps before
  rw [outcome_ok_iff _ attempt, configEq, engineEq]
  rfl

theorem loadsAfter_of_loads (before : List Action) {action : Action} {files : Files}
    {assets : Grammar × Theme} (attempt : action.files? = some files)
    (loads : loadAssets config engine files = .ok assets) :
    (new config engine).LoadsAfter before action :=
  ⟨by simp [attempt],
    (outcome_after_new_ok_iff config engine before attempt).mpr (.inr ⟨assets, loads⟩)⟩

/-- A provider is ready exactly if an attempt to load succeeded. -/
theorem isReady_after_new (actions : List Action) :
    ((new config engine).after actions).isReady = true ↔
      ∃ before action later, actions = before ++ action :: later ∧
        (new config engine).LoadsAfter before action := by
  constructor
  · intro ready
    rw [isReady, grammar_after_new, Option.isSome_map, Option.isSome_iff_exists] at ready
    obtain ⟨assets, found⟩ := ready
    obtain ⟨before, action, later, files, split, attempt, -, loads⟩ :=
      (findSome?_assets_iff config engine actions assets).mp found
    exact ⟨before, action, later, split, loadsAfter_of_loads config engine before attempt loads⟩
  · rintro ⟨before, action, later, rfl, attempt, succeeds⟩
    obtain ⟨files, attempt⟩ := Option.isSome_iff_exists.mp attempt
    have ready := isReady_of_ok _ attempt succeeds
    rw [after_append, after_cons, isReady, after_isReady _ ready]
    exact ready

/-- After an attempt that failed, whether another one succeeds depends on its own files
alone. -/
theorem outcome_after_error_ok_iff {actions : List Action} {action again : Action}
    {files others : Files} {error : ProviderError} (attempt : action.files? = some files)
    (fails : ((new config engine).after actions).outcome action = .error error)
    (attemptAgain : again.files? = some others) :
    (((new config engine).after actions).perform action).outcome again = .ok () ↔
      ∃ assets, loadAssets config engine others = .ok assets := by
  have waiting := (waiting_of_error _ attempt fails).1
  have failedEq : ((new config engine).after actions).perform action =
      (new config engine).after (actions ++ [action]) := by
    rw [after_append, after_cons, after_nil]
  have stillWaiting : ((new config engine).after (actions ++ [action])).isReady = false := by
    rw [← failedEq, isReady, (perform_of_error _ attempt fails).1]
    exact waiting
  rw [failedEq, outcome_after_new_ok_iff config engine _ attemptAgain, stillWaiting]
  simp

/-- If no theme was set, the theme is the one that was loaded together with the grammar. -/
theorem theme_after_new_iff {actions : List Action} (noneSet : lastTheme? actions = none)
    (theme : Theme) :
    ((new config engine).after actions).theme = some theme ↔
      ∃ before action later files grammar, actions = before ++ action :: later ∧
        action.files? = some files ∧ ((new config engine).after before).isReady = false ∧
        (new config engine).LoadsAfter before action ∧
        loadAssets config engine files = .ok (grammar, theme) := by
  rw [theme_after_new, noneSet, Option.none_or, Option.map_eq_some_iff]
  constructor
  · rintro ⟨⟨grammar, theme⟩, found, rfl⟩
    obtain ⟨before, action, later, files, split, attempt, waiting, loads⟩ :=
      (findSome?_assets_iff config engine actions _).mp found
    exact ⟨before, action, later, files, grammar, split, attempt, waiting,
      loadsAfter_of_loads config engine before attempt loads, loads⟩
  · rintro ⟨before, action, later, files, grammar, split, attempt, waiting, -, loads⟩
    exact ⟨(grammar, theme),
      (findSome?_assets_iff config engine actions _).mpr
        ⟨before, action, later, files, split, attempt, waiting, loads⟩, rfl⟩

/-! ### What needs grammar or theme -/

theorem presentation_error_iff (error : ProviderError) :
    provider.presentation = .error error ↔ error = .notReady ∧ provider.theme = none := by
  cases found : provider.theme <;> simp [presentation, found, eq_comm]

theorem grammar?_of_ready (ready : provider.isReady = true) :
    ∃ grammar, provider.grammar? = .ok grammar := by
  obtain ⟨grammar, found⟩ := Option.isSome_iff_exists.mp ready
  exact ⟨grammar, by simp [grammar?, found]⟩

theorem grammar?_of_not_ready (waiting : provider.isReady = false) :
    provider.grammar? = .error .notReady := by
  have missing : provider.grammar = none := by simpa [isReady] using waiting
  simp [grammar?, missing]

theorem tokenizeLine_error_iff (line : List Char) (state : State) (error : ProviderError) :
    provider.tokenizeLine line state = .error error ↔
      error = .notReady ∧ provider.isReady = false := by
  cases ready : provider.isReady with
  | true =>
      obtain ⟨grammar, found⟩ := provider.grammar?_of_ready ready
      simp [tokenizeLine, found, bind, Except.bind, pure, Except.pure]
  | false =>
      simp [tokenizeLine, provider.grammar?_of_not_ready ready, bind, Except.bind, eq_comm]

theorem encodeLine_error_iff (line : List Char) (state : State) (error : ProviderError) :
    provider.encodeLine line state = .error error ↔
      error = .notReady ∧ provider.isReady = false := by
  cases loaded : provider.grammar with
  | some grammar => simp [encodeLine_of_grammar loaded, isReady, loaded]
  | none => simp [encodeLine_of_no_grammar loaded, isReady, loaded, eq_comm]

/-- The life of a provider.  It is ready once an attempt to load has succeeded, and keeps that
grammar.  An attempt that fails changes nothing, and the next one depends on its own files
alone.  The theme is the one that was set last, or else the one that was loaded together
with the grammar.  Only the presentation needs a theme; tokens need the grammar. -/
theorem lifecycle (actions : List Action) :
    let start := new config engine
    let provider := start.after actions
    (provider.isReady = true ↔
      ∃ before action later, actions = before ++ action :: later ∧
        start.LoadsAfter before action) ∧
    (provider.isReady = true →
      ∀ further, (provider.after further).grammar? = provider.grammar?) ∧
    (∀ action files error, action.files? = some files →
      provider.outcome action = .error error →
        let failed := provider.perform action
        failed.isReady = provider.isReady ∧ failed.grammar? = provider.grammar? ∧
          failed.theme = provider.theme ∧
          ∀ again others, again.files? = some others →
            (failed.outcome again = .ok () ↔
              ∃ assets, loadAssets config engine others = .ok assets)) ∧
    (∀ theme, lastTheme? actions = some theme → provider.theme = some theme) ∧
    (lastTheme? actions = none → ∀ theme,
      (provider.theme = some theme ↔
        ∃ before action later files grammar, actions = before ++ action :: later ∧
          action.files? = some files ∧ (start.after before).isReady = false ∧
          start.LoadsAfter before action ∧
          loadAssets config engine files = .ok (grammar, theme))) ∧
    (∀ error, provider.presentation = .error error ↔
      error = .notReady ∧ provider.theme = none) ∧
    (∀ line state error, provider.tokenizeLine line state = .error error ↔
      error = .notReady ∧ provider.isReady = false) ∧
    (∀ line state error, provider.encodeLine line state = .error error ↔
      error = .notReady ∧ provider.isReady = false) := by
  intro start provider
  refine ⟨isReady_after_new config engine actions, ?_, ?_, ?_,
    fun noneSet => theme_after_new_iff config engine noneSet,
    provider.presentation_error_iff, provider.tokenizeLine_error_iff,
    provider.encodeLine_error_iff⟩
  · intro ready further
    rw [grammar?, provider.after_isReady ready, grammar?]
  · intro action files error attempt fails failed
    obtain ⟨grammarEq, themeEq⟩ := provider.perform_of_error attempt fails
    exact ⟨congrArg Option.isSome grammarEq, by rw [grammar?, grammarEq, grammar?], themeEq,
      fun _ _ attemptAgain =>
        outcome_after_error_ok_iff config engine attempt fails attemptAgain⟩
  · intro theme lastSet
    rw [theme_after_new, lastSet, Option.some_or]

/-- Settings that name a file for the grammar and one for the theme. -/
def filedConfig : Config where
  grammarPath := some "marks.json"
  themePath := some "marks-theme.json"

/-- A file with a small grammar, and perhaps one with a small theme. -/
def markFiles (themed : Bool) : Files := fun path =>
  if path = "marks.json" then
    .ofText "\x7b\"scopeName\": \"text.marks\", \"patterns\": []\x7d"
  else if themed && path = "marks-theme.json" then .ofText "\x7b\"name\": \"Marks\"\x7d"
  else .missing

/-- The theme is missing at the first attempt, which fails, and there at the second one. -/
theorem lifecycle_markFiles :
    let start := new filedConfig .standard
    let first := Action.prepare (markFiles false)
    let second := Action.register (markFiles true) 7
    let failed := start.perform first
    let provider := start.after [first, second]
    (∃ error, start.outcome first = .error error) ∧ failed.isReady = false ∧
      failed.outcome second = .ok () ∧ provider.isReady = true ∧
      (∃ theme, theme.name = some "Marks" ∧ provider.theme = some theme) ∧
      (∀ error, provider.presentation ≠ .error error) ∧
      ∀ line state error, provider.encodeLine line state ≠ .error error := by
  intro start first second failed provider
  have evaluated : (start.outcome first).toBool = false ∧
      (loadAssets filedConfig .standard (markFiles true)).toOption.any
        (fun assets => assets.2.name == some "Marks") = true := by
    decide +kernel
  obtain ⟨fails, loads⟩ := evaluated
  have fails : ∃ error, start.outcome first = .error error := by
    cases found : start.outcome first with
    | error error => exact ⟨error, rfl⟩
    | ok result => simp [found, Except.toBool] at fails
  have loads : ∃ assets, loadAssets filedConfig .standard (markFiles true) = .ok assets ∧
      assets.2.name = some "Marks" := by
    cases found : loadAssets filedConfig .standard (markFiles true) with
    | error error => simp [found, Except.toOption] at loads
    | ok assets => exact ⟨assets, rfl, by simpa [found, Except.toOption] using loads⟩
  obtain ⟨error, fails⟩ := fails
  obtain ⟨⟨grammar, theme⟩, loads, named⟩ := loads
  obtain ⟨-, -, failure, -⟩ := lifecycle filedConfig .standard []
  obtain ⟨waiting, -, -, retried⟩ := failure first (markFiles false) error rfl fails
  have succeeds : failed.outcome second = .ok () :=
    (retried second (markFiles true) rfl).mpr ⟨_, loads⟩
  obtain ⟨readyIff, -, -, -, themeIff, presentsIff, -, encodesIff⟩ :=
    lifecycle filedConfig .standard [first, second]
  have ready : provider.isReady = true :=
    readyIff.mpr ⟨[first], second, [], rfl, rfl, succeeds⟩
  have themed : provider.theme = some theme :=
    (themeIff rfl theme).mpr
      ⟨[first], second, [], markFiles true, grammar, rfl, rfl, waiting, ⟨rfl, succeeds⟩, loads⟩
  refine ⟨⟨error, fails⟩, waiting, succeeds, ready, ⟨theme, named, themed⟩, ?_, ?_⟩
  · intro error absent
    have missing := ((presentsIff error).mp absent).2
    rw [themed] at missing
    cases missing
  · intro line state error absent
    have missing := ((encodesIff line state error).mp absent).2
    rw [ready] at missing
    cases missing

end Provider

end Scopelight
