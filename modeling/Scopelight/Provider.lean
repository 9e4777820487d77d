import Scopelight.Config
import Scopelight.Metadata
import Scopelight.Snbt.Grammar
import Scopelight.Snbt.Language
import Scopelight.Snbt.Theme
import Scopelight.TokenCache

/-!
# Language providers

A provider holds the settings, the grammar and the theme of one language and serves an
editor with them.  Grammar and theme are loaded on demand, from the configured files or
from what is built in; a load that fails leaves the provider as it was and may be repeated.
-/

namespace Scopelight

/-- The files that can be read at some moment, by their paths. -/
abbrev Files := String → FileContent

/-- Why a provider cannot do what it is asked to. -/
inductive ProviderError where
  | grammar (error : GrammarError)
  | theme (error : ThemeError)
  | unreadable
  /-- The grammar or the theme is not loaded yet. -/
  | notReady
  deriving DecidableEq

namespace ProviderError

def message : ProviderError → String
  | .grammar error => "grammar error: " ++ error.message
  | .theme error => "theme error: " ++ error.message
  | .unreadable => "I/O error"
  | .notReady => "language provider is not ready"

end ProviderError

/-- Grammar, theme and settings of one language. -/
structure Provider where
  config : Config
  engine : Engine
  grammar : Option Grammar
  theme : Option Theme
  languageNumber : UInt8

/-- A line in the packed form of an editor. -/
structure EncodedLine where
  /-- The start of each token, followed by its metadata. -/
  words : List UInt32
  endState : State
  deriving DecidableEq

/-- What a provider asks of the editor while it registers its language. -/
inductive SurfaceCall where
  | registerLanguage (language : Language)
  | setTokensProvider (languageId : String)
  | setConfiguration (languageId : String) (configuration : LanguageConfiguration)
  deriving DecidableEq

/-- What has to be published for the colors of the tokens to show. -/
structure Presentation where
  colors : List Color
  styleSheet : String
  deriving DecidableEq

namespace Provider

def new (config : Config) (engine : Engine) : Provider where
  config
  engine
  grammar := none
  theme := none
  languageNumber := 0

def readText (files : Files) (path : String) : Except ProviderError String :=
  match (files path).text? with
  | some source => .ok source
  | none => .error .unreadable

def loadGrammar (config : Config) (engine : Engine) (files : Files) :
    Except ProviderError Grammar :=
  match config.grammarPath with
  | none => (Snbt.grammar engine config.strictReferences).mapError .grammar
  | some path => do
      let source ← readText files path
      (Grammar.load engine config.strictReferences source).mapError .grammar

def loadTheme (config : Config) (files : Files) : Except ProviderError Theme :=
  match config.themePath with
  | none => Snbt.darkTheme.mapError .theme
  | some path => do
      let source ← readText files path
      (Theme.load source).mapError .theme

def loadAssets (config : Config) (engine : Engine) (files : Files) :
    Except ProviderError (Grammar × Theme) := do
  let grammar ← loadGrammar config engine files
  let theme ← loadTheme config files
  return (grammar, theme)

/-- Load grammar and theme, unless that has been done.  A theme that was set before is
kept. -/
def prepare (provider : Provider) (files : Files) :
    Provider × Except ProviderError Unit :=
  match provider.grammar with
  | some _ => (provider, .ok ())
  | none =>
      match loadAssets provider.config provider.engine files with
      | .error error => (provider, .error error)
      | .ok (grammar, theme) =>
          ({ provider with
              grammar := some grammar
              theme := some (provider.theme.getD theme) },
            .ok ())

/-- Prepare several times, as callers do that wait for each other.  The first failure
counts. -/
def prepareTimes (provider : Provider) (files : Files) :
    Nat → Provider × Except ProviderError Unit
  | 0 => (provider, .ok ())
  | count + 1 =>
      let (prepared, outcome) := provider.prepare files
      match outcome with
      | .error error => ((prepareTimes prepared files count).1, .error error)
      | .ok () => prepareTimes prepared files count

def isReady (provider : Provider) : Bool :=
  provider.grammar.isSome

/-- The grammar, once it is loaded. -/
def grammar? (provider : Provider) : Except ProviderError Grammar :=
  match provider.grammar with
  | some grammar => .ok grammar
  | none => .error .notReady

def setTheme (provider : Provider) (theme : Theme) : Provider :=
  { provider with theme := some theme }

/-- The declaration of the language, with the file extensions of the grammar as far as it
is loaded. -/
def language (provider : Provider) : Language :=
  let declared := { Snbt.language with id := provider.config.languageId }
  match provider.grammar with
  | none => declared
  | some grammar => grammar.fileTypes.foldl Language.addExtension declared

/-- How brackets and quotes of the language behave. -/
def configuration (_ : Provider) : LanguageConfiguration :=
  Snbt.configuration

/-- Register the language with an editor that answers with a number for it.  The language
is declared first; tokens and configuration follow once the grammar is loaded. -/
def register (provider : Provider) (files : Files) (number : UInt8) :
    Provider × List SurfaceCall × Except ProviderError Unit :=
  let declaration := SurfaceCall.registerLanguage provider.language
  let numbered := { provider with languageNumber := number }
  let (prepared, outcome) := numbered.prepare files
  match outcome with
  | .error error => (prepared, [declaration], .error error)
  | .ok () =>
      let id := prepared.config.languageId
      (prepared,
        [declaration, .setTokensProvider id, .setConfiguration id prepared.configuration],
        .ok ())

def presentation (provider : Provider) : Except ProviderError Presentation :=
  match provider.theme with
  | some theme => .ok ⟨theme.palette.colors, theme.palette.styleSheet⟩
  | none => .error .notReady

def tokenizeLine (provider : Provider) (line : List Char) (state : State) :
    Except ProviderError LineTokens := do
  let grammar ← provider.grammar?
  return grammar.tokenizeLineLimited provider.config.lineLimit line state

/-- The style of a scope stack; without a theme there is none. -/
def styleOf (provider : Provider) (scopes : List Scope) : Style :=
  match provider.theme with
  | some theme => theme.resolve scopes
  | none => .unstyled

def metadata (provider : Provider) (scopes : List Scope) : Metadata :=
  .encode provider.languageNumber (.ofScopes scopes) (provider.config.isBalanced scopes)
    (provider.styleOf scopes)

/-- The words of the tokens of a line.  A line has at least one token for an editor, so one
with the scope of the grammar stands in where there is none. -/
def encodeTokens (provider : Provider) (grammar : Grammar) :
    List Token → List UInt32
  | [] => [0, (provider.metadata [grammar.scopeName]).word]
  | tokens =>
      tokens.flatMap fun token =>
        [UInt32.ofNat token.start, (provider.metadata token.scopes).word]

def encodeLine (provider : Provider) (line : List Char) (state : State) :
    Except ProviderError EncodedLine := do
  let grammar ← provider.grammar?
  let result := grammar.tokenizeLineLimited provider.config.lineLimit line state
  return ⟨provider.encodeTokens grammar result.tokens, result.endState⟩

theorem encodeLine_of_grammar {provider : Provider} {grammar : Grammar}
    (loaded : provider.grammar = some grammar) (line : List Char) (state : State) :
    let result := grammar.tokenizeLineLimited provider.config.lineLimit line state
    provider.encodeLine line state =
      .ok ⟨provider.encodeTokens grammar result.tokens, result.endState⟩ := by
  rw [encodeLine, grammar?, loaded]
  rfl

theorem encodeLine_of_no_grammar {provider : Provider} (missing : provider.grammar = none)
    (line : List Char) (state : State) :
    provider.encodeLine line state = .error .notReady := by
  rw [encodeLine, grammar?, missing]
  rfl

/-- The words of a line for an editor that takes no errors: a provider that is not ready
has none and leaves the state as it is. -/
def serve (provider : Provider) (line : List Char) (state : State) : EncodedLine :=
  match provider.encodeLine line state with
  | .ok encoded => encoded
  | .error _ => ⟨[], state⟩

/-- A token cache with the line limit of the settings. -/
def newDocument (provider : Provider) : TokenCache :=
  .empty provider.config.lineLimit

/-- Bring a token cache up to date with the lines of a document. -/
def updateDocument (provider : Provider) (document : TokenCache)
    (texts : List (List Char)) : TokenCache × Nat :=
  document.update provider.grammar texts

end Provider

end Scopelight
