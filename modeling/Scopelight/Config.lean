import Scopelight.Scope
import Scopelight.Toml.Parser

/-!
# Settings

The settings of a highlighter are read from a TOML document.  Unknown keys are passed over
and missing ones have defaults.
-/

namespace Scopelight

/-- What a file holds. -/
inductive FileContent where
  | missing
  | bytes (content : ByteArray)

namespace FileContent

def ofText (text : String) : FileContent :=
  .bytes text.toUTF8

/-- The text of a file, if it is there and holds a text. -/
def text? : FileContent → Option String
  | .missing => none
  | .bytes content => String.fromUTF8? content

end FileContent

/-- The settings of a highlighter. -/
structure Config where
  /-- The id under which the language is registered. -/
  languageId : String := "snbt"
  /-- The greatest number of bytes of a line that is scanned. -/
  lineLimit : Nat := 20000
  /-- Whether a reference that resolves to nothing keeps a grammar from loading. -/
  strictReferences : Bool := true
  /-- The selectors of the tokens whose brackets are matched. -/
  balancedSelectors : List String := ["*"]
  /-- The file that holds the grammar, if it is not the built-in one. -/
  grammarPath : Option String := none
  /-- The file that holds the theme, if it is not the built-in one. -/
  themePath : Option String := none
  deriving DecidableEq

/-- Why settings cannot be read. -/
inductive ConfigError where
  | unreadable
  | malformed
  deriving DecidableEq

namespace Config

def string? : Toml → Option String
  | .string value => some value
  | _ => none

def boolean? : Toml → Option Bool
  | .boolean value => some value
  | _ => none

/-- An integer that is not negative. -/
def count? : Toml → Option Nat
  | .integer value => if 0 ≤ value then some value.toNat else none
  | _ => none

def strings? : Toml → Option (List String)
  | .array items => items.mapM string?
  | _ => none

/-- The setting under a key, or its default where the key is missing. -/
def setting? {Value : Type} (fields : TomlFields) (key : String) (fallback : Value)
    (read : Toml → Option Value) : Option Value :=
  match Toml.field? key fields with
  | none => some fallback
  | some value => read value

def ofFields? (fields : TomlFields) : Option Config := do
  let defaults : Config := {}
  return {
    languageId := ← setting? fields "language-id" defaults.languageId string?
    lineLimit := max 1 (← setting? fields "max-line-length" defaults.lineLimit count?)
    strictReferences := ←
      setting? fields "strict-references" defaults.strictReferences boolean?
    balancedSelectors := ←
      setting? fields "balanced-bracket-selectors" defaults.balancedSelectors strings?
    grammarPath := ← setting? fields "grammar-path" none fun value => (string? value).map some
    themePath := ← setting? fields "theme-path" none fun value => (string? value).map some
  }

def parse (source : String) : Except ConfigError Config :=
  match (Toml.parse? source).bind ofFields? with
  | some config => .ok config
  | none => .error .malformed

def ofFile (file : FileContent) : Except ConfigError Config :=
  match file.text? with
  | some source => parse source
  | none => .error .unreadable

/-- The settings of a user, given the file in the home directory, if there is a home
directory.  Without readable settings the defaults hold. -/
def ofHome : Option FileContent → Config
  | none => {}
  | some file =>
      match ofFile file with
      | .ok config => config
      | .error _ => {}

/-- Whether the brackets of a token are matched: a selector is `*`, or it selects one of
the scopes. -/
def isBalanced (config : Config) (scopes : List Scope) : Bool :=
  config.balancedSelectors.any fun selector =>
    selector == "*" || scopes.any fun scope => scope.selectedBy selector

end Config

end Scopelight
