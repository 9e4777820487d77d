import Scopelight.Json.Decode
import Scopelight.Json.Parser
import Scopelight.Scope

/-!
# Theme documents

The JSON shape of a theme: a list of entries, each with selectors and the attributes they
set.  An entry without selectors sets the defaults.
-/

namespace Scopelight

/-- The attributes that a theme entry sets, as they are written. -/
structure ThemeSettings where
  foreground : Option String := none
  background : Option String := none
  font : Option String := none

/-- A theme entry as a document writes it. -/
structure ThemeEntry where
  scope : List String := []
  settings : ThemeSettings := {}

/-- A theme as a document writes it. -/
structure ThemeDocument where
  name : Option String := none
  entries : List ThemeEntry := []

namespace ThemeSettings

def ofJson? : Nat → Json → Option ThemeSettings
  | 0, _ => none
  | _ + 1, value => do
      match ← Json.record? [["foreground"], ["background"], ["fontStyle"]] value with
      | [foreground, background, font] =>
          return {
            foreground := ← foreground.optional? Json.text?
            background := ← background.optional? Json.text?
            font := ← font.optional? Json.text?
          }
      | _ => none

end ThemeSettings

namespace ThemeEntry

/-- Selectors stand in one text or in several. -/
def scope? (depth : Nat) : Json → Option (List String)
  | .string text => some [text]
  | value => Json.texts? depth value

def ofJson? : Nat → Json → Option ThemeEntry
  | 0, _ => none
  | depth + 1, value => do
      match ← Json.record? [["scope"], ["settings"]] value with
      | [scope, settings] =>
          return {
            scope := (← scope.optional? (scope? depth)).getD []
            settings := ← settings.orDefault? {} (ThemeSettings.ofJson? depth)
          }
      | _ => none

end ThemeEntry

namespace ThemeDocument

/-- A theme, read with so many levels left.  The entries have two names. -/
def ofJson? : Nat → Json → Option ThemeDocument
  | 0, _ => none
  | depth + 1, value => do
      match ← Json.record? [["name"], ["settings", "tokenColors"]] value with
      | [name, entries] =>
          return {
            name := ← name.optional? Json.text?
            entries := ← entries.orDefault? [] (Json.list? ThemeEntry.ofJson? depth)
          }
      | _ => none

def parse? (source : String) : Option ThemeDocument := do
  ofJson? Json.depthLimit (← Json.parse? source)

end ThemeDocument

end Scopelight
