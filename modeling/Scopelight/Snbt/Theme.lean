import Scopelight.Theme.Basic

/-!
# The dark theme

The theme that is used when no other is chosen, with colors for the scopes of the SNBT
grammar.
-/

namespace Scopelight

namespace Snbt

/-- An entry that sets a foreground and perhaps font attributes. -/
def colored (scope foreground : String) (font : Option String) : ThemeEntry where
  scope := [scope]
  settings := { foreground := some foreground, font }

def darkThemeDocument : ThemeDocument where
  name := some "Dark (SNBT)"
  entries :=
    [{ settings := { foreground := some "#D4D4D4", background := some "#1E1E1E" } },
     colored "comment" "#6A9955" (some "italic"),
     colored "string" "#CE9178" none,
     colored "string.unquoted" "#DCDCAA" none,
     colored "constant.character.escape" "#D7BA7D" none,
     colored "constant.numeric" "#B5CEA8" none,
     colored "constant.language, storage.type" "#569CD6" none,
     colored "support.type.property-name" "#9CDCFE" none,
     colored "meta.structure.list support.type.property-name" "#4FC1FF" none,
     { scope :=
         ["punctuation.definition.compound", "punctuation.definition.list",
          "punctuation.definition.array"]
       settings := { foreground := some "#FFD700" } },
     colored "invalid" "#F44747" (some "underline")]

def darkTheme : Except ThemeError Theme :=
  Theme.ofDocument darkThemeDocument

end Snbt

end Scopelight
