import Scopelight.Language

/-!
# The SNBT language

How SNBT is declared to an editor: files that end in `.snbt`, three kinds of brackets, two
kinds of quotes, and no comments.
-/

namespace Scopelight

namespace Snbt

def language : Language where
  id := "snbt"
  extensions := ["snbt"]
  aliases := ["SNBT"]

def brackets : List (String × String) :=
  [("\x7b", "\x7d"), ("[", "]"), ("(", ")")]

def quotes : List (String × String) :=
  [("\"", "\""), ("'", "'")]

/-- Brackets and quotes close by themselves, but quotes not inside a string. -/
def configuration : LanguageConfiguration where
  brackets
  autoClosingPairs :=
    (brackets.map fun pair => ⟨pair.1, pair.2, []⟩) ++
      quotes.map fun pair => ⟨pair.1, pair.2, ["string"]⟩
  surroundingPairs := (brackets ++ quotes).map fun pair => ⟨pair.1, pair.2, []⟩

/-- The languages that are known without any file. -/
def knownLanguages : List Language :=
  [language]

/-- The known language that a file belongs to by its name. -/
def detect? (fileName : String) : Option Language :=
  knownLanguages.find? fun language => language.matchesFile fileName

end Snbt

end Scopelight
