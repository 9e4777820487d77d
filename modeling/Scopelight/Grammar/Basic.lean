import Scopelight.Grammar.Error
import Scopelight.Grammar.Rulebook

/-!
# Grammars

A loaded grammar: its rulebook with the contexts of all rules tabulated, its names, and the
problems that were met while loading it.
-/

namespace Scopelight

/-- A loaded grammar. -/
structure Grammar extends Rulebook where
  /-- The scope of everything in the text, such as `source.snbt`. -/
  scopeName : Scope
  name : Option String
  /-- The file extensions that the grammar declares. -/
  fileTypes : List String
  diagnostics : List Diagnostic
  contexts : Memo toRulebook.context rules.size

namespace Grammar

/-- What is needed to scan inside a rule, if there is such a rule. -/
def context? (grammar : Grammar) (id : RuleId) : Option RuleContext :=
  grammar.contexts.get? id

theorem context?_eq (grammar : Grammar) (id : RuleId) :
    grammar.context? id =
      if id < grammar.rules.size then some (grammar.toRulebook.context id) else none :=
  grammar.contexts.get?_eq id

/-- The scanner for a closing pattern whose back-references have been filled in. -/
def filledScanner? (grammar : Grammar) (pattern : String) : Option Scanner :=
  (grammar.engine.compile [pattern]).toOption

end Grammar

end Scopelight
