import Scopelight.Grammar.Rule
import Scopelight.Text.Quoted

/-!
# Problems with grammars

The reasons why a grammar cannot be loaded, and the lesser problems that are noted and
leave the rest of the grammar as it is.
-/

namespace Scopelight

/-- Why a grammar cannot be loaded. -/
inductive GrammarError where
  | malformed
  | missingScopeName
  | missingRoot
  | unresolvedReference (name : String)
  | unsupportedFeature (pattern feature : String)
  /-- A capture group has a number for which no table can be laid out. -/
  | captureOverflow
  deriving DecidableEq

namespace GrammarError

def message : GrammarError → String
  | .malformed => "malformed grammar document"
  | .missingScopeName => "grammar has no scopeName"
  | .missingRoot => "grammar has no root patterns"
  | .unresolvedReference name => "unresolved rule reference: " ++ name
  | .unsupportedFeature pattern feature =>
      "pattern " ++ Text.quoted pattern ++ " requires " ++ feature ++
        ", which the pattern engine does not support"
  | .captureOverflow => "capture group number is too large"

end GrammarError

/-- A problem that does not keep a grammar from loading. -/
inductive Diagnostic where
  /-- A pattern of a rule does not compile, so the rule is inert. -/
  | inertRule (rule : RuleId) (error : CompileError)
  /-- A reference resolves to nothing and contributes no rules. -/
  | unresolvedReference (name : String)
  deriving DecidableEq

namespace Diagnostic

/-- The problem in words, up to the place where the engine's own words about a pattern
would follow. -/
def message : Diagnostic → String
  | .inertRule rule error =>
      "rule " ++ toString rule ++ " is inert: invalid pattern " ++
        Text.quoted error.pattern ++ ": "
  | .unresolvedReference name => "include " ++ name ++ " resolves to nothing"

end Diagnostic

end Scopelight
