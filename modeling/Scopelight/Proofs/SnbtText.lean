import Scopelight.Proofs.ClassifiedText
import Scopelight.Proofs.SnbtPatterns

/-!
# SNBT text is classified

The grammar of SNBT leaves nothing unclassified: wherever its rules stand, the one for
invalid characters takes what no other rule takes, except white space.  The two rules whose
matches have no scope of their own, keys and the openings of arrays, have groups with only
white space between them.
-/

namespace Scopelight

namespace Snbt

/-- The scopes that only say where a text stands: that of the whole text and those of
compounds, lists and arrays. -/
def structural (scope : Scope) : Bool :=
  scope.name == "source.snbt" || scope.selectedBy "meta.structure"

theorem exists_classifying (strict : Bool) :
    ∃ loaded, grammar .standard strict = .ok loaded ∧
      Grammar.Classifying structural loaded := by
  obtain ⟨loaded, loadedEq, -, checked⟩ :=
    grammar_loads strict (Rulebook.classifies structural patternPlans) (by decide +kernel)
  obtain ⟨engineEq, compiles⟩ := Grammar.ofDocument_compiles loadedEq
  exact ⟨loaded, loadedEq, engineEq, compiles,
    Rulebook.classifies_sound patternPlans_right checked⟩

/-- In lines that are tokenized in sequence, a token whose innermost scope only says where it
stands covers nothing but white space; every other character lies in a token whose innermost
scope says more. -/
theorem tokenizeLines_classified (strict : Bool) :
    ∃ loaded, grammar .standard strict = .ok loaded ∧
      ∀ lines : List (List Char), (loaded.tokenizeLines lines).length = lines.length ∧
        ∀ (index : Nat) (line : List Char) (result : LineTokens), lines[index]? = some line →
          (loaded.tokenizeLines lines)[index]? = some result →
          (∀ token ∈ result.tokens, ∀ scope, token.innermost? = some scope →
            structural scope = true → BlankBetween line token.start token.stop) ∧
          ∀ before c after, line = before ++ c :: after → Unicode.isWhite c = false →
            ∃ token ∈ result.tokens, token.start ≤ Text.byteLength before ∧
              Text.byteLength before < token.stop ∧
              ∃ scope, token.innermost? = some scope ∧ structural scope = false := by
  obtain ⟨loaded, loadedEq, classifying⟩ := exists_classifying strict
  refine ⟨loaded, loadedEq, fun lines => ⟨loaded.tokenizeFrom_length lines .initial, ?_⟩⟩
  intro index line result lineEq resultEq
  have ends := Grammar.tokenizeFrom_classified classifying lines .nil lineEq resultEq
  refine ⟨fun token member scope innermostEq isStructural => ?_,
    fun before c after split notWhite => ends.exists_token split notWhite⟩
  have innermost : token.scopes.getLast? = some scope := innermostEq
  exact ends.classified token member (by rw [Vague, innermost]; exact isStructural)

end Snbt

end Scopelight
