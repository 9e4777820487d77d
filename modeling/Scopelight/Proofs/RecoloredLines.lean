import Scopelight.Proofs.MetadataWord
import Scopelight.Provider

/-!
# Lines under another theme

A theme decides on the looks of tokens only.  Under another theme a line has tokens at the
same places and leaves the same state, and each of its metadata words says the same about
the language, the class and the brackets of the token.  Color indices that are too great
for their fields make no exception, since they are cut before they are put into the word.
-/

namespace Scopelight

namespace Metadata

/-- Two words agree in everything but the style, which is in the bits from 11 on. -/
structure SameButStyle (first second : Metadata) : Prop where
  languageEq : first.language = second.language
  kindEq : first.kind = second.kind
  balancedEq : first.balanced = second.balanced
  lowEq : ∀ place < 11, first.word.toNat.testBit place = second.word.toNat.testBit place

/-- The bits below the style are those of the other fields. -/
theorem testBit_encode (language : UInt8) (kind : TokenClass) (balanced : Bool) (style : Style)
    {place : Nat} (low : place < 11) :
    (encode language kind balanced style).word.toNat.testBit place =
      (language.toNat ||| kind.code <<< 8 ||| balanced.toNat <<< 10).testBit place := by
  have belowFont : ¬11 ≤ place := by omega
  have belowForeground : ¬15 ≤ place := by omega
  have belowBackground : ¬24 ≤ place := by omega
  rw [word_encode_eq_or]
  simp [belowFont, belowForeground, belowBackground]

theorem encode_sameButStyle (language : UInt8) (kind : TokenClass) (balanced : Bool)
    (style other : Style) :
    (encode language kind balanced style).SameButStyle
      (encode language kind balanced other) where
  languageEq := by simp
  kindEq := by simp
  balancedEq := by simp
  lowEq := by
    intro place low
    rw [testBit_encode language kind balanced style low,
      testBit_encode language kind balanced other low]

end Metadata

namespace EncodedLine

/-- The words of tokens that start at the same places and agree in all but their styles. -/
inductive SameWords : List UInt32 → List UInt32 → Prop
  | nil : SameWords [] []
  | token (start : UInt32) {first second : Metadata} {words others : List UInt32}
      (same : first.SameButStyle second) (rest : SameWords words others) :
      SameWords (start :: first.word :: words) (start :: second.word :: others)

/-- Two encodings of a line agree in all but the styles of its tokens. -/
structure SameButStyles (first second : EncodedLine) : Prop where
  endStateEq : first.endState = second.endState
  words : SameWords first.words second.words

end EncodedLine

namespace Provider

open EncodedLine

variable (provider : Provider) (theme : Option Theme)

theorem metadata_recolored (scopes : List Scope) :
    (provider.metadata scopes).SameButStyle
      (metadata { provider with theme } scopes) := by
  apply Metadata.encode_sameButStyle

theorem flatMap_recolored (tokens : List Token) :
    SameWords
      (tokens.flatMap fun token =>
        [UInt32.ofNat token.start, (provider.metadata token.scopes).word])
      (tokens.flatMap fun token =>
        [UInt32.ofNat token.start, (metadata { provider with theme } token.scopes).word]) := by
  induction tokens with
  | nil => exact .nil
  | cons token tokens ih =>
      simp only [List.flatMap_cons, List.cons_append, List.nil_append]
      exact .token _ (provider.metadata_recolored theme token.scopes) ih

theorem encodeTokens_recolored (grammar : Grammar) (tokens : List Token) :
    SameWords (provider.encodeTokens grammar tokens)
      (encodeTokens { provider with theme } grammar tokens) := by
  cases tokens with
  | nil => exact .token 0 (provider.metadata_recolored theme [grammar.scopeName]) .nil
  | cons token tokens => exact provider.flatMap_recolored theme (token :: tokens)

/-- Under any two themes, or without one, a line is encoded to words for tokens at the same
places that agree in all but the style, and it ends in the same state.  A provider that is
not ready fails in the same way under both, and serves the same. -/
theorem encodeLine_recolored (line : List Char) (state : State) :
    let recolored := { provider with theme }
    ((∃ first second, provider.encodeLine line state = .ok first ∧
        recolored.encodeLine line state = .ok second ∧ first.SameButStyles second) ∨
      ∃ error, provider.encodeLine line state = .error error ∧
        recolored.encodeLine line state = .error error) ∧
    (provider.serve line state).SameButStyles (recolored.serve line state) := by
  intro recolored
  cases loaded : provider.grammar with
  | none =>
      have recoloredMissing : recolored.grammar = none := loaded
      have fails := encodeLine_of_no_grammar loaded line state
      have recoloredFails := encodeLine_of_no_grammar recoloredMissing line state
      refine ⟨.inr ⟨.notReady, fails, recoloredFails⟩, ?_⟩
      rw [serve, serve, fails, recoloredFails]
      exact ⟨rfl, .nil⟩
  | some grammar =>
      have recoloredLoaded : recolored.grammar = some grammar := loaded
      have encodes := encodeLine_of_grammar loaded line state
      have recoloredEncodes := encodeLine_of_grammar recoloredLoaded line state
      let result := grammar.tokenizeLineLimited provider.config.lineLimit line state
      have same : SameButStyles
          ⟨provider.encodeTokens grammar result.tokens, result.endState⟩
          ⟨recolored.encodeTokens grammar result.tokens, result.endState⟩ :=
        ⟨rfl, provider.encodeTokens_recolored theme grammar result.tokens⟩
      refine ⟨.inl ⟨_, _, encodes, recoloredEncodes, same⟩, ?_⟩
      rw [serve, serve, encodes, recoloredEncodes]
      exact same

end Provider

end Scopelight
