import Scopelight.Metadata

/-!
# The fields of a metadata word

The fields of the word do not overlap, so each can be read back by itself.  The font
attributes always fit their field; a color index is read back modulo the width of its
field.  The fields also leave no bit over, so a word is determined by what is read from it,
and every word is the word of some fields.
-/

namespace Scopelight

namespace FontStyle

/-- Only the four low bits of a number count. -/
theorem ofBits_mod (bits : Nat) : ofBits (bits % 16) = ofBits bits := by
  have lowBit : ∀ place < 4, (bits % 16).testBit place = bits.testBit place := by
    intro place inside
    rw [show 16 = 2 ^ 4 from rfl, Nat.testBit_mod_two_pow]
    simp [inside]
  simp [ofBits, lowBit]

theorem bits_ofBits (bits : Nat) : (ofBits bits).bits = bits % 16 := by
  simp only [FontStyle.bits, ofBits, Nat.toNat_testBit]
  omega

end FontStyle

namespace TokenClass

theorem code_lt (kind : TokenClass) : kind.code < 4 := by
  cases kind <;> decide

theorem code_ofCode (code : Nat) : (ofCode code).code = code % 4 := by
  have residues : code % 4 = 0 ∨ code % 4 = 1 ∨ code % 4 = 2 ∨ code % 4 = 3 := by omega
  rcases residues with eq | eq | eq | eq <;> rw [ofCode, eq] <;> rfl

end TokenClass

namespace Metadata

variable (language : UInt8) (kind : TokenClass) (balanced : Bool) (style : Style)

/-- The fields below the font attributes. -/
private theorem flags_lt :
    language.toNat + 0x100 * kind.code + 0x400 * balanced.toNat < 0x800 := by
  have languageLt : language.toNat < 0x100 := language.toNat_lt
  have kindLt := kind.code_lt
  have balancedLe : balanced.toNat ≤ 1 := Bool.toNat_le balanced
  omega

/-- The fields together fill a word and no more. -/
theorem word_encode :
    (encode language kind balanced style).word.toNat =
      language.toNat + 0x100 * kind.code + 0x400 * balanced.toNat +
        0x800 * style.font.bits + 0x8000 * (style.foreground % 0x200) +
        0x1000000 * (style.background % 0x100) := by
  have flags := flags_lt language kind balanced
  have fontLt := style.font.bits_lt
  have foregroundLt : style.foreground % 0x200 < 0x200 := Nat.mod_lt _ (by decide)
  have backgroundLt : style.background % 0x100 < 0x100 := Nat.mod_lt _ (by decide)
  apply UInt32.toNat_ofNat_of_lt
  simp only [UInt32.size]
  omega

@[simp]
theorem language_encode : (encode language kind balanced style).language = language := by
  have languageLt : language.toNat < 0x100 := language.toNat_lt
  have low : (encode language kind balanced style).word.toNat % 0x100 = language.toNat := by
    rw [word_encode]
    omega
  apply UInt8.toNat_inj.mp
  rw [Metadata.language, UInt8.toNat_ofNat']
  exact low

@[simp]
theorem kind_encode : (encode language kind balanced style).kind = kind := by
  have languageLt : language.toNat < 0x100 := language.toNat_lt
  have kindLt := kind.code_lt
  have low : (encode language kind balanced style).word.toNat / 0x100 % 4 = kind.code := by
    rw [word_encode]
    omega
  calc
    (encode language kind balanced style).kind = TokenClass.ofCode kind.code := by
      rw [Metadata.kind, TokenClass.ofCode, low, TokenClass.ofCode, Nat.mod_eq_of_lt kindLt]
    _ = kind := TokenClass.ofCode_code kind

@[simp]
theorem balanced_encode : (encode language kind balanced style).balanced = balanced := by
  have languageLt : language.toNat < 0x100 := language.toNat_lt
  have kindLt := kind.code_lt
  have balancedLe : balanced.toNat ≤ 1 := Bool.toNat_le balanced
  have low : (encode language kind balanced style).word.toNat / 2 ^ 10 % 2 =
      balanced.toNat := by
    rw [word_encode]
    omega
  rw [Metadata.balanced, Nat.testBit_eq_decide_div_mod_eq, low]
  cases balanced <;> rfl

@[simp]
theorem font_encode : (encode language kind balanced style).font = style.font := by
  have flags := flags_lt language kind balanced
  have fontLt := style.font.bits_lt
  have low : (encode language kind balanced style).word.toNat / 0x800 % 16 =
      style.font.bits := by
    rw [word_encode]
    omega
  rw [font, ← FontStyle.ofBits_mod, low, FontStyle.ofBits_bits]

@[simp]
theorem foreground_encode :
    (encode language kind balanced style).foreground = style.foreground % 0x200 := by
  have flags := flags_lt language kind balanced
  have fontLt := style.font.bits_lt
  rw [foreground, word_encode]
  omega

@[simp]
theorem background_encode :
    (encode language kind balanced style).background = style.background % 0x100 := by
  have flags := flags_lt language kind balanced
  have fontLt := style.font.bits_lt
  rw [background, word_encode]
  omega

/-- A field is added to what stands below it by setting its bits. -/
theorem add_eq_or_shiftLeft (weight place : Nat) {low field : Nat}
    (weightEq : weight = 1 <<< place) (below : low < weight) :
    low + weight * field = low ||| field <<< place := by
  rw [Nat.one_shiftLeft] at weightEq
  subst weightEq
  rw [Nat.add_comm, Nat.two_pow_add_eq_or_of_lt below, Nat.or_comm, Nat.shiftLeft_eq,
    Nat.mul_comm]

/-- The word has the bits of the fields, each shifted to its place and cut to its width. -/
theorem word_encode_eq_or :
    (encode language kind balanced style).word.toNat =
      language.toNat ||| kind.code <<< 8 ||| balanced.toNat <<< 10 |||
        style.font.bits <<< 11 ||| (style.foreground &&& 0x1FF) <<< 15 |||
        (style.background &&& 0xFF) <<< 24 := by
  have languageLt : language.toNat < 0x100 := language.toNat_lt
  have kindLt := kind.code_lt
  have flags := flags_lt language kind balanced
  have fontLt := style.font.bits_lt
  have foregroundLt : style.foreground % 0x200 < 0x200 := Nat.mod_lt _ (by decide)
  have foregroundEq : style.foreground &&& 0x1FF = style.foreground % 0x200 :=
    Nat.and_two_pow_sub_one_eq_mod style.foreground 9
  have backgroundEq : style.background &&& 0xFF = style.background % 0x100 :=
    Nat.and_two_pow_sub_one_eq_mod style.background 8
  rw [word_encode, foregroundEq, backgroundEq,
    add_eq_or_shiftLeft 0x1000000 24 rfl (by omega),
    add_eq_or_shiftLeft 0x8000 15 rfl (by omega),
    add_eq_or_shiftLeft 0x800 11 rfl (by omega),
    add_eq_or_shiftLeft 0x400 10 rfl (by omega),
    add_eq_or_shiftLeft 0x100 8 rfl (by omega)]

theorem foreground_lt (metadata : Metadata) : metadata.foreground < 0x200 :=
  Nat.mod_lt _ (by decide)

theorem background_lt (metadata : Metadata) : metadata.background < 0x100 := by
  have wordLt := metadata.word.toNat_lt
  rw [background]
  omega

/-- The fields of a word leave no bit over. -/
theorem encode_fields (metadata : Metadata) :
    encode metadata.language metadata.kind metadata.balanced metadata.style = metadata := by
  have languageEq : metadata.language.toNat = metadata.word.toNat % 0x100 :=
    UInt8.toNat_ofNat'
  have kindEq : metadata.kind.code = metadata.word.toNat / 0x100 % 4 :=
    TokenClass.code_ofCode _
  have balancedEq : metadata.balanced.toNat = metadata.word.toNat / 0x400 % 2 :=
    Nat.toNat_testBit _ 10
  have fontEq : metadata.style.font.bits = metadata.word.toNat / 0x800 % 16 :=
    FontStyle.bits_ofBits _
  have foregroundEq : metadata.style.foreground % 0x200 =
      metadata.word.toNat / 0x8000 % 0x200 :=
    Nat.mod_mod _ _
  have backgroundEq : metadata.style.background % 0x100 =
      metadata.word.toNat / 0x1000000 :=
    Nat.mod_eq_of_lt metadata.background_lt
  have wordEq : (encode metadata.language metadata.kind metadata.balanced
      metadata.style).word = metadata.word := by
    apply UInt32.toNat_inj.mp
    rw [word_encode, languageEq, kindEq, balancedEq, fontEq, foregroundEq, backgroundEq]
    omega
  exact congrArg Metadata.mk wordEq

/-- A word packs its fields.  Reading gives each field back, a color index modulo the width
of its field.  For colors that fit, a word is the one of given fields exactly if these are
what is read from it, and writing what is read from a word gives the word again. -/
theorem encode_packs (metadata : Metadata) :
    let encoded := encode language kind balanced style
    encoded.word.toNat =
        language.toNat ||| kind.code <<< 8 ||| balanced.toNat <<< 10 |||
          style.font.bits <<< 11 ||| (style.foreground &&& 0x1FF) <<< 15 |||
          (style.background &&& 0xFF) <<< 24 ∧
      (encoded.language = language ∧ encoded.kind = kind ∧ encoded.balanced = balanced ∧
        encoded.font = style.font ∧ encoded.foreground = style.foreground % 0x200 ∧
        encoded.background = style.background % 0x100) ∧
      (encoded = metadata ∧ style.foreground < 0x200 ∧ style.background < 0x100 ↔
        metadata.language = language ∧ metadata.kind = kind ∧
          metadata.balanced = balanced ∧ metadata.style = style) ∧
      encode metadata.language metadata.kind metadata.balanced metadata.style = metadata := by
  refine ⟨word_encode_eq_or language kind balanced style, by simp, ?_, encode_fields metadata⟩
  constructor
  · rintro ⟨rfl, foregroundFits, backgroundFits⟩
    simp [Metadata.style, Nat.mod_eq_of_lt foregroundFits, Nat.mod_eq_of_lt backgroundFits]
  · rintro ⟨rfl, rfl, rfl, rfl⟩
    exact ⟨encode_fields metadata, metadata.foreground_lt, metadata.background_lt⟩

example : (encode 7 .string true ⟨0xFFFFFFFF, 0xFFFFFFFF, .plain⟩).word = 0xFFFF8607 := by
  decide

end Metadata

end Scopelight
