import Scopelight.Text.Bytes

/-!
# Texts as bytes

The UTF-8 form of a text is that of its characters, one after another.  An ASCII character is
a single byte, and all bytes of any other character lie beyond ASCII.  No form of a character
begins with that of another one, so one text begins with another exactly if its bytes do.
-/

namespace Scopelight

namespace Text

/-- The UTF-8 form of a text. -/
def bytes (text : List Char) : List UInt8 :=
  text.flatMap String.utf8EncodeChar

@[simp]
theorem bytes_nil : bytes [] = [] :=
  rfl

@[simp]
theorem bytes_cons (c : Char) (rest : List Char) :
    bytes (c :: rest) = String.utf8EncodeChar c ++ bytes rest :=
  List.flatMap_cons

theorem bytes_append (first second : List Char) :
    bytes (first ++ second) = bytes first ++ bytes second :=
  List.flatMap_append

@[simp]
theorem length_bytes (text : List Char) : (bytes text).length = byteLength text := by
  induction text with
  | nil => rfl
  | cons c rest ih => simp [ih]

theorem utf8EncodeChar_of_ascii {c : Char} (ascii : c.toNat < 128) :
    String.utf8EncodeChar c = [UInt8.ofNat c.toNat] :=
  if_pos (Nat.le_of_lt_succ ascii)

/-- The bytes of a character beyond ASCII are beyond ASCII. -/
theorem le_of_mem_utf8EncodeChar {c : Char} (beyond : 128 ≤ c.toNat) :
    ∀ byte ∈ String.utf8EncodeChar c, 128 ≤ byte.toNat := by
  have notAscii : ¬c.val.toNat ≤ 127 := by
    have : c.toNat = c.val.toNat := rfl
    omega
  unfold String.utf8EncodeChar
  simp only [if_neg notAscii]
  -- Both a first byte and those after it have their highest bit set.
  split
  case' isFalse => split
  all_goals
    simp only [List.forall_mem_cons, UInt8.toNat_ofNat', List.not_mem_nil, false_implies,
      implies_true, and_true]
    omega

/-- An ASCII character is no byte of any other character. -/
theorem ne_of_mem_utf8EncodeChar {c d : Char} (ascii : d.toNat < 128) (different : c ≠ d) :
    ∀ byte ∈ String.utf8EncodeChar c, byte ≠ UInt8.ofNat d.toNat := by
  rintro byte member rfl
  rcases Nat.lt_or_ge c.toNat 128 with cAscii | beyond
  · rw [utf8EncodeChar_of_ascii cAscii, List.mem_singleton, ← UInt8.toNat_inj,
      UInt8.toNat_ofNat', UInt8.toNat_ofNat', Nat.mod_eq_of_lt (by omega),
      Nat.mod_eq_of_lt (by omega)] at member
    exact different (Char.toNat_inj.mp member.symm)
  · have high := le_of_mem_utf8EncodeChar beyond _ member
    rw [UInt8.toNat_ofNat'] at high
    omega

/-- One text begins with another exactly if its bytes do. -/
theorem bytes_prefix_iff {first text : List Char} :
    bytes first <+: bytes text ↔ first <+: text := by
  constructor
  · rintro ⟨more, same⟩
    apply List.isPrefix_of_utf8Encode_append_eq_utf8Encode more.toByteArray
    have sameArrays := congrArg List.toByteArray same
    rwa [List.toByteArray_append] at sameArrays
  · rintro ⟨rest, rfl⟩
    rw [bytes_append]
    exact List.prefix_append _ _

theorem bytes_isPrefixOf (first text : List Char) :
    (bytes first).isPrefixOf (bytes text) = first.isPrefixOf text := by
  rw [Bool.eq_iff_iff, List.isPrefixOf_iff_prefix, List.isPrefixOf_iff_prefix, bytes_prefix_iff]

theorem bytes_inj {first second : List Char} :
    bytes first = bytes second ↔ first = second := by
  constructor
  · intro same
    apply List.IsPrefix.eq_of_length_le
    · exact bytes_prefix_iff.mp (same ▸ List.prefix_refl _)
    · exact (bytes_prefix_iff.mp (same ▸ List.prefix_refl _)).length_le
  · exact congrArg bytes

/-- A text begins with an ASCII character exactly if its first byte is this character. -/
theorem head?_bytes_iff {c : Char} (ascii : c.toNat < 128) (text : List Char) :
    (bytes text).head? = some (UInt8.ofNat c.toNat) ↔ text.head? = some c := by
  cases text with
  | nil => simp
  | cons d rest =>
      rcases Nat.lt_or_ge d.toNat 128 with dAscii | dBeyond
      · rw [bytes_cons, utf8EncodeChar_of_ascii dAscii, List.singleton_append, List.head?_cons,
          List.head?_cons, Option.some_inj, Option.some_inj, ← UInt8.toNat_inj,
          UInt8.toNat_ofNat', UInt8.toNat_ofNat', Nat.mod_eq_of_lt (by omega),
          Nat.mod_eq_of_lt (by omega), Char.toNat_inj]
      · obtain ⟨first, more, encoded⟩ :=
          List.exists_cons_of_ne_nil (String.utf8EncodeChar_ne_nil (c := d))
        have high : 128 ≤ first.toNat :=
          le_of_mem_utf8EncodeChar dBeyond first (encoded ▸ List.mem_cons_self)
        rw [bytes_cons, encoded, List.cons_append, List.head?_cons, List.head?_cons,
          Option.some_inj, Option.some_inj]
        constructor
        · rintro rfl
          rw [UInt8.toNat_ofNat'] at high
          omega
        · rintro rfl
          omega

end Text

end Scopelight
