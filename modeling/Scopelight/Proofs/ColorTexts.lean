import Scopelight.Proofs.EncodedColors

/-!
# The texts of colors

A color is written as `#` with three or four digits, each of which stands for two of its kind,
or with six or eight.  The digits are hexadecimal, in either case, and those of the opacity
say nothing.  So a color has several texts; what they have in common is the text that the
color itself is written as, with six digits in upper case.
-/

namespace Scopelight

namespace Text

/-- The hexadecimal digits of both cases. -/
def hexAlphabet : List Char :=
  ['0', '1', '2', '3', '4', '5', '6', '7', '8', '9', 'A', 'B', 'C', 'D', 'E', 'F',
    'a', 'b', 'c', 'd', 'e', 'f']

/-- A digit has a value, of which it is the digit but for its case. -/
theorem hexValue?_of_mem {c : Char} (digit : c ∈ hexAlphabet) :
    ∃ value < 16, hexValue? c = some value ∧ hexDigit value = c.toUpper := by
  -- By `List.all`, since `∀ c ∈ hexAlphabet` can be decided by going through all characters.
  have each : (hexAlphabet.all fun c =>
      ((hexValue? c).filter fun value => value < 16).map hexDigit == some c.toUpper) := by
    decide
  have found := eq_of_beq (List.all_eq_true.mp each c digit)
  obtain ⟨value, found, upperEq⟩ := Option.map_eq_some_iff.mp found
  obtain ⟨valueEq, small⟩ := Option.filter_eq_some_iff.mp found
  exact ⟨value, of_decide_eq_true small, valueEq, upperEq⟩

/-- Nothing but a digit has a value. -/
theorem mem_hexAlphabet_of_hexValue? {c : Char} {value : Nat}
    (read : hexValue? c = some value) : c ∈ hexAlphabet := by
  have small : c.toNat < 0x80 := by
    refine Nat.lt_of_not_le fun great => ?_
    have noDigit : ¬c ≤ '9' := fun below => absurd (Nat.le_trans great below) (by decide)
    have noUpper : ¬c ≤ 'F' := fun below => absurd (Nat.le_trans great below) (by decide)
    have noLower : ¬c ≤ 'f' := fun below => absurd (Nat.le_trans great below) (by decide)
    simp [hexValue?, noDigit, noUpper, noLower] at read
  have each : ∀ code < 0x80, (hexValue? (Char.ofNat code)).isSome →
      Char.ofNat code ∈ hexAlphabet := by
    decide
  have digit := each c.toNat small
  rw [Char.ofNat_toNat] at digit
  exact digit (by rw [read]; rfl)

/-- What the values of some digits say about the digits. -/
structure ValuesOf (digits : List Char) (values : List Nat) : Prop where
  hexadecimal : digits ⊆ hexAlphabet
  small : ∀ value ∈ values, value < 16
  upperEq : values.map hexDigit = digits.map Char.toUpper

theorem valuesOf_of_mapM {digits : List Char} {values : List Nat}
    (read : digits.mapM hexValue? = some values) : ValuesOf digits values := by
  induction digits generalizing values with
  | nil =>
      cases read
      exact ⟨List.nil_subset _, nofun, rfl⟩
  | cons c digits ih =>
      rw [List.mapM_cons] at read
      obtain ⟨value, valueEq, read⟩ := Option.bind_eq_some_iff.mp read
      obtain ⟨others, othersEq, read⟩ := Option.bind_eq_some_iff.mp read
      cases read
      have digit := mem_hexAlphabet_of_hexValue? valueEq
      obtain ⟨same, small, sameEq, upperEq⟩ := hexValue?_of_mem digit
      obtain rfl := Option.some.inj (sameEq.symm.trans valueEq)
      have rest := ih othersEq
      exact ⟨List.cons_subset.mpr ⟨digit, rest.hexadecimal⟩,
        List.forall_mem_cons.mpr ⟨small, rest.small⟩,
        by rw [List.map_cons, List.map_cons, upperEq, rest.upperEq]⟩

theorem exists_mapM_hexValue? {digits : List Char}
    (hexadecimal : digits ⊆ hexAlphabet) :
    ∃ values, digits.mapM hexValue? = some values := by
  induction digits with
  | nil => exact ⟨[], rfl⟩
  | cons c digits ih =>
      obtain ⟨digit, others⟩ := List.cons_subset.mp hexadecimal
      obtain ⟨value, -, valueEq, -⟩ := hexValue?_of_mem digit
      obtain ⟨values, valuesEq⟩ := ih others
      exact ⟨value :: values, by rw [List.mapM_cons, valueEq, valuesEq]; rfl⟩

theorem ValuesOf.length_eq {digits : List Char} {values : List Nat}
    (read : ValuesOf digits values) : values.length = digits.length := by
  have same := congrArg List.length read.upperEq
  rwa [List.length_map, List.length_map] at same

end Text

namespace Color

/-- A text of a color, with the digits in it. -/
structure IsText (text : String) (digits : List Char) : Prop where
  textEq : text.toList = '#' :: digits
  lengthMem : digits.length ∈ [3, 4, 6, 8]
  hexadecimal : digits ⊆ Text.hexAlphabet

/-- The six digits that some digits stand for: those of the opacity fall away, and one digit
for a channel is doubled. -/
def fullDigits (digits : List Char) : List Char :=
  if digits.length ≤ 4 then (digits.take 3).flatMap fun digit => [digit, digit]
  else digits.take 6

theorem channelDigits_channel {high low : Nat} (highLt : high < 16) (lowLt : low < 16) :
    channelDigits (channel high low) = [Text.hexDigit high, Text.hexDigit low] := by
  have valueEq : (channel high low).toNat = 16 * high + low := by
    rw [channel, UInt8.toNat_ofNat_of_lt' (show 16 * high + low < 256 by omega)]
  rw [channelDigits, valueEq, Nat.mul_add_div (by decide), Nat.mul_add_mod,
    Nat.div_eq_of_lt lowLt, Nat.mod_eq_of_lt lowLt, Nat.add_zero]

theorem isSome_ofDigits?_iff {values : List Nat} :
    (ofDigits? values).isSome = true ↔ values.length ∈ [3, 4, 6, 8] := by
  match values with
  | [] | [_] | [_, _] | [_, _, _] | [_, _, _, _] | [_, _, _, _, _] | [_, _, _, _, _, _]
  | [_, _, _, _, _, _, _] | [_, _, _, _, _, _, _, _]
  | _ :: _ :: _ :: _ :: _ :: _ :: _ :: _ :: _ :: _ => simp [ofDigits?]

/-- A color has the digits that were read, in full. -/
theorem toHex_of_ofDigits? {values : List Nat} {color : Color}
    (small : ∀ value ∈ values, value < 16) (colorEq : ofDigits? values = some color) :
    color.toHex = String.ofList ('#' :: fullDigits (values.map Text.hexDigit)) := by
  unfold ofDigits? at colorEq
  split at colorEq <;> cases colorEq <;>
    simp_all [toHex, fullDigits, channelDigits_channel]

theorem parse?_of_digits {text : String} {digits : List Char} {values : List Nat}
    (textEq : text.toList = '#' :: digits)
    (read : digits.mapM Text.hexValue? = some values) : parse? text = ofDigits? values := by
  simp [parse?, textEq, read]

theorem IsText.exists_parse? {text : String} {digits : List Char} (written : IsText text digits) :
    ∃ color, parse? text = some color := by
  obtain ⟨values, read⟩ := Text.exists_mapM_hexValue? written.hexadecimal
  have lengthMem := written.lengthMem
  rw [← (Text.valuesOf_of_mapM read).length_eq] at lengthMem
  rw [parse?_of_digits written.textEq read]
  exact Option.isSome_iff_exists.mp (isSome_ofDigits?_iff.mpr lengthMem)

/-- A text that is read is one of a color, and the color has its digits in full. -/
theorem isText_of_parse? {text : String} {color : Color} (parsed : parse? text = some color) :
    ∃ digits, IsText text digits ∧
      color.toHex = String.ofList ('#' :: fullDigits (digits.map Char.toUpper)) := by
  unfold parse? at parsed
  split at parsed
  · next digits textEq =>
      obtain ⟨values, read, colorEq⟩ := Option.bind_eq_some_iff.mp parsed
      have known := Text.valuesOf_of_mapM read
      have lengthMem :=
        isSome_ofDigits?_iff.mp (Option.isSome_iff_exists.mpr ⟨color, colorEq⟩)
      rw [known.length_eq] at lengthMem
      refine ⟨digits, ⟨textEq, lengthMem, known.hexadecimal⟩, ?_⟩
      rw [toHex_of_ofDigits? known.small colorEq, known.upperEq]
  · cases parsed

end Color

namespace Theme

theorem color_eq_ok_iff {text : String} {written : Color} :
    color text = .ok written ↔ Color.parse? text = some written := by
  refine ⟨parse?_of_color, fun parsed => ?_⟩
  rw [color, parsed]

/-- Exactly the texts of colors are read.  A text that is not one is named by the error.  The
color that is read from a text has the digits of the text, in upper case and in full, and
every color is read from the text that it is written as. -/
theorem color_reads (text : String) :
    ((∃ written, color text = .ok written) ↔ ∃ digits, Color.IsText text digits) ∧
      ((¬∃ digits, Color.IsText text digits) → color text = .error (.invalidColor text)) ∧
      (∀ written digits, color text = .ok written → Color.IsText text digits →
        written.toHex =
          String.ofList ('#' :: Color.fullDigits (digits.map Char.toUpper))) ∧
      ∀ written : Color, color written.toHex = .ok written := by
  refine ⟨⟨?reads, ?texts⟩, ?refuses, ?full, fun written => ?_⟩
  case reads =>
    rintro ⟨written, read⟩
    obtain ⟨digits, isText, -⟩ := Color.isText_of_parse? (color_eq_ok_iff.mp read)
    exact ⟨digits, isText⟩
  case texts =>
    rintro ⟨digits, isText⟩
    obtain ⟨written, parsed⟩ := isText.exists_parse?
    exact ⟨written, color_eq_ok_iff.mpr parsed⟩
  case refuses =>
    intro noText
    unfold color
    split
    · next written parsed =>
        obtain ⟨digits, isText, -⟩ := Color.isText_of_parse? parsed
        exact absurd ⟨digits, isText⟩ noText
    · rfl
  case full =>
    intro written digits read isText
    obtain ⟨others, otherText, toHexEq⟩ := Color.isText_of_parse? (color_eq_ok_iff.mp read)
    obtain ⟨-, rfl⟩ := List.cons.inj (otherText.textEq.symm.trans isText.textEq)
    exact toHexEq
  · exact color_eq_ok_iff.mpr (Color.parse?_toHex written)

/-- A short text with an opacity, and a sign where a digit should be. -/
theorem color_reads_short :
    (∃ written, color "#cE9f" = .ok written ∧ written.toHex = "#CCEE99") ∧
      color "#+12345" = .error (.invalidColor "#+12345") := by
  have isText : Color.IsText "#cE9f" ['c', 'E', '9', 'f'] := ⟨rfl, by decide, by decide⟩
  have noText : ¬∃ digits, Color.IsText "#+12345" digits := by
    rintro ⟨digits, textEq, -, hexadecimal⟩
    obtain ⟨-, rfl⟩ := List.cons.inj textEq
    exact absurd (hexadecimal List.mem_cons_self) (by decide)
  obtain ⟨readsIff, -, full, -⟩ := color_reads "#cE9f"
  obtain ⟨written, read⟩ := readsIff.mpr ⟨_, isText⟩
  exact ⟨⟨written, read, full written _ read isText⟩, (color_reads "#+12345").2.1 noText⟩

end Theme

end Scopelight
