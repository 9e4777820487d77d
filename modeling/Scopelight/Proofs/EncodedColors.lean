import Scopelight.Proofs.MetadataWord
import Scopelight.Proofs.ThemeColors
import Scopelight.Snbt.Theme

/-!
# The colors of a metadata word

A metadata word has room for 512 foregrounds and 256 backgrounds.  It leads to the color of
the style as long as the index of the color fits, and to another color, or to none, if it
does not.  Documents with any number of colors show that the indices can be too great.
-/

namespace Scopelight

namespace Color

private theorem channel_digits (value : UInt8) :
    channel (value.toNat / 16) (value.toNat % 16) = value := by
  rw [channel, Nat.div_add_mod, UInt8.ofNat_toNat]

/-- A color is read back from its text. -/
theorem parse?_toHex (color : Color) : parse? color.toHex = some color := by
  have high (value : UInt8) : value.toNat / 16 < 16 :=
    Nat.div_lt_of_lt_mul value.toNat_lt
  have low (value : UInt8) : value.toNat % 16 < 16 := Nat.mod_lt _ (by decide)
  simp [parse?, toHex, channelDigits, Text.hexValue?_hexDigit, high, low, ofDigits?,
    channel_digits]

end Color

namespace ThemeRule

/-- A rule that outranks all rules before it wins. -/
theorem strongest?_concat {rules : List ThemeRule} {rule : ThemeRule}
    (outranks : ∀ other ∈ rules, rule.outranks other = true) :
    strongest? (rules ++ [rule]) = some rule := by
  unfold strongest?
  rw [List.foldl_append, List.foldl_cons, List.foldl_nil]
  split
  · rfl
  · next other strongest => rw [if_pos (outranks other (strongest?_mem strongest))]

end ThemeRule

namespace ThemeDocument

/-- The color with a number, in shades of green and blue. -/
def shade (number : Nat) : Color :=
  ⟨0, UInt8.ofNat (number / 0x100), UInt8.ofNat number⟩

/-- An entry that declares a shade for the scope `mark`. -/
def shadeEntry (number : Nat) : ThemeEntry :=
  Snbt.colored "mark" (shade number).toHex none

/-- A document that declares so many shades for one scope, of which the last one counts. -/
def shaded (count : Nat) : ThemeDocument where
  entries := (List.range count).map shadeEntry

/-- The rule of such an entry. -/
def shadeRule (number : Nat) : ThemeRule where
  selector := ⟨"mark", []⟩
  order := number
  foreground := some (number + 3)
  background := none
  font := none

/-- The palette with the default colors and so many shades. -/
def shades (count : Nat) : Palette :=
  ⟨[⟨0xD4, 0xD4, 0xD4⟩, ⟨0x1E, 0x1E, 0x1E⟩] ++ (List.range count).map shade⟩

theorem shade_injective {first second : Nat} (firstLt : first < 0x10000)
    (secondLt : second < 0x10000) (same : shade first = shade second) : first = second := by
  simp only [shade, Color.mk.injEq] at same
  have high := congrArg UInt8.toNat same.2.1
  have low := congrArg UInt8.toNat same.2.2
  simp only [UInt8.toNat_ofNat'] at high low
  omega

theorem selectors_shadeEntry (number : Nat) :
    (shadeEntry number).selectors = [⟨"mark", []⟩] := by
  have parsed : Selector.parseAll "mark" = [⟨"mark", []⟩] := by decide +kernel
  simp [ThemeEntry.selectors, shadeEntry, Snbt.colored, parsed]

theorem intern_shades {count : Nat} (few : count < 0x10000) :
    (shades count).intern (shade count) = (shades (count + 1), count + 3) := by
  have fresh : shade count ∉ (shades count).entries := by
    simp only [shades, List.mem_append, List.mem_map, List.mem_range]
    rintro (default | ⟨number, below, same⟩)
    · simp [shade] at default
    · have := shade_injective (by omega) few same
      omega
  rw [Palette.intern, List.idxOf?_eq_none_iff.mpr fresh]
  simp [shades, List.range_succ]

theorem internText_shade {count : Nat} (few : count < 0x10000) :
    Theme.internText (shades count) (some (shade count).toHex) =
      .ok (shades (count + 1), some (count + 3)) := by
  simp only [Theme.internText, Theme.color, Color.parse?_toHex]
  change Except.ok (((shades count).intern (shade count)).1,
    some ((shades count).intern (shade count)).2) = _
  rw [intern_shades few]

theorem addEntry_shades {count : Nat} (few : count < 0x10000) :
    Theme.addEntry (shades count, (List.range count).map shadeRule) (shadeEntry count) =
      .ok (shades (count + 1), (List.range (count + 1)).map shadeRule) := by
  unfold Theme.addEntry
  rw [selectors_shadeEntry, List.range_succ]
  change (Theme.internText (shades count) (some (shade count).toHex) >>= _) = _
  rw [internText_shade few, List.map_append]
  simp only [List.length_map, List.length_range]
  rfl

theorem foldlM_shades {count : Nat} (few : count ≤ 0x10000) :
    ((List.range count).map shadeEntry).foldlM Theme.addEntry (shades 0, []) =
      .ok (shades count, (List.range count).map shadeRule) := by
  induction count with
  | zero => rfl
  | succ count ih =>
      rw [List.range_succ, List.map_append, List.foldlM_append, ih (by omega)]
      change (Theme.addEntry (shades count, (List.range count).map shadeRule)
        (shadeEntry count) >>= pure) = _
      rw [addEntry_shades (by omega), List.range_succ, List.map_append]
      rfl

/-- The theme of a document with so many shades. -/
def shadedTheme (count : Nat) : Theme where
  name := none
  rules := (List.range count).map shadeRule
  defaults := ⟨1, 2, .plain⟩
  palette := shades count

theorem ofDocument_shaded {count : Nat} (few : count ≤ 0x10000) :
    Theme.ofDocument (shaded count) = .ok (shadedTheme count) := by
  have allSpecific : (shaded count).entries.partition (fun entry => entry.selectors.isEmpty) =
      ([], (shaded count).entries) := by
    rw [List.partition_eq_filter_filter, List.filter_eq_nil_iff.mpr, List.filter_eq_self.mpr]
    · simp [shaded, selectors_shadeEntry]
    · simp [shaded, selectors_shadeEntry]
  unfold Theme.ofDocument
  rw [allSpecific]
  change (((List.range count).map shadeEntry).foldlM Theme.addEntry (shades 0, []) >>= _) = _
  rw [foldlM_shades few]
  rfl

/-- The shade that is declared last has an index behind those of all others. -/
theorem resolve_shaded (count : Nat) :
    ((shadedTheme (count + 1)).resolve [⟨"mark"⟩]).foreground = count + 3 := by
  have allSet (number : Nat) : ((shadeRule number).foreground.isSome &&
      (shadeRule number).selector.selects ⟨"mark"⟩ []) = true := by
    change (true && Selector.selects ⟨"mark", []⟩ ⟨"mark"⟩ []) = true
    decide +kernel
  have lastWins : ThemeRule.strongest? ((List.range (count + 1)).map shadeRule) =
      some (shadeRule count) := by
    rw [List.range_succ, List.map_append]
    refine ThemeRule.strongest?_concat fun other member => ?_
    obtain ⟨number, below, rfl⟩ := List.mem_map.mp member
    simp [ThemeRule.outranks, shadeRule, Nat.le_of_lt (List.mem_range.mp below)]
  simp only [Theme.resolve, List.reverse_singleton, Theme.decided?, shadedTheme]
  have unfiltered : ((List.range (count + 1)).map shadeRule).filter (fun rule =>
      rule.foreground.isSome && rule.selector.selects ⟨"mark"⟩ []) =
        (List.range (count + 1)).map shadeRule := by
    refine List.filter_eq_self.mpr fun rule member => ?_
    obtain ⟨number, -, rfl⟩ := List.mem_map.mp member
    exact allSet number
  rw [unfiltered, lastWins]
  rfl

end ThemeDocument

namespace Theme

variable {document : ThemeDocument}

/-- A metadata word keeps the font attributes of a style of the theme.  It keeps each color
index exactly when the index fits the field for it, and it leads to the foreground that the
theme gives to the scopes exactly in this case. -/
theorem resolve_encode {theme : Theme} (loads : ofDocument document = .ok theme)
    (scopes : List Scope) (language : UInt8) (kind : TokenClass) (balanced : Bool) :
    let style := theme.resolve scopes
    let metadata := Metadata.encode language kind balanced style
    let color := document.colorOf theme ThemeSettings.foreground
      ({} : ThemeDefaults).foreground scopes
    metadata.font = style.font ∧
      (metadata.foreground = style.foreground ↔ style.foreground < 0x200) ∧
      (metadata.background = style.background ↔ style.background < 0x100) ∧
      style.foreground < theme.palette.size ∧ style.background < theme.palette.size ∧
      theme.palette.get? style.foreground = some color ∧
      (theme.palette.get? metadata.foreground = some color ↔ style.foreground < 0x200) := by
  obtain ⟨foregroundHeld, backgroundHeld⟩ := get?_resolve loads scopes
  have distinct := (built_of_ofDocument loads).1.distinct
  simp only [Metadata.font_encode, Metadata.foreground_encode, Metadata.background_encode]
  exact ⟨trivial, Nat.mod_eq_iff_lt (by decide), Nat.mod_eq_iff_lt (by decide),
    Palette.lt_size_of_get? foregroundHeld, Palette.lt_size_of_get? backgroundHeld,
    foregroundHeld, distinct.get?_mod_iff foregroundHeld⟩

/-- The last of 300 shades fits the word. -/
theorem shaded_encode :
    let theme := ThemeDocument.shadedTheme 300
    let metadata := Metadata.encode 7 .string true (theme.resolve [⟨"mark"⟩])
    ofDocument (.shaded 300) = .ok theme ∧ metadata.foreground = 302 ∧
      theme.palette.get? metadata.foreground =
        some ((ThemeDocument.shaded 300).colorOf theme ThemeSettings.foreground
          ({} : ThemeDefaults).foreground [⟨"mark"⟩]) := by
  have loads := ThemeDocument.ofDocument_shaded (show 300 ≤ 0x10000 by decide)
  have indexEq := ThemeDocument.resolve_shaded 299
  obtain ⟨-, kept, -, -, -, -, shown⟩ := resolve_encode loads [⟨"mark"⟩] 7 .string true
  rw [indexEq] at kept shown
  exact ⟨loads, kept.mpr (by decide), shown.mpr (by decide)⟩

/-- The last of 510 shades has the index 512, and its word refers to no color. -/
theorem shaded_encode_overflow :
    let theme := ThemeDocument.shadedTheme 510
    let style := theme.resolve [⟨"mark"⟩]
    let metadata := Metadata.encode 7 .string true style
    ofDocument (.shaded 510) = .ok theme ∧ style.foreground = 512 ∧
      theme.palette.get? style.foreground = some (ThemeDocument.shade 509) ∧
      metadata.foreground = 0 ∧ theme.palette.get? metadata.foreground = none := by
  have indexEq := ThemeDocument.resolve_shaded 509
  simp only [Metadata.foreground_encode, indexEq]
  exact ⟨ThemeDocument.ofDocument_shaded (by decide), trivial, by decide +kernel, trivial, rfl⟩

end Theme

end Scopelight
