import Mathlib.Data.List.Basic
import Scopelight.Proofs.ThemeColors

/-!
# The layout of a palette

The palette of a theme begins with a placeholder and the two default colors.  Behind them
stand the colors that the rules declare, each once and in the order in which they are
declared first, except for the defaults.  An index that is handed out while the palette is
growing leads to its color in every palette that comes later.
-/

namespace Scopelight

namespace Palette

/-- The palette after the interning of some colors, one after the other. -/
def internAll (palette : Palette) (colors : List Color) : Palette :=
  colors.foldl (fun grown color => (grown.intern color).1) palette

variable {palette : Palette} {color : Color} {index : Nat}

theorem intern_of_mem (held : color ∈ palette.entries) : (palette.intern color).1 = palette := by
  unfold intern
  split
  · rfl
  · next absent => exact absurd held (List.idxOf?_eq_none_iff.mp absent)

theorem intern_of_not_mem (new : color ∉ palette.entries) :
    (palette.intern color).1.entries = palette.entries ++ [color] := by
  rw [intern, List.idxOf?_eq_none_iff.mpr new]

theorem internAll_append (palette : Palette) (colors more : List Color) :
    palette.internAll (colors ++ more) = (palette.internAll colors).internAll more :=
  List.foldl_append

/-- Interned colors are appended in the order in which they come first, each once, and not
if they are already there. -/
theorem entries_internAll (palette : Palette) (colors : List Color) :
    (palette.internAll colors).entries =
      palette.entries ++ (colors.filter fun color => color ∉ palette.entries).eraseDups := by
  induction colors generalizing palette with
  | nil => simp [internAll]
  | cons color colors ih =>
      rw [internAll, List.foldl_cons]
      change ((palette.intern color).1.internAll colors).entries = _
      by_cases held : color ∈ palette.entries
      · rw [intern_of_mem held, ih, List.filter_cons_of_neg (by simpa using held)]
      · rw [ih, intern_of_not_mem held, List.filter_cons_of_pos (by simpa using held),
          List.eraseDups_cons, List.filter_filter, List.append_assoc, List.singleton_append]
        congr 4
        funext other
        simp [Bool.and_comm, beq_eq_decide]

/-- The layout of a palette that has grown from its defaults. -/
theorem colors_internAll_ofDefaults (foreground background : Color) (colors : List Color) :
    ((ofDefaults foreground background).internAll colors).colors =
      .black :: foreground :: background ::
        (colors.filter fun color => color ≠ foreground ∧ color ≠ background).eraseDups := by
  have othersEq : (colors.filter fun color =>
        color ∉ (ofDefaults foreground background).entries) =
      colors.filter fun color => color ≠ foreground ∧ color ≠ background :=
    List.filter_congr fun color _ => by simp [ofDefaults]
  rw [Palette.colors, entries_internAll, othersEq]
  rfl

theorem internAll_extends (palette : Palette) (colors : List Color) :
    palette.entries <+: (palette.internAll colors).entries := by
  rw [entries_internAll]
  exact List.prefix_append _ _

/-- No color is found at the index of the placeholder. -/
theorem pos_of_get? (held : palette.get? index = some color) : 1 ≤ index := by
  cases index with
  | zero => cases held
  | succ place => exact Nat.le_add_left 1 place

theorem Represents.pos {text? : Option String}
    (represents : palette.Represents (some index) text?) : 1 ≤ index := by
  cases represents with
  | color written held => exact pos_of_get? held

end Palette

/-- The colors that are written as settings, the foreground first. -/
def ThemeSettings.colors (settings : ThemeSettings) : List Color :=
  (settings.foreground.bind Color.parse?).toList ++
    (settings.background.bind Color.parse?).toList

/-- The colors that the entries with selectors declare, in the order of declaration. -/
def ThemeDocument.ruleColors (document : ThemeDocument) : List Color :=
  (document.entries.filter fun entry => !entry.selectors.isEmpty).flatMap
    fun entry => entry.settings.colors

theorem ThemeRule.StandsFor.extend {palette extended : Palette} {rule : ThemeRule}
    {declaration : Selector × ThemeSettings} (stands : rule.StandsFor palette declaration)
    (extendsEntries : palette.entries <+: extended.entries) :
    rule.StandsFor extended declaration :=
  ⟨stands.selectorEq, stands.foreground.extend extendsEntries,
    stands.background.extend extendsEntries⟩

namespace Theme

open Grammar (bind_eq_ok)

variable {palette next : Palette} {rules others : List ThemeRule}

theorem internText_eq {text? : Option String} {index? : Option Nat}
    (interned : internText palette text? = .ok (next, index?)) :
    next = palette.internAll (text?.bind Color.parse?).toList := by
  cases text? with
  | none =>
      cases interned
      rfl
  | some text =>
      obtain ⟨written, colorEq, interned⟩ := bind_eq_ok interned
      cases interned
      rw [Option.bind_some, parse?_of_color colorEq]
      rfl

theorem addEntry_palette {entry : ThemeEntry}
    (added : addEntry (palette, rules) entry = .ok (next, others)) :
    next = palette.internAll entry.settings.colors := by
  obtain ⟨⟨inner, foreground⟩, foregroundEq, added⟩ := bind_eq_ok added
  obtain ⟨⟨last, background⟩, backgroundEq, added⟩ := bind_eq_ok added
  cases added
  rw [internText_eq backgroundEq, internText_eq foregroundEq, ThemeSettings.colors,
    Palette.internAll_append]

theorem foldlM_addEntry_palette {entries : List ThemeEntry}
    (folded : entries.foldlM addEntry (palette, rules) = .ok (next, others)) :
    next = palette.internAll (entries.flatMap fun entry => entry.settings.colors) := by
  induction entries generalizing palette rules with
  | nil =>
      cases folded
      rfl
  | cons entry entries ih =>
      rw [List.foldlM_cons] at folded
      obtain ⟨⟨inner, between⟩, added, folded⟩ := bind_eq_ok folded
      rw [ih folded, addEntry_palette added, List.flatMap_cons, Palette.internAll_append]

variable {document : ThemeDocument} {theme : Theme}

theorem palette_of_ofDocument (loads : ofDocument document = .ok theme) :
    theme.palette = (Palette.ofDefaults
      (document.defaultColor ThemeSettings.foreground ({} : ThemeDefaults).foreground)
      (document.defaultColor ThemeSettings.background ({} : ThemeDefaults).background)).internAll
        document.ruleColors := by
  unfold ofDocument at loads
  rw [List.partition_eq_filter_filter] at loads
  obtain ⟨defaults, defaultsEq, loads⟩ := bind_eq_ok loads
  obtain ⟨⟨palette, rules⟩, builtEq, loads⟩ := bind_eq_ok loads
  cases loads
  obtain ⟨foregroundEq, backgroundEq⟩ := ThemeDefaults.foldlM_merge_written defaultsEq
  rw [ThemeDocument.defaultColor, ThemeDocument.defaultColor, ThemeDocument.general,
    ← foregroundEq, ← backgroundEq]
  exact foldlM_addEntry_palette builtEq

/-- The palette of a loaded theme holds a placeholder, the default foreground, the default
background, and then the other colors of the rules in the order in which they are declared
first.  The indices of a rule lead to the colors that its declaration writes, whatever is
interned later, and never to the placeholder; nor do those of a resolved style. -/
theorem load_palette {source : String} (loads : load source = .ok theme) :
    ∃ document, ThemeDocument.parse? source = some document ∧
      (let foreground :=
        document.defaultColor ThemeSettings.foreground ({} : ThemeDefaults).foreground
       let background :=
        document.defaultColor ThemeSettings.background ({} : ThemeDefaults).background
       theme.palette.colors = .black :: foreground :: background ::
        (document.ruleColors.filter fun color =>
          color ≠ foreground ∧ color ≠ background).eraseDups) ∧
      theme.rules.length = document.declarations.length ∧
      (∀ (order : Nat) (rule : ThemeRule), theme.rules[order]? = some rule →
        ∃ declaration, document.declarations[order]? = some declaration ∧
          (∀ later, rule.StandsFor (theme.palette.internAll later) declaration) ∧
          ∀ index, rule.foreground = some index ∨ rule.background = some index → 1 ≤ index) ∧
      ∀ scopes,
        (1 ≤ (theme.resolve scopes).foreground ∧
          (theme.resolve scopes).foreground < theme.palette.size) ∧
        1 ≤ (theme.resolve scopes).background ∧
          (theme.resolve scopes).background < theme.palette.size := by
  unfold load at loads
  split at loads
  case h_2 => cases loads
  next document documentEq =>
  have built := (built_of_ofDocument loads).1
  refine ⟨document, documentEq, ?_, built.lengthEq, ?_, ?_⟩
  · intro foreground background
    rw [palette_of_ofDocument loads, Palette.colors_internAll_ofDefaults]
  · intro order rule found
    obtain ⟨-, declaration, declared, stands⟩ := built.stands order rule found
    refine ⟨declaration, declared,
      fun later => stands.extend (theme.palette.internAll_extends later), ?_⟩
    rintro index (foregroundEq | backgroundEq)
    · exact (foregroundEq ▸ stands.foreground).pos
    · exact (backgroundEq ▸ stands.background).pos
  · intro scopes
    obtain ⟨foregroundHeld, backgroundHeld⟩ := get?_resolve loads scopes
    exact ⟨⟨Palette.pos_of_get? foregroundHeld, Palette.lt_size_of_get? foregroundHeld⟩,
      Palette.pos_of_get? backgroundHeld, Palette.lt_size_of_get? backgroundHeld⟩

/-- A theme with a white background, in which black is declared and white once more. -/
def inkSource : String :=
  "\x7b\"settings\":[\x7b\"settings\":\x7b\"background\":\"#ffffff\"\x7d\x7d," ++
    "\x7b\"scope\":\"string\",\"settings\":" ++
      "\x7b\"foreground\":\"#000000\",\"background\":\"#ffffff\"\x7d\x7d," ++
    "\x7b\"scope\":\"number\",\"settings\":" ++
      "\x7b\"foreground\":\"#098658\",\"background\":\"#000000\"\x7d\x7d]\x7d"

theorem inkSource_palette :
    ∃ theme, load inkSource = .ok theme ∧
      theme.palette.colors = [.black, ⟨0xD4, 0xD4, 0xD4⟩, ⟨0xFF, 0xFF, 0xFF⟩, .black,
        ⟨0x09, 0x86, 0x58⟩] ∧
      theme.resolve [⟨"number"⟩] = ⟨4, 3, .plain⟩ ∧
      ∀ scopes, (theme.resolve scopes).foreground < theme.palette.size := by
  have evaluated : ((load inkSource).toOption.any fun theme =>
      decide (theme.palette.colors = [.black, ⟨0xD4, 0xD4, 0xD4⟩, ⟨0xFF, 0xFF, 0xFF⟩, .black,
          ⟨0x09, 0x86, 0x58⟩] ∧
        theme.resolve [⟨"number"⟩] = ⟨4, 3, .plain⟩)) = true := by
    decide +kernel
  obtain ⟨theme, loaded, checked⟩ := Grammar.exists_ok_of_any evaluated
  obtain ⟨colorsEq, styleEq⟩ := of_decide_eq_true checked
  obtain ⟨-, -, -, -, -, resolves⟩ := load_palette loaded
  exact ⟨theme, loaded, colorsEq, styleEq, fun scopes => (resolves scopes).1.2⟩

end Theme

end Scopelight
