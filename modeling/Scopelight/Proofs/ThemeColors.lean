import Scopelight.Proofs.LoadedGrammar
import Scopelight.Theme.Basic

/-!
# The colors of a theme

A theme keeps its colors in a palette, and its styles refer to them by their indices.  The
index that is given to a color leads back to it in the finished palette, so the index of a
resolved style always leads to the color that is written in the declaration that decides.
-/

namespace Scopelight

namespace Palette

/-- Every color behind the two defaults differs from all colors before it. -/
def Distinct (palette : Palette) : Prop :=
  ∀ (early late : Nat) (color : Color), early < late → 2 ≤ late →
    palette.entries[late]? = some color → palette.entries[early]? ≠ some color

/-- An index stands for a written color, and there is none where none is written. -/
inductive Represents (palette : Palette) : Option Nat → Option String → Prop
  | absent : Represents palette none none
  | color {index : Nat} {text : String} {color : Color}
      (written : Color.parse? text = some color) (held : palette.get? index = some color) :
      Represents palette (some index) (some text)

variable {palette extended : Palette} {color : Color} {index : Nat}

theorem get?_of_extends (extendsEntries : palette.entries <+: extended.entries)
    (held : palette.get? index = some color) : extended.get? index = some color := by
  cases index with
  | zero => cases held
  | succ place =>
      obtain ⟨inside, entryEq⟩ := List.getElem?_eq_some_iff.mp held
      rw [← entryEq]
      exact List.prefix_iff_getElem?.mp extendsEntries place inside

theorem lt_size_of_get? (held : palette.get? index = some color) : index < palette.size := by
  cases index with
  | zero => cases held
  | succ place =>
      obtain ⟨inside, -⟩ := List.getElem?_eq_some_iff.mp held
      simpa [size, colors] using inside

theorem intern_extends (palette : Palette) (color : Color) :
    palette.entries <+: (palette.intern color).1.entries := by
  unfold intern
  split
  · exact List.prefix_refl _
  · exact List.prefix_append _ _

theorem get?_intern (palette : Palette) (color : Color) :
    (palette.intern color).1.get? (palette.intern color).2 = some color := by
  unfold intern
  split
  · next place found =>
      obtain ⟨inside, entryEq, -⟩ := List.idxOf?_eq_some_iff.mp found
      exact List.getElem?_eq_some_iff.mpr ⟨inside, entryEq⟩
  · exact List.getElem?_concat_length

theorem Distinct.ofDefaults (foreground background : Color) :
    (Palette.ofDefaults foreground background).Distinct := by
  intro early late color _ behind found
  rw [List.getElem?_eq_none (by simpa [Palette.ofDefaults] using behind)] at found
  cases found

theorem Distinct.intern (distinct : palette.Distinct) (color : Color) :
    (palette.intern color).1.Distinct := by
  unfold Palette.intern
  split
  case h_1 => exact distinct
  case h_2 absent =>
    have fresh : color ∉ palette.entries := List.idxOf?_eq_none_iff.mp absent
    intro early late other before behind found
    obtain ⟨inside, -⟩ := List.getElem?_eq_some_iff.mp found
    rw [List.length_append, List.length_singleton] at inside
    have earlyInside : early < palette.entries.length := by omega
    rw [List.getElem?_append_left earlyInside]
    rcases Nat.lt_or_ge late palette.entries.length with old | new
    · rw [List.getElem?_append_left old] at found
      exact distinct early late other before behind found
    · obtain rfl : late = palette.entries.length := by omega
      obtain rfl := Option.some.inj (List.getElem?_concat_length.symm.trans found)
      exact fun same => fresh (List.mem_of_getElem? same)

/-- An index that is cut off to 9 bits leads to the same color only if it fits them. -/
theorem Distinct.get?_mod_iff (distinct : palette.Distinct)
    (held : palette.get? index = some color) :
    palette.get? (index % 0x200) = some color ↔ index < 0x200 := by
  constructor
  · intro same
    refine Nat.lt_of_not_ge fun tooGreat => ?_
    have cut := Nat.mod_lt index (show 0 < 0x200 by decide)
    obtain ⟨late, rfl⟩ : ∃ late, index = late + 1 := ⟨index - 1, by omega⟩
    cases earlyEq : (late + 1) % 0x200 with
    | zero =>
        rw [earlyEq] at same
        cases same
    | succ early =>
        rw [earlyEq] at same
        exact distinct early late color (by omega) (by omega) held same
  · intro fits
    rwa [Nat.mod_eq_of_lt fits]

theorem Represents.map_get? {index? : Option Nat} {text? : Option String}
    (represents : palette.Represents index? text?) :
    index?.map palette.get? = (text?.bind Color.parse?).map some := by
  cases represents with
  | absent => rfl
  | color written held => rw [Option.map_some, held, Option.bind_some, written, Option.map_some]

theorem Represents.extend {index? : Option Nat} {text? : Option String}
    (represents : palette.Represents index? text?)
    (extendsEntries : palette.entries <+: extended.entries) :
    extended.Represents index? text? := by
  cases represents with
  | absent => exact .absent
  | color written held => exact .color written (get?_of_extends extendsEntries held)

end Palette

namespace ThemeEntry

/-- The selectors of an entry, each with the attributes it sets. -/
def declarations (entry : ThemeEntry) : List (Selector × ThemeSettings) :=
  entry.selectors.map fun selector => (selector, entry.settings)

end ThemeEntry

namespace ThemeDocument

/-- The entries without selectors, which set the defaults. -/
def general (document : ThemeDocument) : List ThemeEntry :=
  document.entries.filter fun entry => entry.selectors.isEmpty

/-- The selectors of a document with the attributes they set, in the order in which they
are declared. -/
def declarations (document : ThemeDocument) : List (Selector × ThemeSettings) :=
  document.entries.flatMap ThemeEntry.declarations

theorem declarations_eq_specific (document : ThemeDocument) :
    document.declarations =
      (document.entries.filter fun entry => !entry.selectors.isEmpty).flatMap
        ThemeEntry.declarations := by
  unfold declarations
  induction document.entries with
  | nil => rfl
  | cons entry entries ih =>
      rw [List.flatMap_cons, List.filter_cons, ih]
      split
      · rw [List.flatMap_cons]
      · next general =>
          have noneSelected : entry.selectors = [] := by simpa using general
          simp [ThemeEntry.declarations, noneSelected]

/-- The color that the last general entry writes among those that write one. -/
def defaultColor (document : ThemeDocument) (written : ThemeSettings → Option String)
    (fallback : Color) : Color :=
  (document.general.filterMap fun entry =>
    (written entry.settings).bind Color.parse?).getLast?.getD fallback

/-- The color that the declaration with a number writes. -/
def colorAt? (document : ThemeDocument) (written : ThemeSettings → Option String)
    (order : Nat) : Option Color :=
  document.declarations[order]?.bind fun declaration =>
    (written declaration.2).bind Color.parse?

/-- The color that a document writes for a scope stack: that of the declaration which
decides, or the default. -/
def colorOf (document : ThemeDocument) (theme : Theme)
    (written : ThemeSettings → Option String) (fallback : Color) (scopes : List Scope) :
    Color :=
  let written? := fun rule : ThemeRule => document.colorAt? written rule.order
  (Theme.decided? theme.rules written? scopes.reverse).getD
    (document.defaultColor written fallback)

end ThemeDocument

namespace ThemeRule

theorem strongest?_mem {rules : List ThemeRule} {rule : ThemeRule}
    (strongest : strongest? rules = some rule) : rule ∈ rules := by
  have kept : ∀ best ∈ strongest? rules, best ∈ rules := by
    refine List.foldlRecOn rules _ (motive := fun best? => ∀ best ∈ best?, best ∈ rules)
      (by simp) ?_
    intro best? known next inside best found
    cases best? with
    | none => exact Option.some.inj found ▸ inside
    | some other =>
        change best ∈ (if next.outranks other then some next else some other) at found
        split at found
        · exact Option.some.inj found ▸ inside
        · exact known best found
  exact kept rule strongest

/-- A rule has the selector of a declaration, and its indices stand for the colors that the
declaration writes. -/
structure StandsFor (palette : Palette) (rule : ThemeRule)
    (declaration : Selector × ThemeSettings) : Prop where
  selectorEq : rule.selector = declaration.1
  foreground : palette.Represents rule.foreground declaration.2.foreground
  background : palette.Represents rule.background declaration.2.background

end ThemeRule

namespace Theme

/-- The rules are those of the declarations, each with its number, and their colors are in
the palette. -/
structure Built (declared : List (Selector × ThemeSettings)) (palette : Palette)
    (rules : List ThemeRule) : Prop where
  lengthEq : rules.length = declared.length
  stands : ∀ (order : Nat) (rule : ThemeRule), rules[order]? = some rule →
    rule.order = order ∧
      ∃ declaration, declared[order]? = some declaration ∧ rule.StandsFor palette declaration
  distinct : palette.Distinct

open Grammar (bind_eq_ok)

theorem parse?_of_color {text : String} {written : Color}
    (colorEq : color text = .ok written) : Color.parse? text = some written := by
  unfold color at colorEq
  split at colorEq
  · next parsed => exact Except.ok.inj colorEq ▸ parsed
  · cases colorEq

theorem internText_represents {palette extended : Palette} {text? : Option String}
    {index? : Option Nat} (interned : internText palette text? = .ok (extended, index?)) :
    palette.entries <+: extended.entries ∧ extended.Represents index? text? ∧
      (palette.Distinct → extended.Distinct) := by
  cases text? with
  | none =>
      cases interned
      exact ⟨List.prefix_refl _, .absent, id⟩
  | some text =>
      obtain ⟨written, colorEq, interned⟩ := bind_eq_ok interned
      cases interned
      exact ⟨palette.intern_extends written,
        .color (parse?_of_color colorEq) (palette.get?_intern written),
        fun distinct => distinct.intern written⟩

theorem Built.addEntry {declared : List (Selector × ThemeSettings)} {palette next : Palette}
    {rules others : List ThemeRule} (built : Built declared palette rules)
    {entry : ThemeEntry}
    (added : Theme.addEntry (palette, rules) entry = .ok (next, others)) :
    palette.entries <+: next.entries ∧ Built (declared ++ entry.declarations) next others := by
  obtain ⟨⟨inner, foreground⟩, foregroundEq, added⟩ := bind_eq_ok added
  obtain ⟨⟨last, background⟩, backgroundEq, added⟩ := bind_eq_ok added
  cases added
  obtain ⟨innerExtends, innerRepresents, innerDistinct⟩ :=
    internText_represents foregroundEq
  obtain ⟨lastExtends, lastRepresents, lastDistinct⟩ := internText_represents backgroundEq
  have extendsEntries := innerExtends.trans lastExtends
  refine ⟨extendsEntries, ?_, ?_, lastDistinct (innerDistinct built.distinct)⟩
  · simp [ThemeEntry.declarations, built.lengthEq]
  · intro order rule found
    rcases Nat.lt_or_ge order rules.length with old | new
    · rw [List.getElem?_append_left old] at found
      obtain ⟨orderEq, declaration, declaredEq, stands⟩ := built.stands order rule found
      refine ⟨orderEq, declaration, ?_, stands.selectorEq,
        stands.foreground.extend extendsEntries, stands.background.extend extendsEntries⟩
      rwa [List.getElem?_append_left (built.lengthEq ▸ old)]
    · rw [List.getElem?_append_right new, List.getElem?_map, List.getElem?_zipIdx,
        Option.map_map, Option.map_eq_some_iff] at found
      obtain ⟨selector, selectorEq, rfl⟩ := found
      refine ⟨by simp only [Function.comp_apply]; omega, (selector, entry.settings), ?_, rfl,
        innerRepresents.extend lastExtends, lastRepresents⟩
      rw [List.getElem?_append_right (built.lengthEq ▸ new), ThemeEntry.declarations,
        List.getElem?_map, ← built.lengthEq, selectorEq, Option.map_some]

theorem Built.foldlM {entries : List ThemeEntry}
    {declared : List (Selector × ThemeSettings)} {palette last : Palette}
    {rules others : List ThemeRule} (built : Built declared palette rules)
    (folded : entries.foldlM Theme.addEntry (palette, rules) = .ok (last, others)) :
    palette.entries <+: last.entries ∧
      Built (declared ++ entries.flatMap ThemeEntry.declarations) last others := by
  induction entries generalizing declared palette rules with
  | nil =>
      cases folded
      exact ⟨List.prefix_refl _, by simpa using built⟩
  | cons entry entries ih =>
      rw [List.foldlM_cons] at folded
      obtain ⟨⟨next, between⟩, added, folded⟩ := bind_eq_ok folded
      obtain ⟨nextExtends, nextBuilt⟩ := built.addEntry added
      obtain ⟨lastExtends, lastBuilt⟩ := ih nextBuilt folded
      refine ⟨nextExtends.trans lastExtends, ?_⟩
      rwa [List.flatMap_cons, ← List.append_assoc]

/-- The rules of a theme are those of the declarations of its document, and its defaults are
the first two colors of its palette. -/
theorem built_of_ofDocument {document : ThemeDocument} {theme : Theme}
    (loads : ofDocument document = .ok theme) :
    Built document.declarations theme.palette theme.rules ∧
      ∃ defaults, document.general.foldlM
          (fun defaults entry => ThemeDefaults.merge defaults entry.settings) {} =
            .ok defaults ∧
        theme.defaults = ⟨1, 2, defaults.font⟩ ∧
        theme.palette.get? 1 = some defaults.foreground ∧
        theme.palette.get? 2 = some defaults.background := by
  unfold ofDocument at loads
  rw [List.partition_eq_filter_filter] at loads
  obtain ⟨defaults, defaultsEq, loads⟩ := bind_eq_ok loads
  obtain ⟨⟨palette, rules⟩, builtEq, loads⟩ := bind_eq_ok loads
  cases loads
  have empty : Built [] (.ofDefaults defaults.foreground defaults.background) [] :=
    ⟨rfl, by simp, .ofDefaults _ _⟩
  obtain ⟨extendsEntries, built⟩ := empty.foldlM builtEq
  refine ⟨?_, defaults, defaultsEq, rfl,
    Palette.get?_of_extends extendsEntries rfl, Palette.get?_of_extends extendsEntries rfl⟩
  rw [document.declarations_eq_specific]
  exact built

end Theme

namespace ThemeDefaults

variable {defaults merged : ThemeDefaults}

private theorem written_of_map {text? : Option String} {current written : Color}
    (read : (text?.map Theme.color).getD (.ok current) = .ok written) :
    written = (text?.bind Color.parse?).getD current := by
  cases text? with
  | none => exact (Except.ok.inj read).symm
  | some text =>
      rw [Option.bind_some, Theme.parse?_of_color read]
      rfl

theorem merge_written {settings : ThemeSettings}
    (merges : defaults.merge settings = .ok merged) :
    merged.foreground = (settings.foreground.bind Color.parse?).getD defaults.foreground ∧
      merged.background =
        (settings.background.bind Color.parse?).getD defaults.background := by
  obtain ⟨foreground, foregroundEq, merges⟩ := Grammar.bind_eq_ok merges
  obtain ⟨background, backgroundEq, merges⟩ := Grammar.bind_eq_ok merges
  cases merges
  exact ⟨written_of_map foregroundEq, written_of_map backgroundEq⟩

private theorem getLast?_written (written : ThemeSettings → Option String)
    (entry : ThemeEntry) (entries : List ThemeEntry) (fallback : Color) :
    (((entry :: entries).filterMap fun entry =>
        (written entry.settings).bind Color.parse?).getLast?.getD fallback) =
      ((entries.filterMap fun entry =>
        (written entry.settings).bind Color.parse?).getLast?.getD
          (((written entry.settings).bind Color.parse?).getD fallback)) := by
  rw [List.filterMap_cons]
  cases (written entry.settings).bind Color.parse? with
  | none => rfl
  | some color => simp [List.getLast?_cons]

/-- Of the colors that are written for a default, the last one counts. -/
theorem foldlM_merge_written {entries : List ThemeEntry}
    (folded : entries.foldlM (fun defaults entry => merge defaults entry.settings) defaults =
      .ok merged) :
    merged.foreground = ((entries.filterMap fun entry =>
        entry.settings.foreground.bind Color.parse?).getLast?.getD defaults.foreground) ∧
      merged.background = ((entries.filterMap fun entry =>
        entry.settings.background.bind Color.parse?).getLast?.getD defaults.background) := by
  induction entries generalizing defaults with
  | nil =>
      cases folded
      exact ⟨rfl, rfl⟩
  | cons entry entries ih =>
      rw [List.foldlM_cons] at folded
      obtain ⟨next, nextEq, folded⟩ := Grammar.bind_eq_ok folded
      obtain ⟨foregroundEq, backgroundEq⟩ := merge_written nextEq
      rw [getLast?_written ThemeSettings.foreground, getLast?_written ThemeSettings.background,
        ← foregroundEq, ← backgroundEq]
      exact ih folded

end ThemeDefaults

namespace Theme

variable {palette : Palette} {rules : List ThemeRule}

/-- If each rule shows a color exactly where it has an index for it, then the index that is
decided shows the color that is decided. -/
theorem map_decided? {index : ThemeRule → Option Nat} {color : ThemeRule → Option Color}
    (shows : ∀ rule ∈ rules, (index rule).map palette.get? = (color rule).map some)
    (stack : List Scope) :
    (decided? rules index stack).map palette.get? = (decided? rules color stack).map some := by
  induction stack with
  | nil => rfl
  | cons scope ancestors ih =>
      have sameSetters :
          (rules.filter fun rule =>
            (index rule).isSome && rule.selector.selects scope ancestors) =
          (rules.filter fun rule =>
            (color rule).isSome && rule.selector.selects scope ancestors) := by
        refine List.filter_congr fun rule member => ?_
        have sets := congrArg Option.isSome (shows rule member)
        rw [Option.isSome_map, Option.isSome_map] at sets
        rw [sets]
      simp only [decided?, sameSetters]
      split
      · next rule strongest =>
          exact shows rule (List.mem_filter.mp (ThemeRule.strongest?_mem strongest)).1
      · exact ih

variable {document : ThemeDocument}

/-- The index that is decided leads to the color that is written in the declaration that
decides, given that each rule has an index for what its declaration writes. -/
theorem Built.get?_decided (built : Built document.declarations palette rules)
    {index : ThemeRule → Option Nat} {written : ThemeSettings → Option String}
    (represents : ∀ rule declaration, rule.StandsFor palette declaration →
      palette.Represents (index rule) (written declaration.2))
    {default : Nat} {color : Color} (defaultHeld : palette.get? default = some color)
    (stack : List Scope) :
    palette.get? ((decided? rules index stack).getD default) =
      some ((decided? rules (fun rule => document.colorAt? written rule.order) stack).getD
        color) := by
  have shows : ∀ rule ∈ rules, (index rule).map palette.get? =
      (document.colorAt? written rule.order).map some := by
    intro rule member
    obtain ⟨order, found⟩ := List.mem_iff_getElem?.mp member
    obtain ⟨rfl, declaration, declared, stands⟩ := built.stands order rule found
    rw [ThemeDocument.colorAt?, declared, Option.bind_some]
    exact (represents rule declaration stands).map_get?
  have decides := map_decided? shows stack
  cases decidedEq : decided? rules index stack <;>
    cases colorEq : decided? rules (fun rule => document.colorAt? written rule.order) stack <;>
    simp_all

/-- The colors of a resolved style are those that the document writes. -/
theorem get?_resolve {theme : Theme} (loads : ofDocument document = .ok theme)
    (scopes : List Scope) :
    theme.palette.get? (theme.resolve scopes).foreground =
        some (document.colorOf theme ThemeSettings.foreground ({} : ThemeDefaults).foreground
          scopes) ∧
      theme.palette.get? (theme.resolve scopes).background =
        some (document.colorOf theme ThemeSettings.background ({} : ThemeDefaults).background
          scopes) := by
  obtain ⟨built, defaults, defaultsEq, styleEq, foregroundHeld, backgroundHeld⟩ :=
    built_of_ofDocument loads
  obtain ⟨foregroundEq, backgroundEq⟩ := ThemeDefaults.foldlM_merge_written defaultsEq
  simp only [resolve, styleEq, ThemeDocument.colorOf, ThemeDocument.defaultColor,
    ← foregroundEq, ← backgroundEq]
  exact ⟨built.get?_decided (fun _ _ stands => stands.foreground) foregroundHeld _,
    built.get?_decided (fun _ _ stands => stands.background) backgroundHeld _⟩

end Theme

end Scopelight
