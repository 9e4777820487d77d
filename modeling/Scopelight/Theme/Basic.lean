import Scopelight.Style
import Scopelight.Theme.Document
import Scopelight.Theme.Palette
import Scopelight.Theme.Selector

/-!
# Themes

A theme gives a style to each scope stack.  Every attribute is decided by itself: by the
innermost scope for which some rule sets it, and among the rules that do, by the most
specific one.
-/

namespace Scopelight

/-- Why a theme cannot be loaded. -/
inductive ThemeError where
  | malformed
  | invalidColor (text : String)
  deriving DecidableEq

namespace ThemeError

def message : ThemeError → String
  | .malformed => "malformed theme document"
  | .invalidColor text => "invalid color: " ++ text

end ThemeError

/-- A selector of a theme with the attributes it sets. -/
structure ThemeRule where
  selector : Selector
  order : Nat
  foreground : Option Nat
  background : Option Nat
  font : Option FontStyle

/-- A loaded theme. -/
structure Theme where
  name : Option String
  rules : List ThemeRule
  /-- The style of text for which no rule sets anything. -/
  defaults : Style
  palette : Palette

namespace ThemeRule

/-- Whether one rule is at least as specific as another: by the segments of the target,
then by the number of parents, then by the order of declaration. -/
def outranks (rule other : ThemeRule) : Bool :=
  let segments := rule.selector.segmentCount
  let otherSegments := other.selector.segmentCount
  let parents := rule.selector.parents.length
  let otherParents := other.selector.parents.length
  decide (otherSegments < segments) ||
    (decide (otherSegments = segments) &&
      (decide (otherParents < parents) ||
        (decide (otherParents = parents) && decide (other.order ≤ rule.order))))

def strongest? (rules : List ThemeRule) : Option ThemeRule :=
  rules.foldl
    (fun best rule =>
      match best with
      | none => some rule
      | some other => if rule.outranks other then some rule else some other)
    none

end ThemeRule

namespace Theme

variable {Value : Type}

/-- The value of an attribute for a scope stack, innermost first, if a rule sets it. -/
def decided? (rules : List ThemeRule) (setting : ThemeRule → Option Value) :
    List Scope → Option Value
  | [] => none
  | scope :: ancestors =>
      let setters := rules.filter fun rule =>
        (setting rule).isSome && rule.selector.selects scope ancestors
      match ThemeRule.strongest? setters with
      | some rule => setting rule
      | none => decided? rules setting ancestors

def resolve (theme : Theme) (scopes : List Scope) : Style :=
  let stack := scopes.reverse
  {
    foreground :=
      (decided? theme.rules ThemeRule.foreground stack).getD theme.defaults.foreground
    background :=
      (decided? theme.rules ThemeRule.background stack).getD theme.defaults.background
    font := (decided? theme.rules ThemeRule.font stack).getD theme.defaults.font
  }

def color (text : String) : Except ThemeError Color :=
  match Color.parse? text with
  | some color => .ok color
  | none => .error (.invalidColor text)

/-- The index of a color that may be written, in the palette that then holds it. -/
def internText (palette : Palette) : Option String → Except ThemeError (Palette × Option Nat)
  | none => .ok (palette, none)
  | some text => do
      let (extended, index) := palette.intern (← color text)
      return (extended, some index)

end Theme

namespace ThemeEntry

def selectors (entry : ThemeEntry) : List Selector :=
  entry.scope.flatMap Selector.parseAll

end ThemeEntry

/-- The attributes that entries without selectors have set. -/
structure ThemeDefaults where
  foreground : Color := ⟨0xD4, 0xD4, 0xD4⟩
  background : Color := ⟨0x1E, 0x1E, 0x1E⟩
  font : FontStyle := .plain

namespace ThemeDefaults

def merge (defaults : ThemeDefaults) (settings : ThemeSettings) :
    Except ThemeError ThemeDefaults := do
  return {
    foreground := ← (settings.foreground.map Theme.color).getD (.ok defaults.foreground)
    background := ← (settings.background.map Theme.color).getD (.ok defaults.background)
    font := (settings.font.map FontStyle.parse).getD defaults.font
  }

end ThemeDefaults

namespace Theme

/-- Add the rules of an entry to a palette and the rules before it. -/
def addEntry (built : Palette × List ThemeRule) (entry : ThemeEntry) :
    Except ThemeError (Palette × List ThemeRule) := do
  let (palette, rules) := built
  let (palette, foreground) ← internText palette entry.settings.foreground
  let (palette, background) ← internText palette entry.settings.background
  let font := entry.settings.font.map FontStyle.parse
  let added := (entry.selectors.zipIdx rules.length).map fun (selector, order) =>
    { selector, order, foreground, background, font : ThemeRule }
  return (palette, rules ++ added)

/-- The theme that a document describes.  The colors of the defaults are read before those
of the rules. -/
def ofDocument (document : ThemeDocument) : Except ThemeError Theme := do
  let (general, specific) :=
    document.entries.partition fun entry => entry.selectors.isEmpty
  let defaults : ThemeDefaults ←
    general.foldlM (fun defaults entry => ThemeDefaults.merge defaults entry.settings) {}
  let palette := Palette.ofDefaults defaults.foreground defaults.background
  let (palette, rules) ← specific.foldlM addEntry (palette, [])
  return {
    name := document.name
    rules
    defaults := { foreground := 1, background := 2, font := defaults.font }
    palette
  }

def load (source : String) : Except ThemeError Theme :=
  match ThemeDocument.parse? source with
  | some document => ofDocument document
  | none => .error .malformed

end Theme

end Scopelight
