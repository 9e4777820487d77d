import Scopelight.Pattern.CharSet
import Scopelight.Pattern.Expr
import Scopelight.Unicode.Age
import Scopelight.Unicode.Category
import Scopelight.Unicode.Contributory
import Scopelight.Unicode.Emoji
import Scopelight.Unicode.GraphemeBreak
import Scopelight.Unicode.Identifiers
import Scopelight.Unicode.Letters
import Scopelight.Unicode.Properties
import Scopelight.Unicode.Script
import Scopelight.Unicode.ScriptExtension
import Scopelight.Unicode.SentenceBreak
import Scopelight.Unicode.White
import Scopelight.Unicode.Word
import Scopelight.Unicode.WordBreak

/-!
# Named character classes

The sets of characters behind the one-letter classes, the classes written `[:name:]` and
the character properties.  Property names are matched loosely: case, spaces, hyphens,
underscores and a leading `is` make no difference.
-/

namespace Scopelight

namespace Pattern

namespace CharSet

def unicodeDigits : CharSet :=
  ofPacked Unicode.Category.decimalNumber

def unicodeSpaces : CharSet :=
  ⟨Unicode.whiteRanges⟩

def unicodeWords : CharSet :=
  ofPacked Unicode.wordCharacters

def asciiDigits : CharSet :=
  .range 0x30 0x39

def asciiSpaces : CharSet :=
  ⟨[(0x09, 0x0D), (0x20, 0x20)]⟩

def asciiWords : CharSet :=
  ⟨[(0x30, 0x39), (0x41, 0x5A), (0x5F, 0x5F), (0x61, 0x7A)]⟩

end CharSet

def ShortClass.set (kind : ShortClass) (unicode : Bool) : CharSet :=
  match kind, unicode with
  | .digit, true => CharSet.unicodeDigits
  | .space, true => CharSet.unicodeSpaces
  | .word, true => CharSet.unicodeWords
  | .digit, false => CharSet.asciiDigits
  | .space, false => CharSet.asciiSpaces
  | .word, false => CharSet.asciiWords

/-- The members of a class written `[:name:]`. -/
def NamedClass.set (kind : NamedClass) : CharSet where
  ranges :=
    match kind with
    | .alnum => [(0x30, 0x39), (0x41, 0x5A), (0x61, 0x7A)]
    | .alpha => [(0x41, 0x5A), (0x61, 0x7A)]
    | .ascii => [(0x00, 0x7F)]
    | .blank => [(0x09, 0x09), (0x20, 0x20)]
    | .cntrl => [(0x00, 0x1F), (0x7F, 0x7F)]
    | .digit => [(0x30, 0x39)]
    | .graph => [(0x21, 0x7E)]
    | .lower => [(0x61, 0x7A)]
    | .print => [(0x20, 0x7E)]
    | .punct => [(0x21, 0x2F), (0x3A, 0x40), (0x5B, 0x60), (0x7B, 0x7E)]
    | .space => [(0x09, 0x0D), (0x20, 0x20)]
    | .upper => [(0x41, 0x5A)]
    | .word => [(0x30, 0x39), (0x41, 0x5A), (0x5F, 0x5F), (0x61, 0x7A)]
    | .xdigit => [(0x30, 0x39), (0x41, 0x46), (0x61, 0x66)]

/-- The loose form of a property name or value. -/
def looseName (name : List Char) : String :=
  let (leading, rest) :=
    match name with
    | a :: b :: rest =>
        if (a = 'i' || a = 'I') && (b = 's' || b = 'S') then (true, rest) else (false, name)
    | _ => (false, name)
  let kept :=
    (rest.filter fun c => c != ' ' && c != '_' && c != '-' && decide (c.toNat < 0x80)).map
      Char.toLower
  if leading && kept = ['c'] then "isc" else String.ofList kept

def lookupName {Table : Type} (name : String) : List (List String × Table) → Option Table
  | [] => none
  | (names, table) :: rest =>
      if names.contains name then some table else lookupName name rest

/-- The members of a general category or one of the classes defined beside them. -/
def categorySet? (name : String) : Option CharSet :=
  if name = "any" then some (.range 0 0x10FFFF)
  else if name = "ascii" then some (.range 0 0x7F)
  else if name = "assigned" then
    some ((CharSet.ofPacked Unicode.Category.unassigned).complement 0x10FFFF)
  else if Unicode.Category.otherNames.contains name then
    some ((CharSet.unions (Unicode.Category.visible.map .ofPacked)).complement 0x10FFFF)
  else
    (lookupName name Unicode.Category.byName).map fun tables =>
      .unions (tables.map .ofPacked)

def scriptSet? (name : String) : Option CharSet :=
  (lookupName name Unicode.Script.byName).map .ofPacked

/-- The members of a yes-or-no property. -/
def binarySet? (name : String) : Option CharSet :=
  let table : Option Unicode.PackedRanges :=
    [Unicode.Letters.byName, Unicode.Identifiers.byName, Unicode.Properties.byName,
      Unicode.Emoji.byName, Unicode.Contributory.byName].findSome? (lookupName name)
  table.map .ofPacked

/-- The code points that a version of the standard and those before it added. -/
def ageSet? (name : String) : Option CharSet :=
  let (before, rest) := Unicode.Age.byName.span fun (names, _) => !names.contains name
  rest.head?.map fun (_, table) =>
    .unions ((before.map Prod.snd ++ [table]).map .ofPacked)

/-- The members of a value of `Grapheme_Cluster_Break`. -/
def graphemeBreakSet? (name : String) : Option CharSet :=
  if name = "lv" then some ⟨Unicode.GraphemeBreak.openSyllables⟩
  else if name = "lvt" then some ⟨Unicode.GraphemeBreak.closedSyllables⟩
  else (lookupName name Unicode.GraphemeBreak.byName).map .ofPacked

/-- Names that are also short for properties without a table, and mean a category or
script only. -/
def isCategoryFirst (name : String) : Bool :=
  name = "cf" || name = "sc" || name = "lc"

def valueSet? (name value : String) : Option CharSet :=
  match name with
  | "gc" | "generalcategory" => categorySet? value
  | "sc" | "script" => scriptSet? value
  | "scx" | "scriptextensions" =>
      (lookupName value Unicode.ScriptExtension.byName).map .ofPacked
  | "age" => ageSet? value
  | "gcb" | "graphemeclusterbreak" => graphemeBreakSet? value
  | "wb" | "wordbreak" => (lookupName value Unicode.WordBreak.byName).map .ofPacked
  | "sb" | "sentencebreak" =>
      (lookupName value Unicode.SentenceBreak.byName).map .ofPacked
  | _ => none

/-- The characters with a property.  A name alone is looked up as a yes-or-no property, a
category and a script, in this order. -/
def PropertyName.set? : PropertyName → Option CharSet
  | .plain name =>
      let name := looseName name
      let binary := if isCategoryFirst name then none else binarySet? name
      binary.or ((categorySet? name).or (scriptSet? name))
  | .valued name value => valueSet? (looseName name) (looseName value)

end Pattern

end Scopelight
