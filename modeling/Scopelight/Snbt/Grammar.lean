import Scopelight.Grammar.Load

/-!
# The SNBT grammar

The grammar of stringified NBT values: compounds with keys, lists and typed arrays, quoted
and bare strings, numbers and booleans.  Whatever else stands between them is marked as
invalid, white space excepted.
-/

namespace Scopelight

namespace Snbt

def reference (name : String) : RuleDocument where
  reference := some ("#" ++ name)

def groupScope (group scope : String) : String × Option String :=
  (group, some scope)

def scopedPattern (scope pattern : String) : RuleDocument where
  name := some scope
  pattern := some pattern

/-- `true` and `false`. -/
def booleanRule : RuleDocument :=
  scopedPattern "constant.language.boolean.snbt" "\\b(?:true|false)\\b"

/-- An array of numbers of one type, such as `[B; 1b]`. -/
def arrayRule : RuleDocument where
  name := some "meta.structure.array.snbt"
  opening := some "(\\[)\\s*([BIL])\\s*(;)"
  openingCaptures := some
    [groupScope "1" "punctuation.definition.array.begin.snbt",
     groupScope "2" "storage.type.array.snbt",
     groupScope "3" "punctuation.separator.array-type.snbt"]
  closing := some "\\]"
  closingCaptures := some [groupScope "0" "punctuation.definition.array.end.snbt"]
  members := [reference "number", reference "separator", reference "invalid"]

def compoundRule : RuleDocument where
  name := some "meta.structure.compound.snbt"
  opening := some "\\\x7b"
  openingCaptures := some [groupScope "0" "punctuation.definition.compound.begin.snbt"]
  closing := some "\\\x7d"
  closingCaptures := some [groupScope "0" "punctuation.definition.compound.end.snbt"]
  members :=
    [reference "key", reference "value", reference "separator", reference "invalid"]

def escapeRule : RuleDocument :=
  scopedPattern "constant.character.escape.snbt" "\\\\."

def invalidRule : RuleDocument :=
  scopedPattern "invalid.illegal.snbt" "[^\\s]"

def keyPattern (pattern scope : String) : RuleDocument where
  pattern := some pattern
  captures := some
    [groupScope "1" scope, groupScope "2" "punctuation.separator.key-value.snbt"]

/-- Keys of a compound: bare, in double quotes or in single quotes. -/
def keyRule : RuleDocument where
  members :=
    [keyPattern "([A-Za-z0-9._+\\-]+)\\s*(:)" "support.type.property-name.snbt",
     keyPattern "(\"(?:[^\"\\\\]|\\\\.)*\")\\s*(:)"
       "support.type.property-name.quoted.double.snbt",
     keyPattern "('(?:[^'\\\\]|\\\\.)*')\\s*(:)"
       "support.type.property-name.quoted.single.snbt"]

def listRule : RuleDocument where
  name := some "meta.structure.list.snbt"
  opening := some "\\["
  openingCaptures := some [groupScope "0" "punctuation.definition.list.begin.snbt"]
  closing := some "\\]"
  closingCaptures := some [groupScope "0" "punctuation.definition.list.end.snbt"]
  members := [reference "value", reference "separator", reference "invalid"]

def numberRule : RuleDocument where
  members :=
    [scopedPattern "constant.numeric.float.snbt"
       "[-+]?(?:\\d+\\.\\d*|\\.\\d+|\\d+)(?:[eE][-+]?\\d+)?[fFdD]\\b",
     scopedPattern "constant.numeric.float.snbt"
       "[-+]?\\d*\\.\\d+(?:[eE][-+]?\\d+)?\\b",
     scopedPattern "constant.numeric.integer.snbt" "[-+]?\\d+[bBsSlL]\\b",
     scopedPattern "constant.numeric.integer.snbt" "[-+]?\\d+\\b"]

def separatorRule : RuleDocument :=
  scopedPattern "punctuation.separator.snbt" ","

def quotedString (scope quote : String) : RuleDocument where
  name := some scope
  opening := some quote
  openingCaptures := some [groupScope "0" "punctuation.definition.string.begin.snbt"]
  closing := some quote
  closingCaptures := some [groupScope "0" "punctuation.definition.string.end.snbt"]
  members := [reference "escape"]

def stringRule : RuleDocument where
  members :=
    [quotedString "string.quoted.double.snbt" "\"",
     quotedString "string.quoted.single.snbt" "'"]

def unquotedRule : RuleDocument :=
  scopedPattern "string.unquoted.snbt" "[A-Za-z0-9._+\\-]+"

/-- Values of all kinds.  A typed array is tried before a list. -/
def valueRule : RuleDocument where
  members :=
    [reference "compound", reference "array", reference "list", reference "string",
     reference "number", reference "boolean", reference "unquoted"]

def grammarDocument : GrammarDocument where
  scopeName := some "source.snbt"
  name := some "SNBT"
  fileTypes := ["snbt"]
  patterns := some [reference "value", reference "invalid"]
  repository :=
    [("array", arrayRule), ("boolean", booleanRule), ("compound", compoundRule),
     ("escape", escapeRule), ("invalid", invalidRule), ("key", keyRule),
     ("list", listRule), ("number", numberRule), ("separator", separatorRule),
     ("string", stringRule), ("unquoted", unquotedRule), ("value", valueRule)]

def grammar (engine : Engine) (strict : Bool) : Except GrammarError Grammar :=
  Scopelight.Grammar.ofDocument engine strict grammarDocument

end Snbt

end Scopelight
