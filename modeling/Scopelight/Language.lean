import Scopelight.Json.Decode
import Scopelight.Json.Parser
import Scopelight.Unicode.LowerCase

/-!
# Languages

What an editor is told about a language: its id, the extensions of its files and its names,
and how brackets, quotes and comments behave while one types.
-/

namespace Scopelight

/-- A language that an editor should know about. -/
structure Language where
  id : String
  /-- File extensions in lower case, without a leading dot. -/
  extensions : List String := []
  aliases : List String := []
  deriving DecidableEq

namespace Language

/-- An extension without leading dots and in lower case. -/
def normalExtension (extension : String) : String :=
  String.ofList (Unicode.lowerText (extension.toList.dropWhile fun c => c == '.'))

/-- Add a file extension, unless it is empty or already there. -/
def addExtension (language : Language) (extension : String) : Language :=
  let normal := normalExtension extension
  if normal.isEmpty || language.extensions.contains normal then language
  else { language with extensions := language.extensions ++ [normal] }

/-- Add a name, unless it is already there. -/
def addAlias (language : Language) (name : String) : Language :=
  if language.aliases.contains name then language
  else { language with aliases := language.aliases ++ [name] }

/-- What follows the last dot of a file name, if there is a dot. -/
def extension? (fileName : List Char) : Option (List Char) :=
  if fileName.contains '.' then
    some (fileName.reverse.takeWhile fun c => c != '.').reverse
  else none

/-- Whether a file name has one of the extensions. -/
def matchesFile (language : Language) (fileName : String) : Bool :=
  match extension? fileName.toList with
  | none => false
  | some extension =>
      language.extensions.contains (String.ofList (Unicode.lowerText extension))

def parse? (source : String) : Option Language := do
  match ← Json.record? [["id"], ["extensions"], ["aliases"]] (← Json.parse? source) with
  | [id, extensions, aliases] =>
      return {
        id := ← id.required? Json.text?
        extensions := ← extensions.orDefault? [] (Json.texts? Json.depthLimit)
        aliases := ← aliases.orDefault? [] (Json.texts? Json.depthLimit)
      }
  | _ => none

end Language

/-- The delimiters of comments. -/
structure CommentRule where
  line : Option String := none
  block : Option (String × String) := none
  deriving DecidableEq

/-- A pair of which the editor types the second part by itself. -/
structure ClosingPair where
  opening : String
  closing : String
  /-- The classes of tokens in which the pair is left alone. -/
  notIn : List String := []
  deriving DecidableEq

/-- How brackets, quotes and comments of a language behave. -/
structure LanguageConfiguration where
  comments : Option CommentRule := none
  brackets : List (String × String) := []
  autoClosingPairs : List ClosingPair := []
  surroundingPairs : List ClosingPair := []
  deriving DecidableEq

namespace CommentRule

def toJson (rule : CommentRule) : Json :=
  .ofFields
    [("lineComment", .ofOption (rule.line.map .string)),
     ("blockComment",
       .ofOption (rule.block.map fun pair => .array [.string pair.1, .string pair.2]))]

def ofJson? : Nat → Json → Option CommentRule
  | 0, _ => none
  | depth + 1, value => do
      match ← Json.record? [["lineComment"], ["blockComment"]] value with
      | [line, block] =>
          return {
            line := ← line.optional? Json.text?
            block := ← block.optional? (Json.textPair? depth)
          }
      | _ => none

end CommentRule

namespace ClosingPair

/-- The JSON form of a pair.  An empty list of classes is left out. -/
def toJson (pair : ClosingPair) : Json :=
  .ofFields <|
    [("open", .string pair.opening), ("close", .string pair.closing)] ++
      if pair.notIn.isEmpty then [] else [("notIn", .ofList .string pair.notIn)]

def ofJson? : Nat → Json → Option ClosingPair
  | 0, _ => none
  | depth + 1, value => do
      match ← Json.record? [["open"], ["close"], ["notIn"]] value with
      | [opening, closing, notIn] =>
          return {
            opening := ← opening.required? Json.text?
            closing := ← closing.required? Json.text?
            notIn := ← notIn.orDefault? [] (Json.texts? depth)
          }
      | _ => none

end ClosingPair

namespace LanguageConfiguration

/-- The JSON form of a configuration.  Missing comments are left out. -/
def toJson (configuration : LanguageConfiguration) : Json :=
  .ofFields <|
    (configuration.comments.map fun rule => ("comments", rule.toJson)).toList ++
      [("brackets",
         .ofList (fun pair => .array [.string pair.1, .string pair.2])
           configuration.brackets),
       ("autoClosingPairs", .ofList ClosingPair.toJson configuration.autoClosingPairs),
       ("surroundingPairs", .ofList ClosingPair.toJson configuration.surroundingPairs)]

def ofJson? : Nat → Json → Option LanguageConfiguration
  | 0, _ => none
  | depth + 1, value => do
      match ← Json.record?
          [["comments"], ["brackets"], ["autoClosingPairs"], ["surroundingPairs"]] value with
      | [comments, brackets, autoClosingPairs, surroundingPairs] =>
          return {
            comments := ← comments.orDefault? none
              (Json.nullable? (CommentRule.ofJson? depth))
            brackets := ← brackets.orDefault? [] (Json.list? Json.textPair? depth)
            autoClosingPairs := ←
              autoClosingPairs.orDefault? [] (Json.list? ClosingPair.ofJson? depth)
            surroundingPairs := ←
              surroundingPairs.orDefault? [] (Json.list? ClosingPair.ofJson? depth)
          }
      | _ => none

def parse? (source : String) : Option LanguageConfiguration := do
  ofJson? Json.depthLimit (← Json.parse? source)

def closingBracket? (configuration : LanguageConfiguration) (opening : String) :
    Option String :=
  (configuration.brackets.find? fun pair => pair.1 == opening).map Prod.snd

end LanguageConfiguration

end Scopelight
