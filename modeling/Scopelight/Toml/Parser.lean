import Scopelight.Toml.Scalar
import Scopelight.Toml.Value

/-!
# Reading TOML

A document is a list of lines, each of which is blank, sets a value under a key, or starts
a table with a header.  Values may stretch over several lines; arrays and tables in braces
nest only so deep.
-/

namespace Scopelight

namespace Toml

/-- Arrays and tables in braces nest less deep than this, and keys have fewer names. -/
def nestingLimit : Nat := 80

/-- Whether a character may stand in a key without quotes. -/
def isKeyChar (c : Char) : Bool :=
  c.isAlphanum || c == '-' || c == '_'

def readName : List Char → Option (String × List Char)
  | '"' :: rest =>
      (readBasic (rest.length + 1) rest).map fun (name, left) => (String.ofList name, left)
  | '\'' :: rest => (readLiteral rest).map fun (name, left) => (String.ofList name, left)
  | text =>
      let name := text.takeWhile isKeyChar
      if name.isEmpty then none else some (String.ofList name, text.drop name.length)

/-- The names of a dotted key.  The fuel bounds their number. -/
def readNames : Nat → List Char → Option (List String × List Char)
  | 0, _ => none
  | fuel + 1, text => do
      let (name, rest) ← readName (dropSpace text)
      match dropSpace rest with
      | '.' :: rest =>
          let (names, left) ← readNames fuel rest
          return (name :: names, left)
      | left => return ([name], left)

/-- A key: the names before the last, and the last. -/
def readKey (text : List Char) : Option ((List String × String) × List Char) := do
  let (names, rest) ← readNames (nestingLimit - 1) text
  match names.reverse with
  | [] => none
  | last :: path => some ((path.reverse, last), rest)

/-- A text without white space, line ends and comments before the first other character.
A comment has to end with its line.  The fuel bounds the number of lines. -/
def dropFiller : Nat → List Char → Option (List Char)
  | 0, text => some text
  | fuel + 1, text =>
      match dropSpace text with
      | '#' :: rest => do dropFiller fuel (← lineEnd? (rest.dropWhile isPlain))
      | text =>
          match lineEnd? text with
          | some rest => dropFiller fuel rest
          | none => some text

/-- The items of an array, after its opening bracket. -/
def readItems (read : List Char → Option (Toml × List Char)) :
    Nat → List Char → Option (List Toml × List Char)
  | 0, _ => none
  | fuel + 1, text => do
      match ← dropFiller (text.length + 1) text with
      | ']' :: left => return ([], left)
      | text =>
          let (item, rest) ← read text
          match ← dropFiller (rest.length + 1) rest with
          | ',' :: rest =>
              let (items, left) ← readItems read fuel rest
              return (item :: items, left)
          | ']' :: left => return ([item], left)
          | _ => none

/-- The entries of a table in braces, of which at least one must follow.  The entries so
far are given. -/
def readEntries (read : List Char → Option (Toml × List Char)) :
    Nat → TomlFields → List Char → Option (TomlFields × List Char)
  | 0, _, _ => none
  | fuel + 1, fields, text => do
      let ((path, key), rest) ← readKey text
      let (value, rest) ← read (dropSpace (← expect? '=' rest))
      let fields ← addField path key value fields
      match dropSpace rest with
      | ',' :: rest => readEntries read fuel fields rest
      | '}' :: left => return (fields, left)
      | _ => none

def readValue : Nat → List Char → Option (Toml × List Char)
  | depth, '[' :: rest =>
      match depth with
      | 0 => none
      | below + 1 =>
          (readItems (readValue below) (rest.length + 1) rest).map fun (items, left) =>
            (.array items, left)
  | depth, '{' :: rest =>
      match depth with
      | 0 => none
      | below + 1 =>
          match dropSpace rest with
          | '}' :: left => some (.table .inline [], left)
          | text =>
              (readEntries (readValue below) (text.length + 1) [] text).map
                fun (fields, left) => (.table .inline fields, left)
  | _, 't' :: 'r' :: 'u' :: 'e' :: left => some (.boolean true, left)
  | _, 'f' :: 'a' :: 'l' :: 's' :: 'e' :: left => some (.boolean false, left)
  | _, text =>
      match readString text with
      | some (value, left) => some (.string value, left)
      | none =>
          match afterMoment? text with
          | some left => some (.moment, left)
          | none =>
              (readNumber text).map fun (value, left) =>
                ((match value with
                  | some value => .integer value
                  | none => .float), left)

/-- A document as far as it has been read: all tables, and the header that the next lines
belong to. -/
structure Document where
  fields : TomlFields
  header : List String

namespace Document

def empty : Document :=
  ⟨[], []⟩

def set? (document : Document) (path : List String) (key : String) (value : Toml) :
    Option Document := do
  let fields ← alterTable (addField path key value) document.header document.fields
  return { document with fields }

/-- Start a table, or one more table of an array. -/
def start? (document : Document) (repeated : Bool) (path : List String) (key : String) :
    Option Document := do
  let change := if repeated then openTables key else openTable key
  return ⟨← alterTable change path document.fields, path ++ [key]⟩

end Document

/-- The text after the rest of a line that holds nothing but a comment. -/
def afterLine? (text : List Char) : Option (List Char) :=
  match dropComment (dropSpace text) with
  | [] => some []
  | rest => lineEnd? rest

def readLine (document : Document) (text : List Char) : Option (Document × List Char) := do
  match text with
  | '[' :: '[' :: rest =>
      let ((path, key), rest) ← readKey rest
      let rest ← afterLine? (← expect? ']' (← expect? ']' rest))
      return (← document.start? true path key, rest)
  | '[' :: rest =>
      let ((path, key), rest) ← readKey rest
      let rest ← afterLine? (← expect? ']' rest)
      return (← document.start? false path key, rest)
  | _ =>
      let ((path, key), rest) ← readKey text
      let (value, rest) ← readValue (nestingLimit - 1) (dropSpace (← expect? '=' rest))
      let rest ← afterLine? rest
      return (← document.set? path key value, rest)

/-- Read the lines of a text.  The fuel bounds their number. -/
def readDocument : Nat → Document → List Char → Option Document
  | 0, _, _ => none
  | fuel + 1, document, text =>
      match dropSpace text with
      | [] => some document
      | '#' :: rest => do readDocument fuel document (← afterLine? ('#' :: rest))
      | text =>
          match lineEnd? text with
          | some rest => readDocument fuel document rest
          | none => do
              let (document, rest) ← readLine document text
              readDocument fuel document rest

/-- The fields of the document that a text writes.  A byte-order mark before it does not
count. -/
def parse? (source : String) : Option TomlFields :=
  let text :=
    match source.toList with
    | c :: rest => if c.toNat = 0xFEFF then rest else c :: rest
    | [] => []
  (readDocument (text.length + 1) .empty text).map Document.fields

end Toml

end Scopelight
