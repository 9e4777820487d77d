/-!
# Escaped values

A text between double quotes writes backslashes, double quotes and line ends with a
backslash before them.  Reading undoes exactly these pairs and leaves any other backslash
as it is.
-/

namespace Scopelight

namespace Text

def escapeChar (c : Char) : List Char :=
  if c = '\\' then ['\\', '\\']
  else if c = '"' then ['\\', '"']
  else if c = '\n' then ['\\', 'n']
  else [c]

def escape (text : List Char) : List Char :=
  text.flatMap escapeChar

/-- What a backslash and the character after it stand for, if they form an escape. -/
def escaped? (c : Char) : Option Char :=
  if c = '\\' then some '\\'
  else if c = 'n' then some '\n'
  else if c = '"' then some '"'
  else none

/-- A text with its escapes replaced by the characters they stand for. -/
def unescape : List Char → List Char
  | [] => []
  | [c] => [c]
  | c :: d :: rest =>
      if c = '\\' then
        match escaped? d with
        | some meant => meant :: unescape rest
        | none => c :: unescape (d :: rest)
      else c :: unescape (d :: rest)

end Text

end Scopelight
