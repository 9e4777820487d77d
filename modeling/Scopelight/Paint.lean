import Scopelight.Metadata
import Scopelight.Text.Bytes
import Scopelight.Text.Columns
import Scopelight.Theme.Palette

/-!
# Painting lines

A line and the words of its tokens become instructions for a terminal: attributes are
switched on, text is written, attributes are reset.  At most so many columns are written.
The instructions are a list of their own here; their escape sequences come last.
-/

namespace Scopelight

/-- An instruction for a terminal. -/
inductive Ink where
  | foreground (color : Color)
  | italic
  | bold
  | underline
  | strikethrough
  | text (content : List Char)
  | reset
  deriving DecidableEq

namespace Ink

/-- An escape sequence that changes the attributes of the text after it. -/
def attributeCode (parameters : String) : String :=
  "\x1b[" ++ parameters ++ "m"

def render : Ink → String
  | .foreground color =>
      attributeCode <|
        "38;2;" ++ toString color.red.toNat ++ ";" ++ toString color.green.toNat ++ ";" ++
          toString color.blue.toNat
  | .italic => attributeCode "3"
  | .bold => attributeCode "1"
  | .underline => attributeCode "4"
  | .strikethrough => attributeCode "9"
  | .text content => String.ofList content
  | .reset => attributeCode "0"

def shown : Ink → List Char
  | .text content => content
  | _ => []

end Ink

/-- A painted line: the instructions, and the columns of the text they show. -/
structure Painting where
  inks : List Ink
  columns : Nat
  deriving DecidableEq

namespace Painting

def render (painting : Painting) : String :=
  String.join (painting.inks.map Ink.render)

/-- The text that is left when the escape sequences are taken away. -/
def shown (painting : Painting) : List Char :=
  painting.inks.flatMap Ink.shown

/-- The instructions that switch on what the word of a token says. -/
def attributeInks (palette : Palette) (metadata : Metadata) : List Ink :=
  let font := metadata.font
  ((palette.get? metadata.foreground).map Ink.foreground).toList ++
    (if font.italic then [.italic] else []) ++
    (if font.bold then [.bold] else []) ++
    (if font.underline then [.underline] else []) ++
    (if font.strikethrough then [.strikethrough] else [])

/-- The offsets between which the text for two offsets lies.  They are moved towards each
other until they stand between characters, and never past each other. -/
def bounds (line : List Char) (start stop : Nat) : Nat × Nat :=
  let first := Text.boundaryFrom start line
  (first, max first (Text.boundaryUpTo stop line))

/-- The text of a token that starts at an offset, given the words after it. -/
def tokenText (line : List Char) (start : Nat) (following : List UInt32) : List Char :=
  let stop :=
    match following with
    | [] => Text.byteLength line
    | next :: _ => next.toNat
  let (first, last) := bounds line start stop
  Text.slice first last line

/-- The instructions for pairs of start and metadata, with so many columns written before
them, and the columns written after them.  A last word without a partner only ends the
token before it. -/
def paintPairs (line : List Char) (palette : Palette) (limit : Nat) :
    Nat → List UInt32 → Painting
  | written, start :: word :: following =>
      if limit ≤ written then ⟨[], written⟩
      else
        let text := tokenText line start.toNat following
        if text.isEmpty then paintPairs line palette limit written following
        else
          let fitting := Text.fitColumns (limit - written) text
          let later :=
            paintPairs line palette limit (written + Text.columns fitting) following
          ⟨attributeInks palette ⟨word⟩ ++ [.text fitting, .reset] ++ later.inks,
            later.columns⟩
  | written, _ => ⟨[], written⟩

/-- A line with the words of its tokens, painted in at most so many columns.  Without a
pair of words the line is plain text. -/
def ofLine (line : List Char) (encoded : List UInt32) (palette : Palette) (limit : Nat) :
    Painting :=
  match encoded with
  | _ :: _ :: _ => paintPairs line palette limit 0 encoded
  | _ =>
      let fitting := Text.fitColumns limit line
      ⟨[.text fitting], Text.columns fitting⟩

end Painting

end Scopelight
