import Scopelight.Scope
import Scopelight.Style

/-!
# Token metadata

Everything an editor needs to know about a token, packed into one word of 32 bits.  From
the lowest bit on, the word holds the language in 8 bits, the token class in 2, whether
brackets are matched in 1, the font attributes in 4, the foreground in 9 and the background
in 8.  Larger color indices are cut off.
-/

namespace Scopelight

/-- The packed metadata of a token. -/
structure Metadata where
  word : UInt32
  deriving DecidableEq

namespace Metadata

def encode (language : UInt8) (kind : TokenClass) (balanced : Bool) (style : Style) :
    Metadata where
  word := UInt32.ofNat <|
    language.toNat + 0x100 * kind.code + 0x400 * balanced.toNat +
      0x800 * style.font.bits + 0x8000 * (style.foreground % 0x200) +
      0x1000000 * (style.background % 0x100)

def language (metadata : Metadata) : UInt8 :=
  UInt8.ofNat metadata.word.toNat

def kind (metadata : Metadata) : TokenClass :=
  .ofCode (metadata.word.toNat / 0x100)

/-- Whether the brackets of the token are matched. -/
def balanced (metadata : Metadata) : Bool :=
  metadata.word.toNat.testBit 10

def font (metadata : Metadata) : FontStyle :=
  .ofBits (metadata.word.toNat / 0x800)

def foreground (metadata : Metadata) : Nat :=
  metadata.word.toNat / 0x8000 % 0x200

def background (metadata : Metadata) : Nat :=
  metadata.word.toNat / 0x1000000

def style (metadata : Metadata) : Style where
  foreground := metadata.foreground
  background := metadata.background
  font := metadata.font

end Metadata

end Scopelight
