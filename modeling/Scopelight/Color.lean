import Scopelight.Text.Hex

/-!
# Colors

Colors with eight bits per channel.  Their texts start with `#` and have one or two
hexadecimal digits per channel; a fourth channel, the opacity, is read and passed over.
-/

namespace Scopelight

/-- A color. -/
structure Color where
  red : UInt8
  green : UInt8
  blue : UInt8
  deriving DecidableEq

namespace Color

def black : Color :=
  ⟨0, 0, 0⟩

def channel (high low : Nat) : UInt8 :=
  UInt8.ofNat (16 * high + low)

/-- The color that the values of the digits after `#` give. -/
def ofDigits? : List Nat → Option Color
  | [r, g, b] | [r, g, b, _] => some ⟨channel r r, channel g g, channel b b⟩
  | [r, r', g, g', b, b'] | [r, r', g, g', b, b', _, _] =>
      some ⟨channel r r', channel g g', channel b b'⟩
  | _ => none

/-- The color that a text writes: `#RGB`, `#RGBA`, `#RRGGBB` or `#RRGGBBAA`. -/
def parse? (text : String) : Option Color :=
  match text.toList with
  | '#' :: digits => do ofDigits? (← digits.mapM Text.hexValue?)
  | _ => none

def channelDigits (value : UInt8) : List Char :=
  [Text.hexDigit (value.toNat / 16), Text.hexDigit (value.toNat % 16)]

/-- The text `#RRGGBB` of a color, with upper-case digits. -/
def toHex (color : Color) : String :=
  String.ofList <|
    '#' :: (channelDigits color.red ++ channelDigits color.green ++ channelDigits color.blue)

end Color

end Scopelight
