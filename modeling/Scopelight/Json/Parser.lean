import Scopelight.Json.Value
import Scopelight.Text.Hex

/-!
# Reading JSON

The notation of JSON without extensions: no comments, no trailing commas, no leading zeros
and no raw control characters in strings.  Nesting is not limited here; the readers of
documents limit it for the parts that they use.
-/

namespace Scopelight

namespace Json

/-- A text without the white space it starts with. -/
def dropBlank (text : List Char) : List Char :=
  text.dropWhile fun c => c == ' ' || c == '\n' || c == '\t' || c == '\r'

/-- The code unit of an escape written with four digits. -/
def unit? (a b c d : Char) : Option Nat := do
  let values ← [a, b, c, d].mapM Text.hexValue?
  return values.foldl (fun total value => total * 16 + value) 0

/-- What the character after a backslash stands for, the `u` excepted. -/
def simpleEscape? (c : Char) : Option Char :=
  match c with
  | '"' => some '"'
  | '\\' => some '\\'
  | '/' => some '/'
  | 'b' => some (Char.ofNat 0x08)
  | 'f' => some (Char.ofNat 0x0C)
  | 'n' => some '\n'
  | 'r' => some '\r'
  | 't' => some '\t'
  | _ => none

/-- A string after its opening quote.  Its characters are `none` if it names half of a
surrogate pair.  The fuel bounds the number of characters. -/
def readString : Nat → List Char → Option (Option (List Char) × List Char)
  | 0, _ => none
  | _ + 1, [] => none
  | fuel + 1, c :: rest =>
      let more (value : Option Char) (rest : List Char) :
          Option (Option (List Char) × List Char) :=
        (readString fuel rest).map fun (tail, left) =>
          ((value.bind fun c => tail.map (c :: ·)), left)
      if c = '"' then some (some [], rest)
      else if c = '\\' then
        match rest with
        | 'u' :: h1 :: h2 :: h3 :: h4 :: rest =>
            match unit? h1 h2 h3 h4 with
            | none => none
            | some unit =>
                if 0xD800 ≤ unit ∧ unit < 0xDC00 then
                  match rest with
                  | '\\' :: 'u' :: l1 :: l2 :: l3 :: l4 :: after =>
                      match unit? l1 l2 l3 l4 with
                      | none => none
                      | some low =>
                          if 0xDC00 ≤ low ∧ low < 0xE000 then
                            more
                              (some (Char.ofNat
                                ((unit - 0xD800) * 0x400 + (low - 0xDC00) + 0x10000)))
                              after
                          else more none rest
                  | _ => more none rest
                else if 0xDC00 ≤ unit ∧ unit < 0xE000 then more none rest
                else more (some (Char.ofNat unit)) rest
        | e :: rest =>
            match simpleEscape? e with
            | none => none
            | some value => more (some value) rest
        | [] => none
      else if c.toNat < 0x20 then none
      else more (some c) rest

/-- A string value or key after its opening quote. -/
def readText (text : List Char) : Option (Option String × List Char) :=
  (readString (text.length + 1) text).map fun (value, left) => (value.map String.ofList, left)

/-- A number: its sign, its digits before the point, whether it has a fraction or an
exponent, and the text after it. -/
def readNumber (text : List Char) : Option (Json × List Char) :=
  let (negative, digits) :=
    match text with
    | '-' :: rest => (true, rest)
    | _ => (false, text)
  let whole := digits.takeWhile Char.isDigit
  let afterWhole := digits.dropWhile Char.isDigit
  let wholeValid :=
    match whole with
    | [] => false
    | [_] => true
    | first :: _ => first != '0'
  if !wholeValid then none
  else
    let afterFraction? : Option (Bool × List Char) :=
      match afterWhole with
      | '.' :: rest =>
          if (rest.takeWhile Char.isDigit).isEmpty then none
          else some (true, rest.dropWhile Char.isDigit)
      | _ => some (false, afterWhole)
    match afterFraction? with
    | none => none
    | some (fraction, afterFraction) =>
        let afterExponent? : Option (Bool × List Char) :=
          match afterFraction with
          | e :: rest =>
              if e = 'e' || e = 'E' then
                let digits :=
                  match rest with
                  | sign :: more => if sign = '+' || sign = '-' then more else rest
                  | [] => []
                if (digits.takeWhile Char.isDigit).isEmpty then none
                else some (true, digits.dropWhile Char.isDigit)
              else some (false, afterFraction)
          | [] => some (false, [])
        match afterExponent? with
        | none => none
        | some (exponent, left) =>
            let magnitude : Nat :=
              whole.foldl (fun total c => total * 10 + (c.toNat - 0x30)) 0
            let value : Json :=
              if fraction || exponent then .float
              else if negative then
                if magnitude = 0 || 0x8000000000000000 < magnitude then .float
                else .integer (-(magnitude : Int))
              else if magnitude < 0x10000000000000000 then .integer magnitude
              else .float
            some (value, left)

mutual

def readValue : Nat → List Char → Option (Json × List Char)
  | 0, _ => none
  | fuel + 1, text =>
      match dropBlank text with
      | [] => none
      | '"' :: rest =>
          (readText rest).map fun (value, left) =>
            ((match value with
              | some value => .string value
              | none => .brokenString), left)
      | '[' :: rest =>
          match dropBlank rest with
          | ']' :: left => some (.array [], left)
          | _ => (readItems fuel rest).map fun (items, left) => (.array items, left)
      | '{' :: rest =>
          match dropBlank rest with
          | '}' :: left => some (.object [], left)
          | _ => (readFields fuel rest).map fun (fields, left) => (.object fields, left)
      | 't' :: 'r' :: 'u' :: 'e' :: left => some (.bool true, left)
      | 'f' :: 'a' :: 'l' :: 's' :: 'e' :: left => some (.bool false, left)
      | 'n' :: 'u' :: 'l' :: 'l' :: left => some (.null, left)
      | rest => readNumber rest

/-- The items of an array up to its closing bracket. -/
def readItems : Nat → List Char → Option (List Json × List Char)
  | 0, _ => none
  | fuel + 1, text =>
      match readValue fuel text with
      | none => none
      | some (item, rest) =>
          match dropBlank rest with
          | ',' :: rest =>
              (readItems fuel rest).map fun (items, left) => (item :: items, left)
          | ']' :: left => some ([item], left)
          | _ => none

/-- The fields of an object up to its closing brace. -/
def readFields : Nat → List Char → Option (List (Option String × Json) × List Char)
  | 0, _ => none
  | fuel + 1, text =>
      match dropBlank text with
      | '"' :: rest =>
          match readText rest with
          | none => none
          | some (key, rest) =>
              match dropBlank rest with
              | ':' :: rest =>
                  match readValue fuel rest with
                  | none => none
                  | some (value, rest) =>
                      match dropBlank rest with
                      | ',' :: rest =>
                          (readFields fuel rest).map fun (fields, left) =>
                            ((key, value) :: fields, left)
                      | '}' :: left => some ([(key, value)], left)
                      | _ => none
              | _ => none
      | _ => none

end

/-- The value that a text writes, with nothing but white space around it. -/
def parse? (text : String) : Option Json :=
  let chars := text.toList
  match readValue (chars.length + 1) chars with
  | none => none
  | some (value, left) => if (dropBlank left).isEmpty then some value else none

end Json

end Scopelight
