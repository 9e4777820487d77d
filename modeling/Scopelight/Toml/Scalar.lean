import Scopelight.Text.Hex

/-!
# TOML strings, numbers and dates

Readers for the smallest parts of a TOML text.  Each takes a text and gives what it read
with the text after it.
-/

namespace Scopelight

namespace Toml

/-- Whether a character may stand in comments and strings: anything but control
characters, of which the tab is allowed. -/
def isPlain (c : Char) : Bool :=
  c == '\t' || (decide (0x20 ≤ c.toNat) && c.toNat != 0x7F)

def isSpace (c : Char) : Bool :=
  c == ' ' || c == '\t'

def dropSpace (text : List Char) : List Char :=
  text.dropWhile isSpace

def lineEnd? : List Char → Option (List Char)
  | '\n' :: rest => some rest
  | '\r' :: '\n' :: rest => some rest
  | _ => none

def dropComment : List Char → List Char
  | '#' :: rest => rest.dropWhile isPlain
  | text => text

/-- The character that an escape stands for, after its backslash. -/
def readEscape : List Char → Option (Char × List Char)
  | 'b' :: rest => some (Char.ofNat 0x08, rest)
  | 't' :: rest => some ('\t', rest)
  | 'n' :: rest => some ('\n', rest)
  | 'f' :: rest => some (Char.ofNat 0x0C, rest)
  | 'r' :: rest => some ('\r', rest)
  | '"' :: rest => some ('"', rest)
  | '\\' :: rest => some ('\\', rest)
  | 'u' :: rest => scalar 4 rest
  | 'U' :: rest => scalar 8 rest
  | _ => none
where
  /-- The character whose code point is written with so many digits. -/
  scalar (count : Nat) (text : List Char) : Option (Char × List Char) := do
    let digits := text.take count
    if digits.length < count then none
    else
      let values ← digits.mapM Text.hexValue?
      let code := values.foldl (fun total value => total * 16 + value) 0
      if code.isValidChar then some (Char.ofNat code, text.drop count) else none

/-- A text between double quotes, after the opening quote.  The fuel bounds the number of
characters. -/
def readBasic : Nat → List Char → Option (List Char × List Char)
  | 0, _ => none
  | fuel + 1, text =>
      match text with
      | [] => none
      | '"' :: rest => some ([], rest)
      | '\\' :: rest => do
          let (c, rest) ← readEscape rest
          let (value, rest) ← readBasic fuel rest
          return (c :: value, rest)
      | c :: rest => do
          if isPlain c then
            let (value, rest) ← readBasic fuel rest
            return (c :: value, rest)
          else none

/-- A text between single quotes, after the opening quote. -/
def readLiteral (text : List Char) : Option (List Char × List Char) :=
  let value := text.takeWhile fun c => isPlain c && c != '\''
  match text.drop value.length with
  | '\'' :: rest => some (value, rest)
  | _ => none

/-- The end of a text over several lines: three quotes, before which up to two more belong
to the text.  It gives the number of those. -/
def closing? (quote : Char) (text : List Char) : Option (Nat × List Char) :=
  let count := (text.takeWhile fun c => c == quote).length
  if count < 3 then none else some (min (count - 3) 2, text.drop (min count 5))

/-- A text without the white space and line ends it starts with.  The fuel bounds their
number. -/
def dropBlank : Nat → List Char → List Char
  | 0, text => text
  | fuel + 1, text =>
      match text with
      | [] => []
      | c :: rest =>
          if isSpace c then dropBlank fuel rest
          else
            match lineEnd? text with
            | some rest => dropBlank fuel rest
            | none => text

/-- A text over several lines, after the opening quotes.  With escapes, a backslash at the
end of a line joins it with the next text.  The fuel bounds the number of characters. -/
def readLines (quote : Char) (escapes : Bool) :
    Nat → List Char → Option (List Char × List Char)
  | 0, _ => none
  | fuel + 1, text =>
      let more (c : Char) (rest : List Char) : Option (List Char × List Char) :=
        (readLines quote escapes fuel rest).map fun (value, left) => (c :: value, left)
      match closing? quote text with
      | some (extra, rest) => some (List.replicate extra quote, rest)
      | none =>
          match lineEnd? text with
          | some rest => more '\n' rest
          | none =>
              match text with
              | [] => none
              | c :: rest =>
                  if c = '\\' ∧ escapes then
                    match lineEnd? (dropSpace rest) with
                    | some after => readLines quote escapes fuel (dropBlank fuel after)
                    | none => do
                        let (c, rest) ← readEscape rest
                        more c rest
                  else if isPlain c then more c rest
                  else none

def readString : List Char → Option (String × List Char)
  | '"' :: '"' :: '"' :: rest => lines '"' true rest
  | '\'' :: '\'' :: '\'' :: rest => lines '\'' false rest
  | '"' :: rest =>
      (readBasic (rest.length + 1) rest).map fun (value, left) =>
        (String.ofList value, left)
  | '\'' :: rest =>
      (readLiteral rest).map fun (value, left) => (String.ofList value, left)
  | _ => none
where
  /-- A line end right after the opening quotes does not count. -/
  lines (quote : Char) (escapes : Bool) (text : List Char) : Option (String × List Char) :=
    let body := (lineEnd? text).getD text
    (readLines quote escapes (body.length + 1) body).map fun (value, left) =>
      (String.ofList value, left)

def digitValue? (base : Nat) (c : Char) : Option Nat :=
  match Text.hexValue? c with
  | some value => if value < base then some value else none
  | none => none

/-- The digits after a first one; an underscore may stand between two digits. -/
def readMoreDigits (base : Nat) : List Char → List Nat × List Char
  | [] => ([], [])
  | c :: rest =>
      match digitValue? base c with
      | some value =>
          let (values, left) := readMoreDigits base rest
          (value :: values, left)
      | none =>
          if c = '_' then
            match rest with
            | [] => ([], c :: rest)
            | d :: rest' =>
                match digitValue? base d with
                | some value =>
                    let (values, left) := readMoreDigits base rest'
                    (value :: values, left)
                | none => ([], c :: d :: rest')
          else ([], c :: rest)

/-- One or more digits. -/
def readDigits (base : Nat) : List Char → Option (List Nat × List Char)
  | [] => none
  | c :: rest => do
      let value ← digitValue? base c
      let (values, left) := readMoreDigits base rest
      return (value :: values, left)

/-- The digits of a whole number; a leading zero stands alone. -/
def readWhole : List Char → Option (List Nat × List Char)
  | '0' :: rest => some ([0], rest)
  | text => readDigits 10 text

def ofDigits (base : Nat) (digits : List Nat) : Nat :=
  digits.foldl (fun total digit => total * base + digit) 0

def readSign : List Char → Bool × List Char
  | '-' :: rest => (true, rest)
  | '+' :: rest => (false, rest)
  | text => (false, text)

/-- Whether a decimal number, given by its digits and the power of ten of the last one, is
so great that it rounds to infinity in double precision. -/
def isInfinite (digits : List Nat) (exponent : Int) : Bool :=
  let value := ofDigits 10 digits
  let length : Int := ((digits.dropWhile fun digit => digit == 0).length : Nat)
  let bound := Nat.pow 2 1024 - Nat.pow 2 970
  if value = 0 || length + exponent < 300 then false
  else if 320 < length + exponent then true
  else if 0 ≤ exponent then decide (bound ≤ value * Nat.pow 10 exponent.toNat)
  else decide (bound * Nat.pow 10 (-exponent).toNat ≤ value)

/-- Integers lie below this, and not below its negative. -/
def integerBound : Nat := 0x8000000000000000

/-- A number, which is an integer of 64 bits if the result holds one. -/
def readNumber (text : List Char) : Option (Option Int × List Char) :=
  match text with
  | '0' :: 'x' :: rest => based 16 rest
  | '0' :: 'o' :: rest => based 8 rest
  | '0' :: 'b' :: rest => based 2 rest
  | _ =>
      let (negative, unsigned) := readSign text
      match unsigned with
      | 'i' :: 'n' :: 'f' :: rest => some (none, rest)
      | 'n' :: 'a' :: 'n' :: rest => some (none, rest)
      | _ => decimal negative unsigned
where
  /-- An integer in a base other than ten, after its mark. -/
  based (base : Nat) (text : List Char) : Option (Option Int × List Char) := do
    let (digits, rest) ← readDigits base text
    let value := ofDigits base digits
    if value < integerBound then some (some value, rest) else none
  fraction : List Char → Option (Option (List Nat) × List Char)
    | '.' :: rest => (readDigits 10 rest).map fun (digits, left) => (some digits, left)
    | text => some (none, text)
  exponent : List Char → Option (Option Int × List Char)
    | [] => some (none, [])
    | c :: rest =>
        if c = 'e' || c = 'E' then do
          let (negative, rest) := readSign rest
          let (digits, left) ← readDigits 10 rest
          let value : Int := ofDigits 10 digits
          some (some (if negative then -value else value), left)
        else some (none, c :: rest)
  decimal (negative : Bool) (text : List Char) : Option (Option Int × List Char) := do
    let (whole, rest) ← readWhole text
    let (fraction, rest) ← fraction rest
    let (exponent, rest) ← exponent rest
    if fraction.isNone && exponent.isNone then
      let value : Int := ofDigits 10 whole
      let signed := if negative then -value else value
      if -(integerBound : Int) ≤ signed ∧ signed < (integerBound : Int) then
        some (some signed, rest)
      else none
    else
      let after := fraction.getD []
      if !negative && isInfinite (whole ++ after) (exponent.getD 0 - (after.length : Nat))
      then none
      else some (none, rest)

/-- A number of so many digits that lies between two bounds. -/
def readFixed (count least greatest : Nat) (text : List Char) : Option (Nat × List Char) := do
  let digits ← (text.take count).mapM (digitValue? 10)
  let value := ofDigits 10 digits
  if digits.length = count ∧ least ≤ value ∧ value ≤ greatest then
    some (value, text.drop count)
  else none

/-- The text after a character that has to stand there. -/
def expect? (c : Char) : List Char → Option (List Char)
  | [] => none
  | d :: rest => if c = d then some rest else none

def daysIn (year month : Nat) : Nat :=
  if month = 2 then
    if year % 4 = 0 ∧ (year % 100 ≠ 0 ∨ year % 400 = 0) then 29 else 28
  else if month = 4 ∨ month = 6 ∨ month = 9 ∨ month = 11 then 30
  else 31

/-- The text after a date such as `1979-05-27`. -/
def afterDate? (text : List Char) : Option (List Char) := do
  let (year, rest) ← readFixed 4 0 9999 text
  let (month, rest) ← readFixed 2 1 12 (← expect? '-' rest)
  let (_, rest) ← readFixed 2 1 (daysIn year month) (← expect? '-' rest)
  return rest

/-- The text after a time of day such as `07:32:00.5`. -/
def afterTime? (text : List Char) : Option (List Char) := do
  let (_, rest) ← readFixed 2 0 23 text
  let (_, rest) ← readFixed 2 0 59 (← expect? ':' rest)
  let (_, rest) ← readFixed 2 0 60 (← expect? ':' rest)
  match rest with
  | '.' :: fraction =>
      let digits := fraction.takeWhile Char.isDigit
      if digits.isEmpty then none else some (fraction.drop digits.length)
  | _ => some rest

/-- The text after the distance from universal time that may follow a time of day. -/
def afterOffset? : List Char → Option (List Char)
  | [] => some []
  | c :: rest =>
      if c = 'Z' || c = 'z' then some rest
      else if c = '+' || c = '-' then do
        let (_, rest) ← readFixed 2 0 23 rest
        let (_, rest) ← readFixed 2 0 59 (← expect? ':' rest)
        return rest
      else some (c :: rest)

/-- The text after a date, a time of day, or both. -/
def afterMoment? (text : List Char) : Option (List Char) :=
  match afterDate? text with
  | none => afterTime? text
  | some rest =>
      match rest with
      | delimiter :: time =>
          if delimiter = 'T' || delimiter = 't' || delimiter = ' ' then
            match afterTime? time with
            | none => some rest
            | some rest => afterOffset? rest
          else some rest
      | [] => some rest

end Toml

end Scopelight
