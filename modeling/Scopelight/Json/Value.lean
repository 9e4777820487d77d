/-!
# JSON values

Values as a text writes them: the fields of an object keep their order and their
repetitions.  Numbers are told apart only as far as the documents of this library need it:
integers that fit 64 bits, and all others.
-/

namespace Scopelight

/-- A JSON value. -/
inductive Json where
  | null
  | bool (value : Bool)
  /-- An integer from `-2^63` to `2^64 - 1`, the negative zero excepted. -/
  | integer (value : Int)
  | float
  | string (value : String)
  /-- A string that names half of a surrogate pair, and so is no text. -/
  | brokenString
  | array (items : List Json)
  /-- Fields in the order they are written.  A key that is no text is left out. -/
  | object (fields : List (Option String × Json))

namespace Json

def ofFields (fields : List (String × Json)) : Json :=
  .object (fields.map fun (key, value) => (some key, value))

def ofNat (value : Nat) : Json :=
  .integer value

/-- A value, or null where there is none. -/
def ofOption : Option Json → Json
  | none => .null
  | some value => value

def ofList {Item : Type} (encode : Item → Json) (items : List Item) : Json :=
  .array (items.map encode)

end Json

end Scopelight
