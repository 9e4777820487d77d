import Scopelight.Json.Value

/-!
# Reading records out of JSON

Documents are read strictly by the shape they should have.  A record is an object whose
unknown fields are passed over and whose known fields stand at most once, or an array of
its fields in order.  Nesting is limited for the parts that are read; the parts that are
passed over may nest as they like.  A reader takes the number of levels that are left.
-/

namespace Scopelight

namespace Json

/-- The number of levels that a document may nest. -/
def depthLimit : Nat := 127

/-- A field of a record before it is read. -/
inductive Slot where
  | present (value : Json)
  | missing
  | cut

def text? : Json → Option String
  | .string value => some value
  | _ => none

def bool? : Json → Option Bool
  | .bool value => some value
  | _ => none

/-- A natural number below `2^64`. -/
def natural? : Json → Option Nat
  | .integer value => if 0 ≤ value then some value.toNat else none
  | _ => none

/-- A value or null. -/
def nullable? {Value : Type} (read : Json → Option Value) : Json → Option (Option Value)
  | .null => some none
  | value => (read value).map some

def list? {Item : Type} (read : Nat → Json → Option Item) :
    Nat → Json → Option (List Item)
  | depth + 1, .array items => items.mapM (read depth)
  | _, _ => none

theorem nullable?_of_ne_null {Value : Type} {read : Json → Option Value} {value : Json}
    (noNull : value ≠ .null) : nullable? read value = (read value).map some := by
  cases value with
  | null => exact absurd rfl noNull
  | _ => rfl

/-- A value that may be missing is read back if it is where it is there. -/
theorem nullable?_ofOption {Item : Type} {read : Json → Option Item} {encode : Item → Json}
    {item? : Option Item}
    (reads : ∀ item ∈ item?, encode item ≠ .null ∧ read (encode item) = some item) :
    nullable? read (ofOption (item?.map encode)) = some item? := by
  cases item? with
  | none => rfl
  | some item =>
      obtain ⟨noNull, readEq⟩ := reads item rfl
      exact (nullable?_of_ne_null noNull).trans (congrArg (Option.map some) readEq)

/-- A list is read item by item. -/
theorem list?_ofList {Item Value : Type} {read : Nat → Json → Option Value}
    {encode : Item → Json} {decode : Item → Value} {depth : Nat} {items : List Item}
    (reads : ∀ item ∈ items, read depth (encode item) = some (decode item)) :
    list? read (depth + 1) (ofList encode items) = some (items.map decode) := by
  change (items.map encode).mapM (read depth) = _
  induction items with
  | nil => rfl
  | cons item items ih =>
      rw [List.map_cons, List.mapM_cons, reads item List.mem_cons_self,
        ih fun other member => reads other (List.mem_cons_of_mem _ member)]
      rfl

def texts? : Nat → Json → Option (List String) :=
  list? fun _ => text?

def textPair? (depth : Nat) (value : Json) : Option (String × String) :=
  match texts? depth value with
  | some [first, second] => some (first, second)
  | _ => none

/-- Store a value under a name in an ascending map, over an earlier value if there is
one. -/
def putEntry {Value : Type} (key : String) (value : Value) :
    List (String × Value) → List (String × Value)
  | [] => [(key, value)]
  | (name, other) :: rest =>
      if key = name then (key, value) :: rest
      else if key < name then (key, value) :: (name, other) :: rest
      else (name, other) :: putEntry key value rest

/-- The fields of an object as a map in ascending order of its keys; of several fields with
one key the last counts. -/
def map? {Value : Type} (read : Nat → Json → Option Value) :
    Nat → Json → Option (List (String × Value))
  | depth + 1, .object fields =>
      fields.foldlM
        (fun entries (key, value) => do
          return putEntry (← key) (← read depth value) entries)
        []
  | _, _ => none

/-- Store a value in the slot with one of the names; a second value for a slot is an
error. -/
def fillSlot (names : List (List String)) (slots : List Slot) (key : String)
    (value : Json) : Option (List Slot) :=
  match names, slots with
  | alternatives :: names, slot :: slots =>
      if alternatives.contains key then
        match slot with
        | .missing => some (.present value :: slots)
        | _ => none
      else (fillSlot names slots key value).map (slot :: ·)
  | _, slots => some slots

def sequenceSlots : List (List String) → List Json → Option (List Slot)
  | [], [] => some []
  | [], _ :: _ => none
  | _ :: names, [] => (sequenceSlots names []).map (.cut :: ·)
  | _ :: names, item :: items => (sequenceSlots names items).map (.present item :: ·)

/-- The slots of a record whose fields have the given names, alternatives included. -/
def record? (names : List (List String)) : Json → Option (List Slot)
  | .object fields =>
      fields.foldlM
        (fun slots (key, value) => do fillSlot names slots (← key) value)
        (names.map fun _ => .missing)
  | .array items => sequenceSlots names items
  | _ => none

namespace Slot

def required? {Value : Type} (read : Json → Option Value) : Slot → Option Value
  | .present value => read value
  | _ => none

/-- A field that may be missing or null, but not cut off. -/
def optional? {Value : Type} (read : Json → Option Value) : Slot → Option (Option Value)
  | .present value => nullable? read value
  | .missing => some none
  | .cut => none

def orDefault? {Value : Type} (fallback : Value) (read : Json → Option Value) :
    Slot → Option Value
  | .present value => read value
  | _ => some fallback

theorem orDefault?_present {Value : Type} (fallback : Value) (read : Json → Option Value)
    (value : Json) : (present value).orDefault? fallback read = read value :=
  rfl

end Slot

end Json

end Scopelight
