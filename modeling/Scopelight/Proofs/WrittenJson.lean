import Mathlib.Data.List.Basic
import Scopelight.Json.Parser
import Scopelight.Json.Printer

/-!
# Written JSON is read back

A value without broken strings, whose integers fit 64 bits, is read back from the text that it
is written as.  A string is escaped character by character, and the digits of a number end
where the text goes on with a comma or a closing bracket.  The length of the text is enough
fuel for its reader.
-/

namespace Scopelight

namespace Json

/-- What can stand behind a value in a written text: nothing, or the rest of the array or
object around it. -/
def Follows (rest : List Char) : Prop :=
  ∀ c ∈ rest.head?, c ∈ [',', ']', '\x7d']

/-- A value that a text can write. -/
inductive Writable : Json → Prop
  | null : Writable .null
  | bool (value : Bool) : Writable (.bool value)
  | integer {value : Int} (least : -0x8000000000000000 ≤ value)
      (greatest : value < 0x10000000000000000) : Writable (.integer value)
  | float : Writable .float
  | string (value : String) : Writable (.string value)
  | array {items : List Json} (each : ∀ item ∈ items, Writable item) : Writable (.array items)
  | ofFields {fields : List (String × Json)} (each : ∀ field ∈ fields, Writable field.2) :
      Writable (.ofFields fields)

theorem Writable.ofList {Item : Type} {encode : Item → Json} {items : List Item}
    (each : ∀ item ∈ items, (encode item).Writable) : (Json.ofList encode items).Writable := by
  refine .array fun value member => ?_
  obtain ⟨item, itemMem, rfl⟩ := List.mem_map.mp member
  exact each item itemMem

/-- A value that may be missing is written as null if it is. -/
theorem Writable.ofOption {Item : Type} {encode : Item → Json} {item? : Option Item}
    (each : ∀ item ∈ item?, (encode item).Writable) :
    (Json.ofOption (item?.map encode)).Writable := by
  cases item? with
  | none => exact .null
  | some item => exact each item rfl

/-! ### Strings -/

theorem unit?_hexDigit {code : Nat} (small : code < 0x20) :
    unit? '0' '0' (hexDigit (code / 16)) (hexDigit (code % 16)) = some code := by
  revert small
  revert code
  decide +kernel

/-- Quotes and backslashes have short escapes. -/
theorem shortEscape?_eq_none {c : Char} (unescaped : shortEscape? c = none) :
    c ≠ '"' ∧ c ≠ '\\' := by
  constructor
  · rintro rfl
    cases unescaped
  · rintro rfl
    cases unescaped

/-- A character is read back from its escape. -/
theorem readString_escapeChar (c : Char) (fuel : Nat) (rest : List Char) :
    readString (fuel + 1) (escapeChar c ++ rest) =
      (readString fuel rest).map fun (tail, left) => (tail.map (c :: ·), left) := by
  unfold escapeChar
  cases shortEq : shortEscape? c with
  | some letter =>
      unfold shortEscape? at shortEq
      split at shortEq
      case h_8 => cases shortEq
      all_goals
        cases shortEq
        rfl
  | none =>
      obtain ⟨noQuote, noBackslash⟩ := shortEscape?_eq_none shortEq
      by_cases control : c.toNat < 0x20
      · have noSurrogate : ¬(0xD800 ≤ c.toNat ∧ c.toNat < 0xDC00) := fun high => by omega
        have noSecond : ¬(0xDC00 ≤ c.toNat ∧ c.toNat < 0xE000) := fun low => by omega
        simp only [if_pos control, List.cons_append, List.nil_append, readString,
          unit?_hexDigit control]
        simp [noSurrogate, noSecond]
      · simp [readString, noQuote, noBackslash, control]

theorem readString_escaped {text : List Char} {fuel : Nat} (enough : text.length < fuel)
    (rest : List Char) :
    readString fuel (text.flatMap escapeChar ++ '"' :: rest) = some (some text, rest) := by
  induction text generalizing fuel with
  | nil =>
      obtain ⟨fuel, rfl⟩ := Nat.exists_eq_add_one_of_ne_zero (Nat.ne_of_gt enough)
      rfl
  | cons c text ih =>
      obtain ⟨fuel, rfl⟩ := Nat.exists_eq_add_one_of_ne_zero (Nat.ne_zero_of_lt enough)
      rw [List.flatMap_cons, List.append_assoc, readString_escapeChar,
        ih (Nat.lt_of_succ_lt_succ enough)]
      rfl

theorem length_le_escaped (text : List Char) : text.length ≤ (text.flatMap escapeChar).length := by
  induction text with
  | nil => exact Nat.le_refl 0
  | cons c text ih =>
      have escapePos : 0 < (escapeChar c).length := by
        unfold escapeChar
        split
        · exact Nat.succ_pos _
        · split <;> exact Nat.succ_pos _
      rw [List.flatMap_cons, List.length_append, List.length_cons]
      omega

theorem toList_quoteText (text : String) :
    (quoteText text).toList = '"' :: (text.toList.flatMap escapeChar ++ ['"']) := by
  simp [quoteText]

/-- A quoted text is read back after its opening quote. -/
theorem readText_escaped (text : String) (rest : List Char) :
    readText (text.toList.flatMap escapeChar ++ '"' :: rest) = some (some text, rest) := by
  have enough : text.toList.length <
      (text.toList.flatMap escapeChar ++ '"' :: rest).length + 1 := by
    have := length_le_escaped text.toList
    rw [List.length_append]
    omega
  rw [readText, readString_escaped enough]
  simp

/-! ### Numbers -/

/-- The digits of a number do not begin with a zero unless this is all. -/
theorem exists_toDigits_eq_cons (number : Nat) :
    ∃ first more, Nat.toDigits 10 number = first :: more ∧ (first = '0' → more = []) := by
  induction number using Nat.base_induction 10 (by decide) with
  | single number small => exact ⟨_, [], Nat.toDigits_of_lt_base small, fun _ => rfl⟩
  | digit number last lastLt positive ih =>
      obtain ⟨first, more, digitsEq, single⟩ := ih
      refine ⟨first, more ++ Nat.toDigits 10 last, ?_, ?_⟩
      · rw [← Nat.toDigits_append_toDigits (by decide) positive lastLt, digitsEq,
          List.cons_append]
      · rintro rfl
        -- A lone zero is the number zero, which has no further digits.
        have valueEq := Nat.ofDigitChars_ten_toDigits (n := number)
        rw [digitsEq, single rfl] at valueEq
        exact absurd valueEq (Nat.ne_of_lt positive)

/-- What follows a value ends a number: it has no more digits, no fraction and no exponent. -/
theorem Follows.cases {rest : List Char} (follows : Follows rest) :
    rest = [] ∨ ∃ c more, rest = c :: more ∧
      c.isDigit = false ∧ c ≠ '.' ∧ c ≠ 'e' ∧ c ≠ 'E' := by
  have ends : ∀ c ∈ [',', ']', '\x7d'],
      c.isDigit = false ∧ c ≠ '.' ∧ c ≠ 'e' ∧ c ≠ 'E' := by
    rw [← List.forall_iff_forall_mem]
    decide
  cases rest with
  | nil => exact .inl rfl
  | cons c more => exact .inr ⟨c, more, rfl, ends c (follows c rfl)⟩

theorem takeWhile_toDigits (number : Nat) {rest : List Char} (follows : Follows rest) :
    (Nat.toDigits 10 number ++ rest).takeWhile Char.isDigit = Nat.toDigits 10 number ∧
      (Nat.toDigits 10 number ++ rest).dropWhile Char.isDigit = rest := by
  have digits : ∀ c ∈ Nat.toDigits 10 number, c.isDigit = true :=
    fun c member => Nat.isDigit_of_mem_toDigits (by decide) (by decide) member
  rw [List.takeWhile_append_of_pos digits, List.dropWhile_append_of_pos digits]
  rcases follows.cases with rfl | ⟨c, more, rfl, noDigit, -⟩
  · simp
  · simp [noDigit]

/-- The value of the digits of a number. -/
theorem foldl_toDigits (number : Nat) :
    (Nat.toDigits 10 number).foldl (fun total c => total * 10 + (c.toNat - 0x30)) 0 = number := by
  have valueEq := Nat.ofDigitChars_ten_toDigits (n := number)
  simp only [Nat.ofDigitChars_eq_foldl, Nat.mul_comm 10] at valueEq
  exact valueEq

/-- A number ends where its digits do. -/
theorem readNumber_toDigits (negative : Bool) (magnitude : Nat) {rest : List Char}
    (follows : Follows rest) :
    readNumber ((if negative then ['-'] else []) ++ (Nat.toDigits 10 magnitude ++ rest)) =
      some (if negative then
          if magnitude = 0 || 0x8000000000000000 < magnitude then .float
          else .integer (-(magnitude : Int))
        else if magnitude < 0x10000000000000000 then .integer magnitude else .float, rest) := by
  obtain ⟨wholeEq, afterEq⟩ := takeWhile_toDigits magnitude follows
  have valueEq := foldl_toDigits magnitude
  obtain ⟨first, more, digitsEq, single⟩ := exists_toDigits_eq_cons magnitude
  have firstDigit : first.isDigit = true :=
    Nat.isDigit_of_mem_toDigits (by decide) (by decide) (digitsEq ▸ List.mem_cons_self)
  have noSign : first ≠ '-' := by
    rintro rfl
    cases firstDigit
  rw [digitsEq, List.cons_append] at wholeEq afterEq
  rw [digitsEq] at valueEq ⊢
  unfold readNumber
  split
  next sign digits parted =>
    have partsEq : sign = negative ∧ digits = first :: (more ++ rest) := by
      cases negative with
      | true =>
          cases parted
          exact ⟨rfl, rfl⟩
      | false =>
          simp only [Bool.false_eq_true, if_false, List.nil_append, List.cons_append] at parted
          split at parted
          · next same => exact absurd (List.cons.inj same).1 noSign
          · cases parted
            exact ⟨rfl, rfl⟩
    obtain ⟨rfl, rfl⟩ := partsEq
    simp only [wholeEq, afterEq, valueEq]
    refine (if_neg ?_).trans ?_
    · cases more with
      | nil => exact Bool.false_ne_true
      | cons second more =>
          have noZero : first ≠ '0' := fun zero => List.cons_ne_nil _ _ (single zero)
          simpa using noZero
    rcases follows.cases with rfl | ⟨c, after, rfl, -, noPoint, noE, noUpperE⟩
    · rfl
    · simp [noPoint, noE, noUpperE]

/-- An integer is written as its sign, if it is negative, and the digits of its magnitude. -/
theorem exists_toList_integer (value : Int) :
    ∃ (negative : Bool) (magnitude : Nat), (render (.integer value)).toList =
        (if negative then ['-'] else []) ++ Nat.toDigits 10 magnitude ∧
      value = (if negative then -(magnitude : Int) else magnitude) ∧
      (negative = true → magnitude ≠ 0) := by
  cases value with
  | ofNat magnitude =>
      refine ⟨false, magnitude, ?_, rfl, nofun⟩
      exact Nat.toList_repr
  | negSucc before =>
      refine ⟨true, before + 1, ?_, rfl, fun _ => Nat.succ_ne_zero before⟩
      change ("-" ++ Nat.repr (before + 1)).toList = _
      rw [String.toList_append, Nat.toList_repr]
      rfl

/-- A value is read without the blank before it. -/
theorem dropBlank_cons {c : Char} (shown : c ∉ [' ', '\n', '\t', '\r']) (text : List Char) :
    dropBlank (c :: text) = c :: text := by
  simp only [List.mem_cons, List.not_mem_nil, or_false, not_or] at shown
  simp [dropBlank, shown]

theorem numeric_apart {c : Char} (numeric : c.isDigit = true ∨ c = '-') :
    c ∉ [' ', '\n', '\t', '\r', ']', '\x7d', '"', '[', '\x7b', 't', 'f', 'n'] := by
  have others : ∀ c ∈ [' ', '\n', '\t', '\r', ']', '\x7d', '"', '[', '\x7b', 't', 'f', 'n'],
      ¬(c.isDigit = true ∨ c = '-') := by
    rw [← List.forall_iff_forall_mem]
    decide
  exact fun member => others c member numeric

theorem readValue_numeric {c : Char} (numeric : c.isDigit = true ∨ c = '-') (fuel : Nat)
    (text : List Char) : readValue (fuel + 1) (c :: text) = readNumber (c :: text) := by
  have apart := numeric_apart numeric
  have shown : c ∉ [' ', '\n', '\t', '\r'] := fun member =>
    apart (List.mem_append_left [']', '\x7d', '"', '[', '\x7b', 't', 'f', 'n'] member)
  rw [readValue, dropBlank_cons shown]
  split
  case h_1 same => cases same
  all_goals first
    | rfl
    | next same =>
      obtain ⟨rfl, -⟩ := List.cons.inj same
      exact absurd apart (by decide)

/-! ### Values -/

/-- The texts of the parts of an array or object with commas between them. -/
def joined (texts : List (List Char)) : List Char :=
  [','].intercalate texts

def fieldText (field : String × Json) : List Char :=
  (quoteText field.1).toList ++ ':' :: (render field.2).toList

theorem toList_render_array (items : List Json) :
    (render (.array items)).toList =
      '[' :: (joined (items.map fun item => (render item).toList) ++ [']']) := by
  have itemsEq : renderItems items = items.map render := by
    induction items with
    | nil => rfl
    | cons item items ih => rw [renderItems, ih, List.map_cons]
  simp [render, itemsEq, joined, Function.comp_def]

/-- The fields of an object, all of whose keys are texts. -/
theorem ofFields_eq (fields : List (String × Json)) :
    ofFields fields = .object (fields.map fun field => (some field.1, field.2)) :=
  rfl

theorem toList_render_ofFields (fields : List (String × Json)) :
    (render (.ofFields fields)).toList =
      '\x7b' :: (joined (fields.map fieldText) ++ ['\x7d']) := by
  have fieldsEq : (renderFields (fields.map fun field => (some field.1, field.2))).map
      String.toList = fields.map fieldText := by
    induction fields with
    | nil => rfl
    | cons field fields ih =>
        rw [List.map_cons, renderFields, List.map_cons, ih, List.map_cons]
        simp [fieldText]
  simp [render, ofFields_eq, fieldsEq, joined]

/-- A value is read back from its text, wherever the text stands and as long as there is fuel
for it. -/
structure ReadsBack (value : Json) : Prop where
  starts : ∃ c more, (render value).toList = c :: more ∧
    c ∉ [' ', '\n', '\t', '\r', ']', '\x7d']
  read : ∀ {fuel : Nat} {rest : List Char}, (render value).toList.length ≤ fuel →
    Follows rest → readValue fuel ((render value).toList ++ rest) = some (value, rest)

theorem readsBack_integer {value : Int} (least : -0x8000000000000000 ≤ value)
    (greatest : value < 0x10000000000000000) : ReadsBack (.integer value) := by
  obtain ⟨negative, magnitude, textEq, valueEq, nonzero⟩ := exists_toList_integer value
  obtain ⟨c, more, consEq, numeric⟩ : ∃ c more, (render (.integer value)).toList = c :: more ∧
      (c.isDigit = true ∨ c = '-') := by
    rw [textEq]
    cases negative with
    | true => exact ⟨'-', _, rfl, .inr rfl⟩
    | false =>
        obtain ⟨first, more, digitsEq, -⟩ := exists_toDigits_eq_cons magnitude
        exact ⟨first, more, digitsEq, .inl (Nat.isDigit_of_mem_toDigits (by decide) (by decide)
          (digitsEq ▸ List.mem_cons_self))⟩
  refine ⟨⟨c, more, consEq, fun member => numeric_apart numeric
    (List.mem_append_left ['"', '[', '\x7b', 't', 'f', 'n'] member)⟩, ?_⟩
  intro fuel rest enough follows
  have fuelPos : fuel ≠ 0 := by
    rw [consEq, List.length_cons] at enough
    omega
  obtain ⟨fuel, rfl⟩ := Nat.exists_eq_add_one_of_ne_zero fuelPos
  rw [consEq, List.cons_append, readValue_numeric numeric, ← List.cons_append, ← consEq,
    textEq, List.append_assoc, readNumber_toDigits negative magnitude follows]
  congr 2
  cases negative with
  | true =>
      have fits : ¬(magnitude = 0 ∨ 0x8000000000000000 < magnitude) := by
        have := nonzero rfl
        rw [valueEq] at least
        simp only [if_true] at least
        omega
      simp [fits, valueEq]
  | false =>
      have fits : magnitude < 0x10000000000000000 := by
        rw [valueEq] at greatest
        simp only [Bool.false_eq_true, if_false] at greatest
        omega
      simp [fits, valueEq]

theorem readsBack_float : ReadsBack .float := by
  refine ⟨⟨'0', ['.', '0'], rfl, by decide⟩, ?_⟩
  intro fuel rest enough follows
  obtain ⟨fuel, rfl⟩ := Nat.exists_eq_add_one_of_ne_zero (Nat.ne_of_gt
    (Nat.lt_of_lt_of_le (by decide) enough))
  change readValue (fuel + 1) ('0' :: '.' :: '0' :: rest) = _
  rw [readValue_numeric (.inl (by decide))]
  rcases follows.cases with rfl | ⟨c, after, rfl, noDigit, -, noE, noUpperE⟩
  · rfl
  · simp [readNumber, noDigit, noE, noUpperE]

theorem readsBack_string (value : String) : ReadsBack (.string value) := by
  have textEq : (render (.string value)).toList =
      '"' :: (value.toList.flatMap escapeChar ++ ['"']) := toList_quoteText value
  refine ⟨⟨'"', _, textEq, by decide⟩, ?_⟩
  intro fuel rest enough follows
  have fuelPos : fuel ≠ 0 := by
    rw [textEq, List.length_cons] at enough
    omega
  obtain ⟨fuel, rfl⟩ := Nat.exists_eq_add_one_of_ne_zero fuelPos
  rw [textEq, List.cons_append, List.append_assoc]
  change (readText (value.toList.flatMap escapeChar ++ '"' :: rest)).map _ = _
  rw [readText_escaped]
  rfl

theorem joined_cons_cons (first second : List Char) (texts : List (List Char)) :
    joined (first :: second :: texts) = first ++ ',' :: joined (second :: texts) := by
  simp [joined]

/-- The items of an array are read up to its closing bracket, by induction on the items. -/
theorem readItems_joined {items : List Json} (nonempty : items ≠ [])
    (each : ∀ item ∈ items, ReadsBack item) (fuel : Nat) (rest : List Char)
    (enough : (joined (items.map fun item => (render item).toList)).length < fuel) :
    readItems fuel (joined (items.map fun item => (render item).toList) ++ ']' :: rest) =
      some (items, rest) := by
  induction items generalizing fuel with
  | nil => exact absurd rfl nonempty
  | cons item items ih =>
      obtain ⟨fuel, rfl⟩ := Nat.exists_eq_add_one_of_ne_zero (Nat.ne_zero_of_lt enough)
      have reads := each item List.mem_cons_self
      cases items with
      | nil =>
          have closes : Follows (']' :: rest) := by
            rintro _ ⟨⟩
            decide
          simp only [List.map_cons, List.map_nil, joined, List.intercalate_singleton] at enough ⊢
          rw [readItems, reads.read (Nat.le_of_lt_succ enough) closes]
          rfl
      | cons next items =>
          simp only [List.map_cons, joined_cons_cons] at enough ih ⊢
          have goesOn (text : List Char) : Follows (',' :: text) := by
            rintro _ ⟨⟩
            decide
          rw [List.length_append, List.length_cons] at enough
          rw [List.append_assoc, List.cons_append, readItems,
            reads.read (by omega) (goesOn _)]
          have behind := ih (List.cons_ne_nil _ _)
            (fun other member => each other (List.mem_cons_of_mem _ member)) fuel (by omega)
          change (readItems fuel _).map _ = _
          rw [behind]
          rfl

theorem fieldText_eq (field : String × Json) (rest : List Char) :
    fieldText field ++ rest = '"' :: (field.1.toList.flatMap escapeChar ++
      '"' :: ':' :: ((render field.2).toList ++ rest)) := by
  simp [fieldText, toList_quoteText]

/-- The fields of an object are read up to its closing brace, by induction on the fields. -/
theorem readFields_joined {fields : List (String × Json)} (nonempty : fields ≠ [])
    (each : ∀ field ∈ fields, ReadsBack field.2) (fuel : Nat) (rest : List Char)
    (enough : (joined (fields.map fieldText)).length < fuel) :
    readFields fuel (joined (fields.map fieldText) ++ '\x7d' :: rest) =
      some (fields.map fun field => (some field.1, field.2), rest) := by
  induction fields generalizing fuel with
  | nil => exact absurd rfl nonempty
  | cons field fields ih =>
      obtain ⟨fuel, rfl⟩ := Nat.exists_eq_add_one_of_ne_zero (Nat.ne_zero_of_lt enough)
      have reads := each field List.mem_cons_self
      have colonShown : ':' ∉ [' ', '\n', '\t', '\r'] := by decide
      have valueLe : (render field.2).toList.length ≤ (fieldText field).length := by
        rw [fieldText, List.length_append, List.length_cons]
        omega
      cases fields with
      | nil =>
          have closes : Follows ('\x7d' :: rest) := by
            rintro _ ⟨⟩
            decide
          simp only [List.map_cons, List.map_nil, joined, List.intercalate_singleton] at enough ⊢
          rw [fieldText_eq, readFields, dropBlank_cons (by decide)]
          simp only [readText_escaped, dropBlank_cons colonShown]
          rw [reads.read (by omega) closes]
          rfl
      | cons next fields =>
          simp only [List.map_cons, joined_cons_cons] at enough ih ⊢
          have goesOn (text : List Char) : Follows (',' :: text) := by
            rintro _ ⟨⟩
            decide
          rw [List.length_append, List.length_cons] at enough
          have behind := ih (List.cons_ne_nil _ _)
            (fun other member => each other (List.mem_cons_of_mem _ member)) fuel (by omega)
          rw [List.append_assoc, List.cons_append, fieldText_eq, readFields,
            dropBlank_cons (by decide)]
          simp only [readText_escaped, dropBlank_cons colonShown]
          rw [reads.read (by omega) (goesOn _)]
          change (readFields fuel _).map _ = _
          rw [behind]
          rfl

/-- What the first text begins with, all the texts begin with. -/
theorem joined_cons_starts (c : Char) (more : List Char) (texts : List (List Char)) :
    ∃ after, joined ((c :: more) :: texts) = c :: after := by
  cases texts with
  | nil => exact ⟨more, by simp [joined]⟩
  | cons second texts => exact ⟨_, joined_cons_cons _ _ _⟩

theorem readsBack_array {items : List Json} (each : ∀ item ∈ items, ReadsBack item) :
    ReadsBack (.array items) := by
  have textEq := toList_render_array items
  refine ⟨⟨'[', _, textEq, by decide⟩, fun {fuel rest} enough follows => ?_⟩
  rw [textEq, List.length_cons, List.length_append, List.length_singleton] at enough
  obtain ⟨fuel, rfl⟩ := Nat.exists_eq_add_one_of_ne_zero (show fuel ≠ 0 by omega)
  rw [textEq, List.cons_append, List.append_assoc]
  change readValue (fuel + 1) ('[' :: (joined _ ++ ']' :: rest)) = _
  cases items with
  | nil => rfl
  | cons item items =>
      have reads := readItems_joined (List.cons_ne_nil _ _) each fuel rest (by omega)
      obtain ⟨c, more, itemEq, apart⟩ := (each item List.mem_cons_self).starts
      obtain ⟨after, innerEq⟩ : ∃ after,
          joined ((item :: items).map fun item => (render item).toList) = c :: after := by
        rw [List.map_cons, itemEq]
        exact joined_cons_starts c more _
      rw [innerEq, List.cons_append] at reads ⊢
      have shown : c ∉ [' ', '\n', '\t', '\r'] :=
        fun member => apart (List.mem_append_left [']', '\x7d'] member)
      rw [readValue, dropBlank_cons (by decide)]
      simp only [dropBlank_cons shown, reads]
      split
      · next same =>
          obtain ⟨rfl, -⟩ := List.cons.inj same
          exact absurd apart (by decide)
      · rfl

theorem readsBack_ofFields {fields : List (String × Json)}
    (each : ∀ field ∈ fields, ReadsBack field.2) : ReadsBack (.ofFields fields) := by
  have textEq := toList_render_ofFields fields
  refine ⟨⟨'\x7b', _, textEq, by decide⟩, fun {fuel rest} enough follows => ?_⟩
  rw [textEq, List.length_cons, List.length_append, List.length_singleton] at enough
  obtain ⟨fuel, rfl⟩ := Nat.exists_eq_add_one_of_ne_zero (show fuel ≠ 0 by omega)
  rw [textEq, List.cons_append, List.append_assoc]
  change readValue (fuel + 1) ('\x7b' :: (joined _ ++ '\x7d' :: rest)) = _
  cases fields with
  | nil => rfl
  | cons field fields =>
      have reads := readFields_joined (List.cons_ne_nil _ _) each fuel rest (by omega)
      obtain ⟨after, innerEq⟩ : ∃ after,
          joined ((field :: fields).map fieldText) = '"' :: after := by
        rw [List.map_cons, fieldText, toList_quoteText]
        exact joined_cons_starts '"' _ _
      rw [innerEq, List.cons_append] at reads ⊢
      rw [readValue, dropBlank_cons (by decide)]
      simp only [dropBlank_cons (show '"' ∉ [' ', '\n', '\t', '\r'] by decide), reads]
      rfl

theorem readsBack_literal {value : Json} {c : Char} {more : List Char}
    (textEq : (render value).toList = c :: more)
    (apart : c ∉ [' ', '\n', '\t', '\r', ']', '\x7d'])
    (reads : ∀ fuel rest, readValue (fuel + 1) (c :: more ++ rest) = some (value, rest)) :
    ReadsBack value := by
  refine ⟨⟨c, more, textEq, apart⟩, fun {fuel rest} enough _ => ?_⟩
  rw [textEq, List.length_cons] at enough
  obtain ⟨fuel, rfl⟩ := Nat.exists_eq_add_one_of_ne_zero (show fuel ≠ 0 by omega)
  rw [textEq]
  exact reads fuel rest

/-- Every value that can be written is read back, by induction on the value. -/
theorem Writable.readsBack {value : Json} (writable : value.Writable) : ReadsBack value := by
  induction writable with
  | null => exact readsBack_literal rfl (by decide) fun _ _ => rfl
  | bool value =>
      cases value with
      | true => exact readsBack_literal rfl (by decide) fun _ _ => rfl
      | false => exact readsBack_literal rfl (by decide) fun _ _ => rfl
  | integer least greatest => exact readsBack_integer least greatest
  | float => exact readsBack_float
  | string value => exact readsBack_string value
  | array _ ih => exact readsBack_array ih
  | ofFields _ ih => exact readsBack_ofFields ih

/-- What is written is read back. -/
theorem Writable.parse?_render {value : Json} (writable : value.Writable) :
    parse? value.render = some value := by
  have nothing : Follows [] := nofun
  have reads := writable.readsBack.read (Nat.le_succ _) nothing
  rw [List.append_nil] at reads
  rw [parse?, reads]
  rfl

end Json

end Scopelight
