/-!
# TOML values

What a TOML text says: a tree of tables with values at its leaves.  Each table remembers
how it came about, because that decides whether later lines may add to it.  Floating-point
numbers and dates are checked when they are read but not kept.
-/

namespace Scopelight

/-- How a table came about. -/
inductive TableOrigin where
  | inline
  | header
  | implied
  | dotted
  deriving DecidableEq

/-- A TOML value or table. -/
inductive Toml where
  | string (value : String)
  | integer (value : Int)
  | float
  | boolean (value : Bool)
  | moment
  | array (items : List Toml)
  | table (origin : TableOrigin) (fields : List (String × Toml))
  /-- The tables of all headers in double brackets with one name. -/
  | tables (items : List (List (String × Toml)))

abbrev TomlFields := List (String × Toml)

namespace Toml

def field? (key : String) (fields : TomlFields) : Option Toml :=
  fields.lookup key

/-- Change the value with a key, or add one. -/
def alterField (key : String) (change : Option Toml → Option Toml) :
    TomlFields → Option TomlFields
  | [] => (change none).map fun value => [(key, value)]
  | (name, value) :: rest =>
      if name = key then (change (some value)).map fun changed => (name, changed) :: rest
      else (alterField key change rest).map ((name, value) :: ·)

def alterLast (change : TomlFields → Option TomlFields) :
    List TomlFields → Option (List TomlFields)
  | [] => none
  | [last] => (change last).map ([·])
  | first :: rest => (alterLast change rest).map (first :: ·)

/-- Add a value under a dotted key, given as the names before the last one and the last.
The tables on the way are made where they are missing.  Nothing is replaced, and the table
that gets the value must be the one the line stands in or one that only dotted keys
name. -/
def addField : List String → String → Toml → TomlFields → Option TomlFields
  | [], key, value, fields =>
      alterField key
        (fun
          | none => some value
          | some _ => none)
        fields
  | step :: path, key, value, fields =>
      alterField step
        (fun
          | none => (addField path key value []).map (.table .dotted)
          | some (.table origin inner) =>
              if origin = .dotted ∨ (origin = .implied ∧ path ≠ []) then
                (addField path key value inner).map (.table origin)
              else none
          | some (.tables items) =>
              if path = [] then none
              else (alterLast (addField path key value) items).map .tables
          | some _ => none)
        fields

/-- Change the table at a path of headers.  Missing tables are made, and of the tables of
headers in double brackets the last is meant. -/
def alterTable (change : TomlFields → Option TomlFields) :
    List String → TomlFields → Option TomlFields
  | [], fields => change fields
  | step :: path, fields =>
      alterField step
        (fun
          | none => (alterTable change path []).map (.table .implied)
          | some (.table origin inner) =>
              if origin = .inline then none
              else (alterTable change path inner).map (.table origin)
          | some (.tables items) => (alterLast (alterTable change path) items).map .tables
          | some _ => none)
        fields

/-- Announce a table by its header.  It must not be there yet, except as a table on the
way to another header. -/
def openTable (key : String) : TomlFields → Option TomlFields :=
  alterField key fun
    | none => some (.table .header [])
    | some (.table .implied inner) => some (.table .header inner)
    | some _ => none

/-- Announce one more table of an array of tables. -/
def openTables (key : String) : TomlFields → Option TomlFields :=
  alterField key fun
    | none => some (.tables [[]])
    | some (.tables items) => some (.tables (items ++ [[]]))
    | some _ => none

end Toml

end Scopelight
