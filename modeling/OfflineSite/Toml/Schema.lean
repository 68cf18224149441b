import OfflineSite.Toml.Value

namespace OfflineSite.Toml

/-- The key under which a date or time appears where a table is expected. -/
def datetimeKey : String := "$__toml_private_datetime"

namespace Value

/-- The value as a table. A date or time is one with a single entry. -/
def table? : Value → Option Table
  | .table entries => some entries
  | .datetime literal => some [(datetimeKey, .string literal)]
  | _ => none

def string? : Value → Option String
  | .string text => some text
  | _ => none

def boolean? : Value → Option Bool
  | .boolean truth => some truth
  | _ => none

/-- The value as a number from 0 to `bound`. -/
def natural? (bound : Nat) : Value → Option Nat
  | .integer number => if 0 ≤ number ∧ number ≤ bound then some number.toNat else none
  | _ => none

/-- The value as a list, all of whose items can be read. -/
def list? {α : Type} (item : Value → Option α) : Value → Option (List α)
  | .array items => items.mapM item
  | _ => none

/-- The value as a pair; items after the second are ignored. -/
def pair? {α β : Type} (first : Value → Option α) (second : Value → Option β) :
    Value → Option (α × β)
  | .array (a :: b :: _) => return (← first a, ← second b)
  | _ => none

end Value

/-- The fields of a record that were given. A record may be written as a table or as an array of its
fields in order; keys and items that the schema does not know are ignored. -/
abbrev Record := String → Option Value

namespace Record

/-- The record that a value writes, the fields of the schema given in order. -/
def ofValue? (fields : List String) : Value → Option Record
  | .array items => some fun name => (fields.zip items).lookup name
  | value => value.table?.map fun entries name => entries.lookup name

/-- A field that must be given. -/
def required {α : Type} (record : Record) (name : String) (read : Value → Option α) : Option α :=
  (record name).bind read

/-- A field that has a default. A value that cannot be read is refused all the same. -/
def withDefault {α : Type} (record : Record) (name : String) (read : Value → Option α)
    (default : α) : Option α :=
  match record name with
  | some value => read value
  | none => some default

end Record

end OfflineSite.Toml
