import OfflineSite.Text.Hex

namespace OfflineSite.Unicode

/-- Rows of numbers, ascending by the first of each row. A row that holds one number or two, such as
`AD` or `300-36F`, is a range. -/
abbrev Table := Array (List Nat)

namespace Table

/-- A table that is being read: the rows that are complete, and of the one that is not, the numbers
that are complete, last first, and the one that is not. -/
structure Reading where
  rows : Table
  row : List Nat
  number : Option Nat

/-- Ends the number that is being read. -/
def Reading.endNumber (reading : Reading) : Reading :=
  { reading with row := reading.number.toList ++ reading.row, number := none }

/-- Ends the row that is being read. -/
def Reading.endRow (reading : Reading) : Reading :=
  let reading := reading.endNumber
  if reading.row.isEmpty then reading
  else { reading with rows := reading.rows.push reading.row.reverse, row := [] }

def Reading.next (reading : Reading) (c : Char) : Reading :=
  match Hex.value? c with
  | some digit => { reading with number := some (reading.number.getD 0 * 16 + digit) }
  | none => if c == ' ' || c == '\n' then reading.endRow else reading.endNumber

/-- Reads a table. Blanks end a row, and other marks end a number, which is hexadecimal. -/
def ofText (text : String) : Table := (text.toList.foldl Reading.next ⟨#[], [], none⟩).endRow.rows

/-- The first number of a row. -/
def start (table : Table) (row : Nat) : Nat := (table.getD row []).headD 0

/-- Of the rows from `low` to below `high`, the last that begins with at most `n`, or `low`. -/
def search (table : Table) (n low high : Nat) : Nat :=
  if low + 1 < high then
    let middle := (low + high) / 2
    if table.start middle ≤ n then search table n middle high else search table n low middle
  else low
  termination_by high - low

/-- The last row that begins with at most `n`. -/
def row? (table : Table) (n : Nat) : Option (List Nat) :=
  if table.start 0 ≤ n then table[table.search n 0 table.size]? else none

/-- What the row that begins with `n` holds after it. -/
def at? (table : Table) (n : Nat) : Option (List Nat) :=
  match table.row? n with
  | some (first :: rest) => if first = n then some rest else none
  | _ => none

/-- Whether `n` is in a range of the table. -/
def covers (table : Table) (n : Nat) : Bool :=
  match table.row? n with
  | some [only] => only == n
  | some (_ :: last :: _) => n ≤ last
  | _ => false

end Table

end OfflineSite.Unicode
