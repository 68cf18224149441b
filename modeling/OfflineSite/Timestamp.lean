import OfflineSite.Date
import OfflineSite.Text.Hex
import OfflineSite.Text.WhiteSpace

namespace OfflineSite

/-- A point in time, in UTC. Second 60 is a leap second. -/
structure Timestamp where
  date : Date
  hour : Nat
  minute : Nat
  second : Nat
  nanosecond : Nat
  deriving Repr, DecidableEq, Inhabited

namespace Timestamp

/-- A number with at least `width` digits. -/
def padded (width : Nat) (n : Nat) : String :=
  let digits := toString n
  String.ofList (List.replicate (width - digits.length) '0') ++ digits

/-- A year has four digits; outside 0 to 9999 it has a sign too. -/
def yearText (year : Int) : String :=
  if 0 ≤ year ∧ year ≤ 9999 then padded 4 year.toNat
  else (if year < 0 then "-" else "+") ++ padded 4 year.natAbs

/-- A fraction of a second, in the fewest digits of 0, 3, 6 and 9 that lose nothing. -/
def fractionText (nanosecond : Nat) : String :=
  if nanosecond = 0 then ""
  else if nanosecond % 1000000 = 0 then "." ++ padded 3 (nanosecond / 1000000)
  else if nanosecond % 1000 = 0 then "." ++ padded 6 (nanosecond / 1000)
  else "." ++ padded 9 nanosecond

/-- The time as RFC 3339 writes it, in UTC and with the fewest fraction digits out of 0, 3, 6 and 9.
-/
def text (t : Timestamp) : String :=
  s!"{yearText t.date.year}-{padded 2 t.date.month}-{padded 2 t.date.day}T" ++
    s!"{padded 2 t.hour}:{padded 2 t.minute}:{padded 2 t.second}{fractionText t.nanosecond}Z"

/-- The time some seconds after the beginning of 1970. -/
def ofUnix (seconds nanosecond : Nat) : Timestamp where
  date := .ofDays (seconds / 86400)
  hour := seconds / 3600 % 24
  minute := seconds / 60 % 60
  second := seconds % 60
  nanosecond := nanosecond

/-- The time in UTC of a local time that is ahead of UTC by some minutes, less than a day. -/
def ofLocal (t : Timestamp) (ahead : Int) : Timestamp :=
  let minutes : Int := t.hour * 60 + t.minute - ahead
  let date :=
    if minutes < 0 then t.date.previous else if minutes ≥ 1440 then t.date.next else t.date
  let minutes := (minutes % 1440).toNat
  { t with date, hour := minutes / 60, minute := minutes % 60 }

/-- Reads something off the front of a text. -/
abbrev Reader (α : Type) := List Char → Option (α × List Char)

/-- Reads at least one digit and at most `limit`. -/
def digits (limit : Nat) (text : List Char) : Option (List Char × List Char) :=
  let run := (text.take limit).takeWhile Char.isDigit
  if run.isEmpty then none else some (run, text.drop run.length)

def valueOf (run : List Char) : Nat :=
  Hex.ofDigits 10 (run.map fun c => c.toNat - '0'.toNat)

/-- Reads a field of one or two digits; white space may precede it. -/
def field (text : List Char) : Option (Nat × List Char) :=
  (digits 2 (trimLeft text)).map fun (run, rest) => (valueOf run, rest)

/-- Reads a year: up to four digits, or a sign and any number of them. -/
def year (text : List Char) : Option (Int × List Char) :=
  match trimLeft text with
  | '-' :: rest => (digits rest.length rest).map fun (run, rest) => (-(valueOf run : Int), rest)
  | '+' :: rest => (digits rest.length rest).map fun (run, rest) => ((valueOf run : Int), rest)
  | text => (digits 4 text).map fun (run, rest) => ((valueOf run : Int), rest)

/-- Reads a separator; white space may precede it. -/
def separator? (c : Char) (text : List Char) : Option (List Char) :=
  match trimLeft text with
  | d :: rest => if c = d then some rest else none
  | [] => none

/-- Reads the letter or space between date and time. -/
def timeMark? : List Char → Option (List Char)
  | 'T' :: rest => some rest
  | 't' :: rest => some rest
  | ' ' :: rest => some rest
  | _ => none

/-- Reads a fraction of a second, if there is one. Digits past the ninth are dropped. -/
def fraction : Reader Nat
  | '.' :: text => do
    let (run, rest) ← digits 9 text
    return (valueOf (run ++ List.replicate (9 - run.length) '0'), rest.dropWhile Char.isDigit)
  | text => some (0, text)

/-- Reads exactly two digits, the first of them at most `top`. -/
def twoDigits (top : Char) : Reader Nat
  | a :: b :: rest =>
    if a.isDigit && b.isDigit && a ≤ top then some (valueOf [a, b], rest) else none
  | _ => none

/-- Reads the hours and minutes of an offset, in minutes. A colon and white space may stand between
them. -/
def offsetMinutes (text : List Char) : Option (Nat × List Char) := do
  let (hours, rest) ← twoDigits '9' text
  let (minutes, rest) ← twoDigits '5' (rest.dropWhile fun c => c == ':' || isWhiteSpace c)
  return (hours * 60 + minutes, rest)

/-- Reads an offset, in minutes ahead of UTC. -/
def offset : Reader Int
  | 'Z' :: rest => some (0, rest)
  | 'z' :: rest => some (0, rest)
  | '+' :: rest => (offsetMinutes rest).map fun (n, rest) => ((n : Int), rest)
  | '-' :: rest => (offsetMinutes rest).map fun (n, rest) => (-(n : Int), rest)
  | '\u2212' :: rest => (offsetMinutes rest).map fun (n, rest) => (-(n : Int), rest)
  | a :: b :: c :: rest =>
    if [a, b, c].map Char.toUpper = ['U', 'T', 'C'] then some (0, rest) else none
  | _ => none

/-- Reads a time with its date and offset. Spacing, field widths and the way the offset is spelled
count little. -/
def parse? (text : String) : Option Timestamp := do
  let (year, rest) ← year text.toList
  let (month, rest) ← field (← separator? '-' rest)
  let (day, rest) ← field (← separator? '-' rest)
  let (hour, rest) ← field (← timeMark? rest)
  let (minute, rest) ← field (← separator? ':' rest)
  let (second, rest) ← field (← separator? ':' rest)
  let (nanosecond, rest) ← fraction rest
  let (ahead, rest) ← offset (trimLeft rest)
  let date : Date := ⟨year, month, day⟩
  guard ((trimLeft rest).isEmpty && date.IsValid && hour < 24 && minute < 60 && second ≤ 60 &&
    ahead.natAbs < 1440)
  let t := ofLocal ⟨date, hour, minute, second, nanosecond⟩ ahead
  guard t.date.IsValid
  return t

end Timestamp

end OfflineSite
