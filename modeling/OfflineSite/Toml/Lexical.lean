import OfflineSite.Date
import OfflineSite.Number.Power
import OfflineSite.Text.Hex
import OfflineSite.Text.Split
import OfflineSite.Toml.Value

namespace OfflineSite.Toml

/-- Reads something off the front of a text. -/
abbrev Reader (α : Type) := List Char → Option (α × List Char)

/-- Space and tab. -/
def isBlank (c : Char) : Bool := c == ' ' || c == '\t'

def skipBlanks : List Char → List Char := List.dropWhile isBlank

/-- The characters a comment may hold: all but control characters, a tab excepted. -/
def isCommentChar (c : Char) : Bool := c == '\t' || (c.toNat ≥ 0x20 && c.toNat != 0x7F)

/-- The end of a line. A carriage return alone does not end one. -/
def newline? : List Char → Option (List Char)
  | '\n' :: rest => some rest
  | '\r' :: '\n' :: rest => some rest
  | _ => none

/-- What may follow on a line that is complete: blanks, a comment, and the end of line or text. -/
def lineEnd? (text : List Char) : Option (List Char) :=
  let text := skipBlanks text
  let text := match text with
    | '#' :: rest => rest.dropWhile isCommentChar
    | _ => text
  match text with
  | [] => some []
  | _ => newline? text

/-- Blanks, comments and line ends, as they may stand between the items of an array. -/
def skipLines (fuel : Nat) (text : List Char) : Option (List Char) :=
  match fuel with
  | 0 => some text
  | fuel + 1 =>
    match skipBlanks text with
    | '#' :: rest => (newline? (rest.dropWhile isCommentChar)).bind (skipLines fuel)
    | '\r' :: rest => (newline? ('\r' :: rest)).bind (skipLines fuel)
    | '\n' :: rest => skipLines fuel rest
    | text => some text

/-- Reads exactly `count` hexadecimal digits. -/
def hexDigits : Nat → Reader (List Nat)
  | 0, text => some ([], text)
  | _ + 1, [] => none
  | count + 1, c :: rest => do
    let digit ← Hex.value? c
    let (digits, rest) ← hexDigits count rest
    return (digit :: digits, rest)

/-- The character of a code point that is no surrogate. -/
def scalar? (code : Nat) : Option Char :=
  if code < 0xD800 || (0xE000 ≤ code && code < 0x110000) then some (Char.ofNat code) else none

/-- Reads an escape after its backslash. -/
def escape : Reader Char
  | 'b' :: rest => some ('\x08', rest)
  | 't' :: rest => some ('\t', rest)
  | 'n' :: rest => some ('\n', rest)
  | 'f' :: rest => some ('\x0C', rest)
  | 'r' :: rest => some ('\r', rest)
  | '"' :: rest => some ('"', rest)
  | '\\' :: rest => some ('\\', rest)
  | 'u' :: rest => do
    let (digits, rest) ← hexDigits 4 rest
    return (← scalar? (Hex.ofDigits 16 digits), rest)
  | 'U' :: rest => do
    let (digits, rest) ← hexDigits 8 rest
    return (← scalar? (Hex.ofDigits 16 digits), rest)
  | _ => none

/-- Reads a one-line string up to its closing quote, escapes undone. -/
def basicString (fuel : Nat) : Reader (List Char)
  | [] => none
  | '"' :: rest => some ([], rest)
  | c :: rest =>
    match fuel with
    | 0 => none
    | fuel + 1 => do
      let (c, rest) ← if c == '\\' then escape rest
        else if isCommentChar c then some (c, rest) else none
      let (text, rest) ← basicString fuel rest
      return (c :: text, rest)

/-- Reads a one-line string in which nothing is escaped. -/
def literalString : Reader (List Char)
  | [] => none
  | '\'' :: rest => some ([], rest)
  | c :: rest =>
    if isCommentChar c then (literalString rest).map fun (text, rest) => (c :: text, rest) else none

/-- Reads the end of a string in triple quotes, at most two quotes more belonging to the text. -/
def closing? (quote : Char) : List Char → Option (List Char × List Char)
  | a :: b :: c :: rest =>
    if a == quote && b == quote && c == quote then
      match rest with
      | d :: e :: rest' =>
        if d == quote && e == quote then some ([quote, quote], rest')
        else if d == quote then some ([quote], e :: rest') else some ([], rest)
      | [d] => if d == quote then some ([quote], []) else some ([], rest)
      | [] => some ([], [])
    else none
  | _ => none

/-- A line end that a backslash takes out, with all white space after it. -/
def foldedLine? (text : List Char) : Option (List Char) :=
  (newline? (skipBlanks text)).map dropSpace
where
  dropSpace : List Char → List Char
    | '\r' :: '\n' :: rest => dropSpace rest
    | c :: rest => if isBlank c || c == '\n' then dropSpace rest else c :: rest
    | [] => []

/-- Reads a string in triple quotes, escapes undone. -/
def longString (fuel : Nat) (text : List Char) : Option (List Char × List Char) :=
  match closing? '"' text with
  | some found => some found
  | none =>
    match fuel with
    | 0 => none
    | fuel + 1 =>
      match text with
      | [] => none
      | '\\' :: rest =>
        match foldedLine? rest with
        | some rest => longString fuel rest
        | none => do
          let (c, rest) ← escape rest
          let (text, rest) ← longString fuel rest
          return (c :: text, rest)
      | c :: rest =>
        match newline? (c :: rest) with
        | some rest => (longString fuel rest).map fun (text, rest) => ('\n' :: text, rest)
        | none =>
          if isCommentChar c then
            (longString fuel rest).map fun (text, rest) => (c :: text, rest)
          else none

/-- Reads a string in triple quotes in which nothing is escaped. -/
def longLiteral (fuel : Nat) (text : List Char) : Option (List Char × List Char) :=
  match closing? '\'' text with
  | some found => some found
  | none =>
    match fuel with
    | 0 => none
    | fuel + 1 =>
      match text with
      | [] => none
      | c :: rest =>
        match newline? (c :: rest) with
        | some rest => (longLiteral fuel rest).map fun (text, rest) => ('\n' :: text, rest)
        | none =>
          if isCommentChar c then
            (longLiteral fuel rest).map fun (text, rest) => (c :: text, rest)
          else none

/-- The first line end of a string in triple quotes is not part of it. -/
def dropFirstNewline (text : List Char) : List Char := (newline? text).getD text

/-- Reads a string of any of the four kinds. -/
def string? : Reader String
  | '"' :: '"' :: '"' :: rest =>
    (longString rest.length (dropFirstNewline rest)).map fun (text, rest) =>
      (String.ofList text, rest)
  | '"' :: rest => (basicString rest.length rest).map fun (text, rest) => (String.ofList text, rest)
  | '\'' :: '\'' :: '\'' :: rest =>
    (longLiteral rest.length (dropFirstNewline rest)).map fun (text, rest) =>
      (String.ofList text, rest)
  | '\'' :: rest => (literalString rest).map fun (text, rest) => (String.ofList text, rest)
  | _ => none

def isBareKeyChar (c : Char) : Bool := c.isAlphanum || c == '_' || c == '-'

/-- Reads one part of a key: bare, or a one-line string. -/
def keyPart : Reader String
  | '"' :: rest => (basicString rest.length rest).map fun (text, rest) => (String.ofList text, rest)
  | '\'' :: rest => (literalString rest).map fun (text, rest) => (String.ofList text, rest)
  | text =>
    let (part, rest) := text.span isBareKeyChar
    if part.isEmpty then none else some (String.ofList part, rest)

/-- How deep arrays and tables may nest, and how many parts a key may have. -/
def nestingLimit : Nat := 80

/-- Reads the parts of a dotted key, with blanks around the dots. -/
def keyParts : Nat → Reader (List String)
  | 0, _ => none
  | fuel + 1, text => do
    let (part, rest) ← keyPart (skipBlanks text)
    match skipBlanks rest with
    | '.' :: rest =>
      let (parts, rest) ← keyParts fuel rest
      return (part :: parts, rest)
    | rest => return ([part], rest)

def key : Reader (List String) := keyParts (nestingLimit - 1)

/-- Reads a run of digits in which single underscores may stand between two digits. -/
def digitRun (isDigit : Char → Bool) (text : List Char) : Option (List Char × List Char) :=
  match text with
  | c :: rest => if isDigit c then some (more c rest) else none
  | [] => none
where
  more (digit : Char) : List Char → List Char × List Char
    | '_' :: d :: rest =>
      if isDigit d then let (digits, rest) := more d rest; (digit :: digits, rest)
      else ([digit], '_' :: d :: rest)
    | d :: rest =>
      if isDigit d then let (digits, rest) := more d rest; (digit :: digits, rest)
      else ([digit], d :: rest)
    | [] => ([digit], [])

/-- The number that digits spell. -/
def number (base : Nat) (digits : List Char) : Nat :=
  Hex.ofDigits base (digits.filterMap Hex.value?)

/-- An integer must fit in sixty-four bits, one of them the sign. -/
def bounded? (number : Int) : Option Int :=
  if -0x8000000000000000 ≤ number ∧ number ≤ 0x7FFFFFFFFFFFFFFF then some number else none

def isDecimal (c : Char) : Bool := '0' ≤ c && c ≤ '9'

/-- A sign, if there is one; whether it is a minus. -/
def sign : List Char → Bool × List Char
  | '-' :: rest => (true, rest)
  | '+' :: rest => (false, rest)
  | text => (false, text)

/-- Reads decimal digits without a leading zero. -/
def plainDigits (text : List Char) : Option (List Char × List Char) :=
  match text with
  | '0' :: rest => some (['0'], rest)
  | text => digitRun isDecimal text

/-- Reads an integer of base 16, 8, 2 or 10. Only a decimal one may have a sign. -/
def integer : Reader Value
  | '0' :: 'x' :: rest => based 16 (fun c => (Hex.value? c).isSome) rest
  | '0' :: 'o' :: rest => based 8 (fun c => '0' ≤ c && c ≤ '7') rest
  | '0' :: 'b' :: rest => based 2 (fun c => c == '0' || c == '1') rest
  | text => do
    let (negative, rest) := sign text
    let (digits, rest) ← plainDigits rest
    let magnitude : Int := number 10 digits
    return (.integer (← bounded? (if negative then -magnitude else magnitude)), rest)
where
  based (base : Nat) (isDigit : Char → Bool) (text : List Char) :
      Option (Value × List Char) := do
    let (digits, rest) ← digitRun isDigit text
    return (.integer (← bounded? (number base digits)), rest)

/-- Reads `e`, a sign and digits, if they are there. -/
def exponent? : List Char → Option (Int × List Char)
  | c :: rest =>
    if c == 'e' || c == 'E' then do
      let (negative, rest) := sign rest
      let (digits, rest) ← digitRun isDecimal rest
      let magnitude : Int := number 10 digits
      return (if negative then -magnitude else magnitude, rest)
    else none
  | [] => none

/-- Whether `mantissa * 10 ^ power` rounds to a finite number of double precision. Only where its
decimal places leave that open is it computed. -/
def isFinite (mantissa : Nat) (power : Int) : Bool :=
  let order : Int := (Nat.toDigits 10 mantissa).length + power
  mantissa == 0 || order ≤ 308 ||
    (order ≤ 310 &&
      mantissa * tenTo power.toNat < (twoTo 1024 - twoTo 970) * tenTo (-power).toNat)

/-- Reads a float: decimal digits, then a fraction, an exponent or both; or one of the words for
infinity and not-a-number. -/
def float (text : List Char) : Option (Value × List Char) :=
  let (negative, unsigned) := sign text
  let taken (rest : List Char) := String.ofList (text.take (text.length - rest.length))
  match unsigned with
  | 'i' :: 'n' :: 'f' :: rest => some (.float (taken rest), rest)
  | 'n' :: 'a' :: 'n' :: rest => some (.float (taken rest), rest)
  | _ => do
    let (whole, rest) ← plainDigits unsigned
    let (fraction, rest, marked) ← match rest with
      | '.' :: rest => (digitRun isDecimal rest).map fun (digits, rest) => (digits, rest, true)
      | rest => some ([], rest, false)
    let (power, rest, marked) ← match exponent? rest with
      | some (power, rest) => some (power, rest, true)
      | none => some (0, rest, marked)
    if marked && (negative || isFinite (number 10 (whole ++ fraction)) (power - fraction.length))
    then some (.float (taken rest), rest)
    else none

/-- Reads `count` decimal digits as a number within bounds. -/
def fixedNumber (count : Nat) (low high : Nat) (text : List Char) : Option (Nat × List Char) :=
  let digits := text.take count
  if digits.length == count && digits.all isDecimal &&
      low ≤ number 10 digits && number 10 digits ≤ high then
    some (number 10 digits, text.drop count)
  else none

/-- What follows a given character. -/
def after? (c : Char) : List Char → Option (List Char)
  | d :: rest => if d == c then some rest else none
  | [] => none

/-- Reads a date of the calendar. -/
def date? (text : List Char) : Option (List Char × List Char) := do
  let (year, rest) ← fixedNumber 4 0 9999 text
  let (month, rest) ← fixedNumber 2 1 12 (← after? '-' rest)
  let (_, rest) ← fixedNumber 2 1 (Date.daysInMonth year month) (← after? '-' rest)
  return (text.take 10, rest)

/-- The fraction of a second in its shortest spelling; digits past the ninth do not count. -/
def shortFraction (digits : List Char) : List Char :=
  match ((digits.take 9).reverse.dropWhile (· == '0')).reverse with
  | [] => []
  | digits => '.' :: digits

/-- Reads a time of day. -/
def time? (text : List Char) : Option (List Char × List Char) := do
  let (_, rest) ← fixedNumber 2 0 23 text
  let (_, rest) ← fixedNumber 2 0 59 (← after? ':' rest)
  let (_, rest) ← fixedNumber 2 0 60 (← after? ':' rest)
  match rest with
  | '.' :: c :: more =>
    if isDecimal c then
      return (text.take 8 ++ shortFraction ((c :: more).takeWhile isDecimal),
        more.dropWhile isDecimal)
    else return (text.take 8, rest)
  | _ => return (text.take 8, rest)

/-- Reads an offset from UTC, if there is one. -/
def utcOffset (text : List Char) : List Char × List Char :=
  match text with
  | 'Z' :: rest => (['Z'], rest)
  | 'z' :: rest => (['Z'], rest)
  | c :: rest =>
    if c == '+' || c == '-' then
      (do
        let (hours, after) ← fixedNumber 2 0 23 rest
        let (minutes, after) ← fixedNumber 2 0 59 (← after? ':' after)
        return ((if hours + minutes == 0 then '+' else c) :: rest.take 5, after)).getD ([], text)
    else ([], text)
  | [] => ([], [])

/-- Reads a date, a date with a time and perhaps an offset, or a time of day. -/
def datetime (text : List Char) : Option (Value × List Char) := do
  let (literal, rest) ← match date? text with
    | some (date, rest) =>
      match rest with
      | c :: clock =>
        if c == 'T' || c == 't' || c == ' ' then
          match time? clock with
          | some (time, rest) =>
            let (offset, rest) := utcOffset rest
            some (date ++ 'T' :: time ++ offset, rest)
          | none => some (date, rest)
        else some (date, rest)
      | [] => some (date, [])
    | none => time? text
  return (.datetime (String.ofList literal), rest)

end OfflineSite.Toml
