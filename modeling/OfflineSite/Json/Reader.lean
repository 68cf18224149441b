import OfflineSite.Json.Failure
import OfflineSite.Number.Binary64
import OfflineSite.Text.Hex
import OfflineSite.Text.Utf8

namespace OfflineSite.Json

/-- Reads something off the front of a text. Values that are not needed are read byte by byte all
the same, so that a fault is found at the same place. -/
abbrev Reader (α : Type) := List UInt8 → Except Mistake (α × List UInt8)

/-- A fault found after the bytes that were read. -/
def faultAt {α : Type} (rest : List UInt8) (fault : Fault) : Except Mistake α :=
  .error ⟨fault, some rest.length⟩

/-- A fault that the next byte shows. -/
def faultAtNext {α : Type} (rest : List UInt8) (fault : Fault) : Except Mistake α :=
  .error ⟨fault, some (rest.length - 1)⟩

/-- The byte of an ASCII character. -/
def byte (c : Char) : UInt8 := c.toUInt8

def isBlank (b : UInt8) : Bool := b == 32 || b == 10 || b == 9 || b == 13

def skipBlanks : List UInt8 → List UInt8 := List.dropWhile isBlank

def isDigit (b : UInt8) : Bool := 48 ≤ b && b ≤ 57

/-- Reads the letters that a word still needs. -/
def word : List UInt8 → Reader Unit
  | [], rest => .ok ((), rest)
  | _ :: _, [] => faultAt [] .endInValue
  | letter :: letters, b :: rest =>
    if b = letter then word letters rest else faultAt rest .expectedIdent

/-- A number as it was written: an integer of at most 64 bits, or any other number. -/
inductive Number where
  | integer (value : Int)
  | float (negative : Bool) (value : Binary64)

def Number.text : Number → String
  | integer value => s!"integer \x60{value}\x60"
  | float negative value =>
    let sign := if negative then "-" else ""
    s!"floating point \x60{sign}{value.text}\x60"

/-- The number with some digits and a power of ten, as double precision has it. -/
def floatOf (negative : Bool) (significand : Nat) (power : Int) : Reader Number :=
  fun rest =>
    match (Binary64.ofFraction? significand 1).bind (·.scale? power) with
    | some value => .ok (.float negative value, rest)
    | none => faultAt rest .numberOutOfRange

/-- The largest number that digits are gathered into; digits past it only count. -/
def largest : Nat := 0xFFFFFFFFFFFFFFFF

/-- Gathers digits as long as the number stays within bounds. -/
def gather (total : Nat) : List UInt8 → Nat × Nat × List UInt8
  | [] => (total, 0, [])
  | b :: rest =>
    if isDigit b && total * 10 + (b.toNat - 48) ≤ largest then
      let (total, count, rest) := gather (total * 10 + (b.toNat - 48)) rest
      (total, count + 1, rest)
    else (total, 0, b :: rest)

/-- Gathers the digits of an exponent. None is given where it is past all bounds, with the digits
that are left. -/
def gatherExponent (total : Nat) : List UInt8 → Option Nat × List UInt8
  | [] => (some total, [])
  | b :: rest =>
    if isDigit b then
      if total * 10 + (b.toNat - 48) ≤ 0x7FFFFFFF then
        gatherExponent (total * 10 + (b.toNat - 48)) rest
      else (none, rest)
    else (some total, b :: rest)

/-- Reads an exponent after its letter. -/
def exponent (negative : Bool) (significand : Nat) (power : Int) : Reader Number := fun text =>
  let (down, text) := match text with
    | b :: rest => if b = byte '+' then (false, rest) else if b = byte '-' then (true, rest)
      else (false, b :: rest)
    | [] => (false, [])
  match text with
  | [] => faultAt [] .endInValue
  | b :: rest =>
    if isDigit b then
      match gatherExponent (b.toNat - 48) rest with
      | (some n, rest) =>
        floatOf negative significand (if down then power - n else power + n) rest
      | (none, rest) =>
        if significand != 0 && !down then faultAt rest .numberOutOfRange
        else .ok (.float negative .zero, rest.dropWhile isDigit)
    else faultAt rest .invalidNumber

/-- Reads an exponent if there is one. -/
def exponent? (negative : Bool) (significand : Nat) (power : Int) : Reader Number := fun text =>
  match text with
  | b :: rest =>
    if b = byte 'e' || b = byte 'E' then exponent negative significand power rest
    else floatOf negative significand power text
  | [] => floatOf negative significand power []

/-- Reads the digits after a point. -/
def decimals (negative : Bool) (significand : Nat) (power : Int) : Reader Number := fun text =>
  let (total, count, rest) := gather significand text
  match rest with
  | b :: _ =>
    if isDigit b then exponent? negative total (power - count) (rest.dropWhile isDigit)
    else if count = 0 then faultAtNext rest .invalidNumber
    else exponent? negative total (power - count) rest
  | [] =>
    if count = 0 then faultAtNext [] .endInValue
    else exponent? negative total (power - count) []

/-- Reads what may follow the digits of a whole number. A number too large for 64 bits becomes one
of double precision, as do all with a point or exponent. -/
def afterDigits (negative : Bool) (significand : Nat) (dropped : Option Nat) : Reader Number :=
  fun text =>
    let power : Int := dropped.getD 0
    let plain : Except Mistake (Number × List UInt8) :=
      if dropped.isSome then floatOf negative significand power text
      else if !negative then .ok (.integer significand, text)
      else if significand = 0 || significand > 0x8000000000000000 then
        floatOf true significand 0 text
      else .ok (.integer (-significand), text)
    match text with
    | b :: rest =>
      if b = byte '.' then decimals negative significand power rest
      else if b = byte 'e' || b = byte 'E' then exponent negative significand power rest
      else plain
    | [] => plain

/-- Reads a number after its sign. A zero in front stands alone. -/
def number (negative : Bool) : Reader Number
  | [] => faultAt [] .endInValue
  | b :: rest =>
    if b = byte '0' then
      if rest.head?.any isDigit then faultAtNext rest .invalidNumber
      else afterDigits negative 0 none rest
    else if isDigit b then
      let (total, _, rest) := gather (b.toNat - 48) rest
      let more := rest.takeWhile isDigit
      afterDigits negative total (if more.isEmpty then none else some more.length)
        (rest.drop more.length)
    else faultAt rest .invalidNumber

/-- Reads four hexadecimal digits. -/
def hexDigits : Reader Nat
  | a :: b :: c :: d :: rest =>
    match [a, b, c, d].mapM fun b => Hex.value? (Char.ofNat b.toNat) with
    | some digits => .ok (Hex.ofDigits 16 digits, rest)
    | none => faultAt rest .invalidEscape
  | _ => faultAt [] .endInString

/-- Reads one byte that must come next. -/
def expectByte (expected : UInt8) : Reader Unit
  | [] => faultAt [] .endInString
  | b :: rest => if b = expected then .ok ((), rest) else faultAt rest .endOfHexEscape

/-- Reads a character given by its number, two numbers standing for one past U+FFFF. -/
def unicodeEscape : Reader Char := fun text => do
  let (n, rest) ← hexDigits text
  if 0xDC00 ≤ n ∧ n ≤ 0xDFFF then faultAt rest .loneSurrogate
  else if n < 0xD800 ∨ 0xDBFF < n then return (Char.ofNat n, rest)
  else
    let (_, rest) ← expectByte (byte '\\') rest
    let (_, rest) ← expectByte (byte 'u') rest
    let (low, rest) ← hexDigits rest
    if low < 0xDC00 ∨ 0xDFFF < low then faultAt rest .loneSurrogate
    else return (Char.ofNat (0x10000 + (n - 0xD800) * 0x400 + (low - 0xDC00)), rest)

/-- Reads an escape after its backslash. -/
def escape : Reader Char
  | [] => faultAt [] .endInString
  | b :: rest =>
    match Char.ofNat b.toNat with
    | '"' => .ok ('"', rest)
    | '\\' => .ok ('\\', rest)
    | '/' => .ok ('/', rest)
    | 'b' => .ok ('\x08', rest)
    | 'f' => .ok ('\x0C', rest)
    | 'n' => .ok ('\n', rest)
    | 'r' => .ok ('\r', rest)
    | 't' => .ok ('\t', rest)
    | 'u' => unicodeEscape rest
    | _ => faultAt rest .invalidEscape

/-- Reads the bytes of a string up to its closing quote, escapes undone. -/
def stringBytes : Nat → Reader (List UInt8)
  | 0, text => faultAt text .endInString
  | _, [] => faultAt [] .endInString
  | fuel + 1, b :: rest =>
    if b = byte '"' then .ok ([], rest)
    else if b = byte '\\' then do
      let (c, rest) ← escape rest
      let (bytes, rest) ← stringBytes fuel rest
      return (String.utf8EncodeChar c ++ bytes, rest)
    else if b < 32 then faultAt rest .controlCharacter
    else do
      let (bytes, rest) ← stringBytes fuel rest
      return (b :: bytes, rest)

/-- Reads a string after its opening quote. Bytes that are not UTF-8 are found once it is read, and
reported where they stand. -/
def string : Reader String := fun text => do
  let (bytes, rest) ← stringBytes (text.length + 1) text
  match Utf8.decode? bytes with
  | some chars => return (String.ofList chars, rest)
  | none => faultAtNext (text.drop (Utf8.validLength text)) .invalidCodePoint

/-- Reads the colon after a key. -/
def colon : Reader Unit := fun text =>
  match skipBlanks text with
  | [] => faultAtNext [] .endInObject
  | b :: rest =>
    if b = byte ':' then .ok ((), rest) else faultAtNext (b :: rest) .expectedColon

/-- Moves to the next item of a list; there is none before the bracket. -/
def nextItem (first : Bool) : Reader Bool := fun text =>
  match skipBlanks text with
  | [] => faultAtNext [] .endInList
  | b :: rest =>
    if b = byte ']' then .ok (false, b :: rest)
    else if first then .ok (true, b :: rest)
    else if b = byte ',' then
      match skipBlanks rest with
      | [] => faultAtNext [] .endInValue
      | c :: rest =>
        if c = byte ']' then faultAtNext (c :: rest) .trailingComma else .ok (true, c :: rest)
    else faultAtNext (b :: rest) .expectedCommaOrBracket

/-- Moves to the next key of an object; there is none before the brace. -/
def nextKey (first : Bool) : Reader Bool := fun text =>
  match skipBlanks text with
  | [] => faultAtNext [] .endInObject
  | b :: rest =>
    if b = byte '\x7d' then .ok (false, b :: rest)
    else if first then
      if b = byte '"' then .ok (true, b :: rest) else faultAtNext (b :: rest) .keyNotString
    else if b = byte ',' then
      match skipBlanks rest with
      | [] => faultAtNext [] .endInValue
      | c :: rest =>
        if c = byte '"' then .ok (true, c :: rest)
        else if c = byte '\x7d' then faultAtNext (c :: rest) .trailingComma
        else faultAtNext (c :: rest) .keyNotString
    else faultAtNext (b :: rest) .expectedCommaOrBrace

/-- Reads the items of a list and its bracket. How many there were is the result. -/
def items (item : Reader Unit) : Nat → Bool → Reader Nat
  | 0, _, text => faultAt text .endInList
  | fuel + 1, first, text => do
    let (more, rest) ← nextItem first text
    if more then
      let (_, rest) ← item rest
      let (count, rest) ← items item fuel false rest
      return (count + 1, rest)
    else return (0, rest.tail)

/-- Reads the entries of an object and its brace. -/
def entries (item : Reader Unit) : Nat → Bool → Reader Unit
  | 0, _, text => faultAt text .endInObject
  | fuel + 1, first, text => do
    let (more, rest) ← nextKey first text
    if more then
      let (_, rest) ← string rest.tail
      let (_, rest) ← colon rest
      let (_, rest) ← item rest
      entries item fuel false rest
    else return ((), rest.tail)

/-- Reads a value; `depth` bounds how deep lists and objects nest. -/
def value : Nat → Reader Unit
  | depth, text =>
    match skipBlanks text with
    | [] => faultAtNext [] .endInValue
    | b :: rest =>
      match Char.ofNat b.toNat with
      | 'n' => word [byte 'u', byte 'l', byte 'l'] rest
      | 't' => word [byte 'r', byte 'u', byte 'e'] rest
      | 'f' => word [byte 'a', byte 'l', byte 's', byte 'e'] rest
      | '"' => (string rest).map fun (_, rest) => ((), rest)
      | '-' => (number true rest).map fun (_, rest) => ((), rest)
      | '[' =>
        match depth with
        | 0 => faultAtNext (b :: rest) .recursionLimit
        | depth + 1 =>
          (items (value depth) (rest.length + 1) true rest).map fun (_, rest) => ((), rest)
      | '\x7b' =>
        match depth with
        | 0 => faultAtNext (b :: rest) .recursionLimit
        | depth + 1 => entries (value depth) (rest.length + 1) true rest
      | _ =>
        if isDigit b then (number false (b :: rest)).map fun (_, rest) => ((), rest)
        else faultAtNext (b :: rest) .expectedValue

end OfflineSite.Json
