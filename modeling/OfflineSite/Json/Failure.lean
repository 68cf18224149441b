namespace OfflineSite.Json

/-- What can be wrong with a JSON text. -/
inductive Fault where
  | endInValue
  | endInString
  | endInList
  | endInObject
  | expectedValue
  | expectedIdent
  | expectedColon
  | expectedCommaOrBrace
  | expectedCommaOrBracket
  | keyNotString
  | trailingComma
  | trailingCharacters
  | invalidEscape
  | invalidNumber
  | numberOutOfRange
  | invalidCodePoint
  | controlCharacter
  | loneSurrogate
  | endOfHexEscape
  | recursionLimit
  /-- The text is JSON, but not the data that was asked for. -/
  | data (text : String)
  deriving Repr, DecidableEq

def Fault.message : Fault → String
  | endInValue => "EOF while parsing a value"
  | endInString => "EOF while parsing a string"
  | endInList => "EOF while parsing a list"
  | endInObject => "EOF while parsing an object"
  | expectedValue => "expected value"
  | expectedIdent => "expected ident"
  | expectedColon => "expected \x60:\x60"
  | expectedCommaOrBrace => "expected \x60,\x60 or \x60\x7d\x60"
  | expectedCommaOrBracket => "expected \x60,\x60 or \x60]\x60"
  | keyNotString => "key must be a string"
  | trailingComma => "trailing comma"
  | trailingCharacters => "trailing characters"
  | invalidEscape => "invalid escape"
  | invalidNumber => "invalid number"
  | numberOutOfRange => "number out of range"
  | invalidCodePoint => "invalid unicode code point"
  | controlCharacter => "control character (\\u0000-\\u001F) found while parsing a string"
  | loneSurrogate => "lone leading surrogate in hex escape"
  | endOfHexEscape => "unexpected end of hex escape"
  | recursionLimit => "recursion limit exceeded"
  | data text => text

/-- A fault and how many bytes were left to read where it was found, if it has a place. -/
structure Mistake where
  fault : Fault
  left : Option Nat
  deriving Repr, DecidableEq

/-- A line, counted from one, and how many of its bytes were read. -/
structure Position where
  line : Nat
  column : Nat
  deriving Repr, DecidableEq

/-- The position after the bytes read so far. -/
def Position.after (read : List UInt8) : Position :=
  ⟨read.count 10 + 1, (read.reverse.takeWhile (· != 10)).length⟩

/-- A fault at its position in the text. -/
structure Failure where
  fault : Fault
  position : Option Position
  deriving Repr, DecidableEq

def Failure.message (failure : Failure) : String :=
  match failure.position with
  | some position =>
    s!"{failure.fault.message} at line {position.line} column {position.column}"
  | none => failure.fault.message

/-- The failure that a mistake in a text amounts to. -/
def Mistake.inText (mistake : Mistake) (text : List UInt8) : Failure :=
  ⟨mistake.fault, mistake.left.map fun left => .after (text.take (text.length - left))⟩

end OfflineSite.Json
