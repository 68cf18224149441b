namespace OfflineSite.Http

/-- Two field names that differ only in the case of ASCII letters name the same field. -/
def sameName (name : String) (other : String) : Bool :=
  name.toList.map Char.toLower == other.toList.map Char.toLower

/-- The characters of a token, from which methods and field names are made. -/
def isTokenChar (c : Char) : Bool :=
  c.isAlphanum || "!#$%&'*+-.^_\x60|~".toList.contains c

/-- The bytes a field value may hold: all but control characters, a tab excepted. -/
def isValueByte (b : UInt8) : Bool := b == 9 || (b ≥ 32 && b != 127)

/-- The bytes a field value may hold to be read as text: printable ASCII and tab. -/
def isTextByte (b : UInt8) : Bool := b == 9 || (b ≥ 32 && b < 127)

/-- The most characters that a field name may have. -/
def nameLimit : Nat := 65535

/-- A name with its ASCII letters in lower case. -/
def lowered (name : String) : String := String.ofList (name.toList.map Char.toLower)

/-- A field name in the form in which it is sent, if it is one. -/
def fieldName? (name : String) : Option String :=
  if !name.isEmpty && name.toList.all isTokenChar && name.length ≤ nameLimit then
    some (lowered name)
  else none

/-- A text as a field value, if it is one. -/
def fieldValue? (value : String) : Option ByteArray :=
  if value.toUTF8.toList.all isValueByte then some value.toUTF8 else none

/-- A field value as text; values with bytes outside printable ASCII have none. -/
def fieldText? (value : ByteArray) : Option String :=
  if value.toList.all isTextByte then String.fromUTF8? value else none

/-- Header fields, in order of arrival; a name may come more than once. -/
abbrev Fields := List (String × ByteArray)

namespace Fields

/-- The first value of a field whose name is given in lower case. -/
def get? (fields : Fields) (name : String) : Option ByteArray :=
  (fields.find? (·.1 == name)).map (·.2)

def contains (fields : Fields) (name : String) : Bool := fields.any (·.1 == name)

/-- The fields with those of one name brought together, names in order of first appearance. -/
def grouped (fields : Fields) : Fields :=
  (fields.map (·.1)).eraseDups.flatMap fun name => fields.filter (·.1 == name)

/-- The fields sorted by name; those of one name keep their order. -/
def sorted (fields : Fields) : Fields :=
  fields.mergeSort fun x y => compare x.1 y.1 != .gt

end Fields

end OfflineSite.Http
