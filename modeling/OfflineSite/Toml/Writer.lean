import OfflineSite.Text.Hex
import OfflineSite.Toml.Value

namespace OfflineSite.Toml

/-- A control character as an escape of four digits. -/
def controlEscape (c : Char) : List Char :=
  ['\\', 'u', '0', '0', Hex.upper (c.toNat / 16), Hex.upper (c.toNat % 16)]

/-- A character as it stands in a quoted string. -/
def quotedChar (c : Char) : List Char :=
  if c = '"' then ['\\', '"']
  else if c = '\\' then ['\\', '\\']
  else if c.toNat < 32 ∨ c.toNat = 127 then controlEscape c
  else [c]

/-- A one-line string in quotes. -/
def quoted (text : String) : String :=
  String.ofList ('"' :: text.toList.flatMap quotedChar ++ ['"'])

/-- An array written on one line. -/
def inlineArray (items : List String) : String :=
  "[" ++ String.intercalate ", " items ++ "]"

/-- A line that gives a key its value. -/
def assignment (key : String) (value : String) : String :=
  key ++ " = " ++ value ++ "\n"

/-- The header of the next table of an array of tables. -/
def itemHeader (key : String) : String :=
  "[[" ++ key ++ "]]\n"

end OfflineSite.Toml
