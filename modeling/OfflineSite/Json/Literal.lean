import OfflineSite.Text.Hex

namespace OfflineSite.Json

/-- A character as it stands in a string literal. Only quotes, backslashes and control characters
are escaped. -/
def literalChar (c : Char) : List Char :=
  if c = '"' then ['\\', '"']
  else if c = '\\' then ['\\', '\\']
  else if c = '\x08' then ['\\', 'b']
  else if c = '\x0C' then ['\\', 'f']
  else if c = '\n' then ['\\', 'n']
  else if c = '\r' then ['\\', 'r']
  else if c = '\t' then ['\\', 't']
  else if c.toNat < 32 then
    ['\\', 'u', '0', '0', Hex.lower (c.toNat / 16), Hex.lower (c.toNat % 16)]
  else [c]

/-- A string literal. -/
def literal (text : String) : String :=
  String.ofList ('"' :: text.toList.flatMap literalChar ++ ['"'])

/-- A list of string literals. -/
def listLiteral (texts : List String) : String :=
  "[" ++ String.intercalate "," (texts.map literal) ++ "]"

end OfflineSite.Json
