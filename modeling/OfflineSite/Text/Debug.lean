import OfflineSite.Unicode.Category

namespace OfflineSite

/-- Whether a character is shown by its number: it cannot be seen, or not by itself. -/
def isShownByNumber (c : Char) : Bool :=
  if c.toNat < 0x7F then c.toNat < 0x20 else Unicode.isUnseen c || Unicode.isExtender c

/-- A character as it is shown. -/
def shownChar (c : Char) : List Char :=
  if c = '"' then ['\\', '"']
  else if c = '\\' then ['\\', '\\']
  else if c = '\n' then ['\\', 'n']
  else if c = '\r' then ['\\', 'r']
  else if c = '\t' then ['\\', 't']
  else if c = '\x00' then ['\\', '0']
  else if isShownByNumber c then
    ['\\', 'u', '\x7b'] ++ Nat.toDigits 16 c.toNat ++ ['\x7d']
  else [c]

/-- A text in quotes. -/
def shown (text : String) : String :=
  String.ofList ('"' :: text.toList.flatMap shownChar ++ ['"'])

end OfflineSite
