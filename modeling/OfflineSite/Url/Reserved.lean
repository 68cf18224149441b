import OfflineSite.Text.Percent

namespace OfflineSite.Url

/-- What every part of a URL writes as an escape: control characters, and all that is not ASCII. -/
def isControl (c : Char) : Bool := c.toNat < 0x20 || c.toNat ≥ 0x7F

def isReservedInQuery (c : Char) : Bool := isControl c || " \"#<>".toList.contains c

def isReservedInSpecialQuery (c : Char) : Bool := isReservedInQuery c || c == '\''

def isReservedInFragment (c : Char) : Bool := isControl c || " \"<>\x60".toList.contains c

def isReservedInPath (c : Char) : Bool := isReservedInFragment c || "#?\x7b\x7d".toList.contains c

def isReservedInUserinfo (c : Char) : Bool := isReservedInPath c || "/:;=@[\\]^|".toList.contains c

/-- Escapes the reserved characters of a text. -/
def escaped (reserved : Char → Bool) (text : List Char) : String :=
  String.ofList (Percent.encode reserved text)

end OfflineSite.Url
