namespace OfflineSite.Toml

inductive Value where
  | string (text : String)
  | integer (number : Int)
  /-- A float, as it was spelled. -/
  | float (literal : String)
  | boolean (truth : Bool)
  /-- A date, a time of day or both, in its shortest spelling. -/
  | datetime (literal : String)
  | array (items : List Value)
  | table (entries : List (String × Value))
  deriving Inhabited, Repr

/-- A table keeps its keys in order of first appearance. -/
abbrev Table := List (String × Value)

end OfflineSite.Toml
