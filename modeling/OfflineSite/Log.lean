namespace OfflineSite

inductive LogLevel where
  | error | warn | info | debug
  deriving Repr, DecidableEq

def LogLevel.name : LogLevel → String
  | .error => "ERROR"
  | .warn => "WARN"
  | .info => "INFO"
  | .debug => "DEBUG"

/-- Lower is graver. -/
def LogLevel.rank : LogLevel → Nat
  | .error => 0
  | .warn => 1
  | .info => 2
  | .debug => 3

/-- How many ranks of records a setting lets through. Without one, all but the last. -/
def LogLevel.ranksShown (setting : Option String) : Nat :=
  match setting with
  | none => 3
  | some "off" => 0
  | some "warn" => 2
  | some "info" => 3
  | some "debug" => 4
  | some "trace" => 4
  | some _ => 1

/-- A severity and a line of text. -/
structure LogRecord where
  level : LogLevel
  text : String
  deriving Repr, DecidableEq

end OfflineSite
