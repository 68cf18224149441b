import OfflineSite.Json.Literal
import OfflineSite.Json.Reader
import OfflineSite.Text.Debug

namespace OfflineSite

/-- What a page may send to the worker. -/
inductive ControlMessage where
  /-- Activate instead of waiting. -/
  | skipWaiting
  /-- Delete the current store. -/
  | clearCache
  deriving Repr, DecidableEq

namespace ControlMessage

open Json

/-- The name by which a message is sent. -/
def tag : ControlMessage → String
  | skipWaiting => "SKIP_WAITING"
  | clearCache => "CLEAR_CACHE"

/-- The name by which a message is logged. -/
def name : ControlMessage → String
  | skipWaiting => "SkipWaiting"
  | clearCache => "ClearCache"

/-- The message as JSON. -/
def json (message : ControlMessage) : String :=
  "\x7b\"type\":" ++ literal message.tag ++ "\x7d"

def ofTag? (text : String) : Option ControlMessage :=
  if text = skipWaiting.tag then some skipWaiting
  else if text = clearCache.tag then some clearCache
  else none

/-- What a value is that is not of the kind that was asked for. -/
def unexpected (found expected : String) : Fault :=
  .data s!"invalid type: {found}, expected {expected}"

def unknown (text : String) : Fault :=
  .data <| s!"unknown variant \x60{text}\x60, expected \x60{skipWaiting.tag}\x60" ++
    s!" or \x60{clearCache.tag}\x60"

def missingType : Fault := .data "missing field \x60type\x60"

def duplicateType : Fault := .data "duplicate field \x60type\x60"

def tooLong (count : Nat) : Fault :=
  .data s!"invalid length {count}, expected 0 elements in sequence"

/-- Reads a value of the wrong kind, and says what it is. A list or object is not entered. -/
def describe : Reader String := fun text =>
  match text with
  | [] => faultAtNext [] .endInValue
  | b :: rest =>
    match Char.ofNat b.toNat with
    | 'n' => (word [byte 'u', byte 'l', byte 'l'] rest).map fun (_, rest) => ("null", rest)
    | 't' =>
      (word [byte 'r', byte 'u', byte 'e'] rest).map fun (_, rest) => ("boolean \x60true\x60", rest)
    | 'f' =>
      (word [byte 'a', byte 'l', byte 's', byte 'e'] rest).map fun (_, rest) =>
        ("boolean \x60false\x60", rest)
    | '"' => (string rest).map fun (text, rest) => ("string " ++ shown text, rest)
    | '-' => (number true rest).map fun (n, rest) => (n.text, rest)
    | '[' => .ok ("sequence", b :: rest)
    | '\x7b' => .ok ("map", b :: rest)
    | _ =>
      if isDigit b then (number false (b :: rest)).map fun (n, rest) => (n.text, rest)
      else faultAtNext (b :: rest) .expectedValue

/-- Reads the name of a message. -/
def readTag : Reader ControlMessage := fun text =>
  match skipBlanks text with
  | [] => faultAtNext [] .endInValue
  | b :: rest =>
    if b = byte '"' then do
      let (text, rest) ← string rest
      match ofTag? text with
      | some message => return (message, rest)
      | none => faultAt rest (unknown text)
    else do
      let (found, rest) ← describe (b :: rest)
      faultAt rest (unexpected found "variant identifier")

/-- How deep lists and objects may nest inside a message. -/
def nestingLimit : Nat := 126

/-- What follows a fault in the data of an object that has no place of its own: blanks, and the
brace if it comes next. -/
def pastBrace (text : List UInt8) : List UInt8 :=
  match skipBlanks text with
  | b :: rest => if b = byte '\x7d' then rest else b :: rest
  | [] => []

/-- Reads the members of an object and its brace. Members other than the type must be values and
are dropped. -/
def members : Nat → Bool → Option ControlMessage → Reader ControlMessage
  | 0, _, _, text => faultAt text .endInObject
  | fuel + 1, first, found, text => do
    let (more, rest) ← nextKey first text
    if more then
      let (key, rest) ← string rest.tail
      if key = "type" then
        if found.isSome then faultAt (pastBrace rest) duplicateType
        else
          let (_, rest) ← colon rest
          let (message, rest) ← readTag rest
          members fuel false (some message) rest
      else
        let (_, rest) ← colon rest
        let (_, rest) ← value nestingLimit rest
        members fuel false found rest
    else match found with
      | some message => return (message, rest.tail)
      | none => faultAt rest.tail missingType

/-- Reads the items of a list and its bracket: the name of a message, and nothing more. -/
def listItems : Reader ControlMessage := fun text => do
  let (more, rest) ← nextItem true text
  if more then
    let (message, rest) ← readTag rest
    let (count, rest) ← items (value nestingLimit) (rest.length + 1) false rest
    if count = 0 then return (message, rest) else .error ⟨tooLong count, none⟩
  else faultAt rest.tail missingType

/-- Reads a message. -/
def read : Reader ControlMessage := fun text =>
  match skipBlanks text with
  | [] => faultAtNext [] .endInValue
  | b :: rest =>
    if b = byte '\x7b' then members (rest.length + 1) true none rest
    else if b = byte '[' then listItems rest
    else do
      let (found, rest) ← describe (b :: rest)
      faultAt rest (unexpected found "internally tagged enum ControlMessage")

/-- Reads a text that holds a message and nothing else. -/
def readAll (text : List UInt8) : Except Mistake ControlMessage := do
  let (message, rest) ← read text
  if (skipBlanks rest).isEmpty then return message
  else .error ⟨.trailingCharacters, some ((skipBlanks rest).length - 1)⟩

/-- Reads a message from the bytes that were sent. -/
def parse (raw : ByteArray) : Except Failure ControlMessage :=
  (readAll raw.data.toList).mapError (·.inText raw.data.toList)

end ControlMessage

end OfflineSite
