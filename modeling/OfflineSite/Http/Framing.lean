import OfflineSite.Http.Message
import OfflineSite.Text.Hex

namespace OfflineSite.Http

/-- The head of a message: the words of its first line, and its fields. -/
structure Head where
  first : List String
  fields : Fields

namespace Head

/-- The position after the first empty line, if it has arrived. What has arrived is looked at from
its start, so it may be asked for again when more has. -/
def size? (data : ByteArray) : Option Nat :=
  ((List.range (data.size - 3)).find? fun i =>
    (data.extract i (i + 4)).toList == [13, 10, 13, 10]).map (· + 4)

/-- Bytes without the blanks around them. -/
def trimmed (bytes : List UInt8) : List UInt8 :=
  let isBlank (b : UInt8) : Bool := b == 32 || b == 9
  ((bytes.dropWhile isBlank).reverse.dropWhile isBlank).reverse

def textOf? (bytes : List UInt8) : Option String := String.fromUTF8? ⟨bytes.toArray⟩

/-- Reads the line of a field. -/
def field? (line : List UInt8) : Option (String × ByteArray) := do
  let (name, value) ← Split.first? (· == 58) line
  return (← fieldName? (← textOf? name), ⟨(trimmed value).toArray⟩)

/-- Reads a head with the empty line at its end. -/
def parse? (data : ByteArray) : Option Head := do
  let lines := (Split.pieces (· == 10) (data.toList.filter (· != 13))).filter (!·.isEmpty)
  match lines with
  | first :: fields =>
    return ⟨← (Split.pieces (· == 32) first).mapM textOf?, ← fields.mapM field?⟩
  | [] => none

end Head

/-- How a message tells where its body ends. -/
inductive Extent where
  | length (size : Nat)
  /-- In chunks, each with its length in front, the last of them empty. -/
  | chunked
  /-- At the end of the connection. -/
  | closing
  deriving Repr, DecidableEq

/-- The number that some hexadecimal digits spell. -/
def chunkLength? (digits : List UInt8) : Option Nat := do
  let values ← digits.mapM fun b => Hex.value? (Char.ofNat b.toNat)
  if values.isEmpty then none else return Hex.ofDigits 16 values

/-- The chunks that begin at a position, and whether the last chunk is among them. -/
def chunks (data : ByteArray) (start : Nat) (body : ByteArray) : ByteArray × Bool :=
  let line := (List.range (min 64 (data.size - start))).map fun i => data.get! (start + i)
  match Split.first? (· == 10) line with
  | some (line, _) =>
    match chunkLength? (line.takeWhile fun b => b != 13 && b != 59 && b != 32) with
    | some 0 => (body, true)
    | some size =>
      let next := start + line.length + 1 + size + 2
      if start < next ∧ next ≤ data.size then
        chunks data next (body ++ data.extract (next - size - 2) (next - 2))
      else (body, false)
    | none => (body, false)
  | none => (body, false)
  termination_by data.size - start

/-- What of a body has arrived, and whether that is all of it as far as the message tells. -/
def Extent.body (extent : Extent) (data : ByteArray) : ByteArray × Bool :=
  match extent with
  | length size => (data.extract 0 size, size ≤ data.size)
  | chunked => chunks data 0 .empty
  | closing => (data, false)

/-- Where the body ends of a message that ends otherwise unless its fields say so. -/
def Head.extent (head : Head) (otherwise : Extent) : Extent :=
  let text? (name : String) : Option String := (head.fields.get? name).bind fieldText?
  if (text? "transfer-encoding").any (sameName · "chunked") then .chunked
  else match (text? "content-length").bind String.toNat? with
    | some size => .length size
    | none => otherwise

/-- The request that a head and a body make. -/
def Request.ofHead? (head : Head) (body : ByteArray) : Option Request :=
  match head.first with
  | [method, target, _] => some ⟨method, .parse target, head.fields, body⟩
  | _ => none

/-- The status that the head of a response gives. -/
def Head.status? (head : Head) : Option Nat :=
  match head.first with
  | _ :: status :: _ => status.toNat?
  | _ => none

/-- Whether a response with this status has a body when it is sent. -/
def hasBody (status : Nat) : Bool := 200 ≤ status && status != 204 && status != 304

/-- A field as a line. -/
def fieldLine (field : String × ByteArray) : ByteArray :=
  (field.1 ++ ": ").toUTF8 ++ field.2 ++ "\r\n".toUTF8

/-- A message as bytes: its first line, its fields, and its body. -/
def written (first : String) (fields : Fields) (body : ByteArray) : ByteArray :=
  fields.foldl (fun data field => data ++ fieldLine field) (first ++ "\r\n").toUTF8 ++
    "\r\n".toUTF8 ++ body

/-- A response as the last one on its connection. -/
def Response.written (response : Response) : ByteArray :=
  let fields := if hasBody response.status then response.fields
    else response.fields.filter (·.1 != "content-length")
  Http.written s!"HTTP/1.1 {response.status} " (fields ++ [("connection", "close".toUTF8)])
    (if hasBody response.status then response.body else .empty)

end OfflineSite.Http
