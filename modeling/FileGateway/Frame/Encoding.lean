import FileGateway.Bytes.BigEndian
import FileGateway.MessageError

/-! A message travels as one frame: a header of 32-bit words and a payload of fields,
each behind the word that holds its length.

* request: opcode, payload size, field count, payload
* response: opcode, return code, payload size, field count, payload

The payload size counts the length words too. A frame whose payload is over
`maxPayload` is not written; below it every size fits its word. -/
namespace FileGateway.Frame

def requestHeaderSize : Nat := 12

def responseHeaderSize : Nat := 16

/-- The width of the word in front of a field. -/
def lengthSize : Nat := 4

/-- The largest payload that is written or accepted: 64 MiB. -/
def maxPayload : Nat := 64 * 1024 * 1024

/-- The largest field of a payload of one field. -/
def maxField : Nat := maxPayload - lengthSize

/-- A size or a count as a word. -/
def size32 (size : Nat) : ByteArray := BigEndian.encode 4 size

def signed32 (word : Int32) : ByteArray := BigEndian.ofWord32 word.toUInt32

def payloadSize (fields : List ByteArray) : Nat :=
  fields.foldr (fun field total => lengthSize + field.size + total) 0

def payload (fields : List ByteArray) : ByteArray :=
  fields.foldl (fun written field => written ++ size32 field.size ++ field) ByteArray.empty

/-- The payload size, if a frame may have it. -/
def checkedPayloadSize (fields : List ByteArray) : Except MessageError Nat :=
  let size := payloadSize fields
  if maxPayload < size then .error (.tooLarge size maxPayload) else .ok size

def encodeRequest (op : Opcode) (fields : List ByteArray) : Except MessageError ByteArray := do
  let size ← checkedPayloadSize fields
  return signed32 op.code ++ size32 size ++ size32 fields.length ++ payload fields

def encodeResponse (op : Opcode) (returnCode : Int32) (fields : List ByteArray) :
    Except MessageError ByteArray := do
  let size ← checkedPayloadSize fields
  return signed32 op.code ++ signed32 returnCode ++ size32 size ++ size32 fields.length
    ++ payload fields

end FileGateway.Frame
