import FileGateway.Bytes.BigEndian
import FileGateway.MessageError

/-! The four kinds of content of a field. Numbers have a fixed width, which is checked on
reading. -/
namespace FileGateway.Field

def ofHandle (handle : UInt64) : ByteArray := BigEndian.ofWord64 handle

def ofOffset (offset : Int64) : ByteArray := BigEndian.ofWord64 offset.toUInt64

/-- A length, a mode or a set of flags. -/
def ofLength (length : UInt32) : ByteArray := BigEndian.ofWord32 length

def ofText (text : String) : ByteArray := text.toUTF8

/-- Refuses a field of any other width. -/
def checkWidth (width : Nat) (field : ByteArray) : Except MessageError Unit :=
  if field.size = width then .ok () else .error (.fieldWidth width field.size)

def toHandle (field : ByteArray) : Except MessageError UInt64 := do
  checkWidth 8 field
  return BigEndian.toWord64 field

def toOffset (field : ByteArray) : Except MessageError Int64 := do
  checkWidth 8 field
  return (BigEndian.toWord64 field).toInt64

def toLength (field : ByteArray) : Except MessageError UInt32 := do
  checkWidth 4 field
  return BigEndian.toWord32 field

def toText (field : ByteArray) : Except MessageError String :=
  (Utf8.decode field).mapError (fun fault => .invalidField (.notText fault))

end FileGateway.Field
