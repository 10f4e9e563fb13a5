import FileGateway.FileStat
import FileGateway.Frame.Decoding
import FileGateway.GatewayError

/-! A request is a remote operation with its arguments. It determines the fields that are
sent, the arguments that are refused before anything is sent, and how the fields of the
response become an answer of the request's own type. -/
namespace FileGateway

/-- An open file at a gateway. -/
structure FileHandle where
  path : String
  id : UInt64
  deriving DecidableEq, Repr

inductive Request where
  | getStat (path : String)
  | delete (path : String)
  | removeDirectory (path : String)
  | rename (source target : String)
  | mkdir (path : String) (mode : UInt32)
  | readDirectoryEntries (path : String)
  | getFileHandle (path : String) (flags : UInt32)
  | createNewFile (path : String) (mode : UInt32)
  | readFileData (handle : FileHandle) (offset : UInt64) (length : UInt32)
  | writeFileData (handle : FileHandle) (offset : UInt64) (data : ByteArray)
  | flush (handle : FileHandle)
  | closeFileHandle (handle : FileHandle)
  | truncateFile (path : String) (length : UInt64)
  | listExtendedAttr (path : String)
  | getExtendedAttr (path name : String)

namespace Request

/-- The extended attribute under which a gateway publishes the bitmap of the
blocks that it holds. -/
def cachedBlocksAttribute : String := "user.gateway.cached_blocks"

def opcode : Request → Opcode
  | getStat _ => .getStat
  | delete _ => .delete
  | removeDirectory _ => .removeDirectory
  | rename .. => .rename
  | mkdir .. => .mkdir
  | readDirectoryEntries _ => .readDirectoryEntries
  | getFileHandle .. => .getFileHandle
  | createNewFile .. => .createNewFile
  | readFileData .. => .readFileData
  | writeFileData .. => .writeFileData
  | flush _ => .flush
  | closeFileHandle _ => .closeFileHandle
  | truncateFile .. => .truncateFile
  | listExtendedAttr _ => .listExtendedAttr
  | getExtendedAttr .. => .getExtendedAttr

/-- The path that messages about the request name. -/
def path : Request → String
  | getStat path | delete path | removeDirectory path | rename path _ | mkdir path _
  | readDirectoryEntries path | getFileHandle path _ | createNewFile path _
  | truncateFile path _ | listExtendedAttr path | getExtendedAttr path _ => path
  | readFileData handle _ _ | writeFileData handle _ _ | flush handle
  | closeFileHandle handle => handle.path

/-- The greatest offset that a request can carry, since offsets travel as signed
words. -/
def offsetLimit : Nat := 0x7FFFFFFFFFFFFFFF

def checkOffset (offset : UInt64) : Except ArgumentFault Unit :=
  if offset.toNat ≤ offsetLimit then .ok () else .error (.offsetOutOfRange offset)

/-- Refuses arguments that no frame could carry or no response could answer. -/
def checkArguments : Request → Except ArgumentFault Unit
  | readFileData _ offset length =>
    if Frame.maxField < length.toNat then .error (.readTooLong length.toNat Frame.maxField)
    else checkOffset offset
  | writeFileData _ offset _ | truncateFile _ offset => checkOffset offset
  | getStat _ | delete _ | removeDirectory _ | rename .. | mkdir .. | readDirectoryEntries _
  | getFileHandle .. | createNewFile .. | flush _ | closeFileHandle _ | listExtendedAttr _
  | getExtendedAttr .. => .ok ()

/-- The fields of the request, where offsets have passed `checkArguments`. -/
def fields : Request → List ByteArray
  | getStat path | delete path | removeDirectory path | readDirectoryEntries path
  | listExtendedAttr path => [Field.ofText path]
  | rename source target => [Field.ofText source, Field.ofText target]
  | mkdir path word | getFileHandle path word | createNewFile path word =>
    [Field.ofText path, Field.ofLength word]
  | readFileData handle offset length =>
    [Field.ofText handle.path, Field.ofHandle handle.id, Field.ofOffset offset.toInt64,
      Field.ofLength length]
  | writeFileData handle offset data =>
    [Field.ofText handle.path, Field.ofHandle handle.id, Field.ofOffset offset.toInt64, data]
  | flush handle | closeFileHandle handle => [Field.ofText handle.path, Field.ofHandle handle.id]
  | truncateFile path length => [Field.ofText path, Field.ofOffset length.toInt64]
  | getExtendedAttr path name => [Field.ofText path, Field.ofText name]

/-- The type of what a request is answered with. A write is answered with the
number of octets that the gateway accepted, and an extended attribute may be
missing. -/
def Answer : Request → Type
  | getStat _ => FileStat
  | readDirectoryEntries _ | listExtendedAttr _ => List String
  | getFileHandle .. | createNewFile .. => FileHandle
  | readFileData .. => ByteArray
  | writeFileData .. => Nat
  | getExtendedAttr .. => Option ByteArray
  | delete _ | removeDirectory _ | rename .. | mkdir .. | flush _ | closeFileHandle _
  | truncateFile .. => Unit

/-- The file handle that a response to an opening request names. -/
def openedHandle (path : String) (response : Frame.Response) : Except MessageError FileHandle := do
  let field ← response.singleField
  let id ← Field.toHandle field
  return ⟨path, id⟩

/-- The answer that an accepted response holds. Directory listings leave out the
directory itself and its parent. -/
def interpret : (request : Request) → Frame.Response → Except MessageError request.Answer
  | getStat _, response => do FileStat.decode (← response.singleField)
  | readDirectoryEntries _, response => do
    let names ← response.texts
    return names.filter (fun name => name ≠ "." ∧ name ≠ "..")
  | listExtendedAttr _, response => response.texts
  | getFileHandle path _, response | createNewFile path _, response => openedHandle path response
  | readFileData _ _ length, response => do
    let data ← response.singleField
    if length.toNat < data.size then
      throw (.invalidField (.overlongRead length.toNat data.size))
    return data
  | writeFileData .., response => .ok response.returnCode.toInt.toNat
  | getExtendedAttr .., response =>
    match response.fields with
    | [] => .ok none
    | _ => response.singleField.map some
  | delete _, _ | removeDirectory _, _ | rename .., _ | mkdir .., _ | flush _, _
  | closeFileHandle _, _ | truncateFile .., _ => .ok ()

end Request
end FileGateway
