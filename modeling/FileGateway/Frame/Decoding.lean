import FileGateway.ErrorNumber
import FileGateway.Frame.Encoding
import FileGateway.Frame.Field

/-! A response is read in two steps, its header and then its payload, so that a reader of a
stream knows how many octets to wait for. Declared sizes are checked before the payload
is used, and every octet of the payload belongs to a field. A negative return code makes
the frame an error once its fields are in order. -/
namespace FileGateway.Frame

structure ResponseHeader where
  op : Opcode
  returnCode : Int32
  payloadSize : Nat
  fieldCount : Nat
  deriving DecidableEq, Repr

/-- The declared payload size and field count, if a payload can have them. -/
def declaredSizes (payloadSize fieldCount : Int32) : Except FramingFault (Nat × Nat) :=
  let size := payloadSize.toInt.toNat
  let count := fieldCount.toInt.toNat
  if payloadSize < 0 then .error (.negativePayloadSize payloadSize)
  else if fieldCount < 0 then .error (.negativeFieldCount fieldCount)
  else if maxPayload < size then .error (.payloadOverLimit size maxPayload)
  else if size / lengthSize < count then .error (.countOverPayload count size)
  else .ok (size, count)

/-- Reads the `responseHeaderSize` octets of a header, and accepts no opcode but
the expected one. -/
def ResponseHeader.parse (bytes : ByteArray) (expected : Opcode) :
    Except MessageError ResponseHeader := do
  let actual := BigEndian.signedAt bytes 0
  if actual ≠ expected.code then
    throw (.opcodeMismatch expected.code actual)
  let (size, count) ←
    (declaredSizes (BigEndian.signedAt bytes 8) (BigEndian.signedAt bytes 12)).mapError .framing
  return ⟨expected, BigEndian.signedAt bytes 4, size, count⟩

/-- The field number `index`, whose length word stands at `position`, and the
position behind it. -/
def takeField (payload : ByteArray) (index position : Nat) :
    Except FramingFault (ByteArray × Nat) :=
  let start := position + lengthSize
  if payload.size < start then .error (.lengthPastEnd index)
  else
    let declared := BigEndian.signedAt payload position
    let stop := start + declared.toInt.toNat
    if declared < 0 then .error (.negativeFieldLength index declared)
    else if payload.size < stop then
      .error (.fieldPastEnd index declared.toInt.toNat payload.size)
    else .ok (payload.extract start stop, stop)

/-- Takes `remaining` more fields after the fields `taken`, which are held last
first, and gives all of them with the position behind the last. -/
def takeFields (payload : ByteArray) (taken : List ByteArray) :
    (remaining index position : Nat) → Except FramingFault (List ByteArray × Nat)
  | 0, _, position => .ok (taken.reverse, position)
  | remaining + 1, index, position =>
    match takeField payload index position with
    | .error fault => .error fault
    | .ok (field, next) => takeFields payload (field :: taken) remaining (index + 1) next

/-- Splits a payload into the declared number of fields. -/
def splitFields (payload : ByteArray) (declaredSize count : Nat) :
    Except FramingFault (List ByteArray) := do
  if payload.size ≠ declaredSize then
    throw (.payloadLength declaredSize payload.size)
  let (fields, consumed) ← takeFields payload [] count 0 0
  if consumed ≠ declaredSize then
    throw (.leftover consumed count declaredSize)
  return fields

structure Response where
  op : Opcode
  returnCode : Int32
  fields : List ByteArray

namespace Response

/-- Refuses a response with any other number of fields. -/
def expectFields (response : Response) (expected : Nat) : Except MessageError Unit :=
  if response.fields.length = expected then .ok ()
  else .error (.fieldCount response.op expected response.fields.length)

def singleField (response : Response) : Except MessageError ByteArray :=
  match response.fields with
  | [field] => .ok field
  | fields => .error (.fieldCount response.op 1 fields.length)

/-- Every field as text; the first ill-formed field is the one reported. -/
def texts (response : Response) : Except MessageError (List String) :=
  response.fields.mapM Field.toText

end Response

/-- Reads the payload behind a header. A negative return code is an error, except
that a missing extended attribute is an answer without fields. -/
def ResponseHeader.decodePayload (header : ResponseHeader) (payload : ByteArray) :
    Except MessageError Response := do
  let fields ← (splitFields payload header.payloadSize header.fieldCount).mapError .framing
  if 0 ≤ header.returnCode then
    return ⟨header.op, header.returnCode, fields⟩
  else if header.op = .getExtendedAttr ∧ ErrorNumber.isMissingAttribute header.returnCode then
    return ⟨header.op, header.returnCode, []⟩
  else
    throw (.remote header.op header.returnCode (ErrorNumber.describe header.returnCode))

/-- Reads a whole response frame. -/
def decodeResponse (bytes : ByteArray) (expected : Opcode) : Except MessageError Response := do
  if bytes.size < responseHeaderSize then
    throw (.framing (.shortResponseHeader bytes.size))
  let header ← ResponseHeader.parse (bytes.extract 0 responseHeaderSize) expected
  header.decodePayload (bytes.extract responseHeaderSize bytes.size)

/-- Reads a whole request frame. -/
def decodeRequest (bytes : ByteArray) : Except MessageError (Opcode × List ByteArray) := do
  if bytes.size < requestHeaderSize then
    throw (.framing (.shortRequestHeader bytes.size))
  let code := BigEndian.signedAt bytes 0
  match Opcode.ofCode? code with
  | none => throw (.unknownOpcode code)
  | some op =>
    let (size, count) ←
      (declaredSizes (BigEndian.signedAt bytes 4) (BigEndian.signedAt bytes 8)).mapError .framing
    let fields ←
      (splitFields (bytes.extract requestHeaderSize bytes.size) size count).mapError .framing
    return (op, fields)

end FileGateway.Frame
