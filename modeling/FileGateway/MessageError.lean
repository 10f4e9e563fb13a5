import FileGateway.Opcode
import FileGateway.Text.Utf8

/-! Why a message cannot be written, read or accepted. A fault is a cause, and its wording
is a function of the cause. `isFraming` singles out the faults after which the position
in the octet stream is unknown. -/
namespace FileGateway

/-- Sizes declared in a message that disagree with its octets. -/
inductive FramingFault where
  | shortRequestHeader (size : Nat)
  | shortResponseHeader (size : Nat)
  | negativePayloadSize (declared : Int32)
  | negativeFieldCount (declared : Int32)
  | payloadOverLimit (declared limit : Nat)
  | countOverPayload (count payloadSize : Nat)
  | payloadLength (declared actual : Nat)
  | lengthPastEnd (index : Nat)
  | negativeFieldLength (index : Nat) (declared : Int32)
  | fieldPastEnd (index length payloadSize : Nat)
  | leftover (consumed count declared : Nat)
  /-- A disagreement reported in words alone. -/
  | reported (text : String)
  deriving DecidableEq, Repr

def FramingFault.message : FramingFault → String
  | shortRequestHeader size => "truncated request header (" ++ toString size ++ " bytes)"
  | shortResponseHeader size => "truncated response header (" ++ toString size ++ " bytes)"
  | negativePayloadSize declared => "negative payload size " ++ toString declared.toInt
  | negativeFieldCount declared => "negative field count " ++ toString declared.toInt
  | payloadOverLimit declared limit =>
    "payload of " ++ toString declared ++ " bytes exceeds limit of " ++ toString limit
  | countOverPayload count payloadSize =>
    toString count ++ " fields cannot fit in " ++ toString payloadSize ++ " payload bytes"
  | payloadLength declared actual =>
    "declared payload of " ++ toString declared ++ " bytes but " ++ toString actual ++ " follow"
  | lengthPastEnd index => "field " ++ toString index ++ " length prefix runs past payload"
  | negativeFieldLength index declared =>
    "field " ++ toString index ++ " has negative length " ++ toString declared.toInt
  | fieldPastEnd index length payloadSize =>
    "field " ++ toString index ++ " of " ++ toString length ++ " bytes runs past payload of "
      ++ toString payloadSize
  | leftover consumed count declared =>
    "read " ++ toString consumed ++ " bytes for " ++ toString count ++ " fields, header declared "
      ++ toString declared
  | reported text => text

/-- Why the content of a field is refused although its width is right. -/
inductive FieldFault where
  | notText (fault : Utf8.Fault)
  | overlongRead (asked received : Nat)
  /-- A refusal reported in words alone. -/
  | reported (text : String)
  deriving DecidableEq, Repr

def FieldFault.message : FieldFault → String
  | notText fault => fault.message
  | overlongRead asked received =>
    "asked for " ++ toString asked ++ " bytes, gateway sent " ++ toString received
  | reported text => text

inductive MessageError where
  /-- Declared sizes and the octets that follow disagree. -/
  | framing (fault : FramingFault)
  | opcodeMismatch (expected actual : Int32)
  | unknownOpcode (value : Int32)
  /-- The gateway answered with a negative return code. -/
  | remote (op : Opcode) (code : Int32) (description : String)
  | fieldCount (op : Opcode) (expected actual : Nat)
  | fieldWidth (expected actual : Nat)
  | invalidField (fault : FieldFault)
  /-- An outgoing message is refused before anything is written. -/
  | tooLarge (size limit : Nat)
  deriving DecidableEq, Repr

namespace MessageError

def message : MessageError → String
  | framing fault => "framing error: " ++ fault.message
  | opcodeMismatch expected actual =>
    "response opcode mismatch: expected " ++ toString expected.toInt ++ ", got "
      ++ toString actual.toInt
  | unknownOpcode value => "unknown opcode " ++ toString value.toInt
  | remote op code description =>
    op.name ++ " failed: " ++ description ++ " (code " ++ toString code.toInt ++ ")"
  | fieldCount op expected actual =>
    op.name ++ " response carried " ++ toString actual ++ " fields, expected "
      ++ toString expected
  | fieldWidth expected actual =>
    "field is " ++ toString actual ++ " bytes wide, expected " ++ toString expected
  | invalidField fault => "invalid field: " ++ fault.message
  | tooLarge size limit =>
    "message of " ++ toString size ++ " bytes exceeds limit of " ++ toString limit

/-- Whether the octet stream that the message came from can no longer be trusted. -/
def isFraming : MessageError → Bool
  | framing _ | opcodeMismatch .. | unknownOpcode _ => true
  | remote .. | fieldCount .. | fieldWidth .. | invalidField _ | tooLarge .. => false

/-- The return code of an operation that failed at the gateway. -/
def remoteCode : MessageError → Option Int32
  | remote _ code _ => some code
  | framing _ | opcodeMismatch .. | unknownOpcode _ | fieldCount .. | fieldWidth ..
  | invalidField _ | tooLarge .. => none

end MessageError
end FileGateway
