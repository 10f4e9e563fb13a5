/-! A number of fixed width is written most significant octet first. `encode` and `decode`
work on any width; the four- and eight-octet words of the wire format are instances. -/
namespace FileGateway.BigEndian

/-- The `width` lowest octets of `number`, most significant first. -/
def octets : (width number : Nat) → List UInt8
  | 0, _ => []
  | width + 1, number => octets width (number / 256) ++ [UInt8.ofNat number]

/-- The number that octets denote in base 256. -/
def number (octets : List UInt8) : Nat :=
  octets.foldl (fun total octet => total * 256 + octet.toNat) 0

def encode (width number : Nat) : ByteArray :=
  ⟨(octets width number).toArray⟩

def decode (bytes : ByteArray) : Nat :=
  number bytes.data.toList

/-! ## Words -/

def ofWord32 (word : UInt32) : ByteArray := encode 4 word.toNat

def ofWord64 (word : UInt64) : ByteArray := encode 8 word.toNat

/-- The word in four octets. -/
def toWord32 (bytes : ByteArray) : UInt32 := UInt32.ofNat (decode bytes)

/-- The word in eight octets. -/
def toWord64 (bytes : ByteArray) : UInt64 := UInt64.ofNat (decode bytes)

/-- The signed word in the four octets of `bytes` from `offset`. -/
def signedAt (bytes : ByteArray) (offset : Nat) : Int32 :=
  (toWord32 (bytes.extract offset (offset + 4))).toInt32

end FileGateway.BigEndian
