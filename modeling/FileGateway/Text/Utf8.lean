/-! Text is read from octets in two ways. `decode` accepts well-formed octets alone and says
where the first fault lies. `decodeLossy` accepts all octets and writes U+FFFD for each
maximal ill-formed part. Both step through the octets by `sequenceAt`, which follows the
rows of the table of well-formed sequences. -/
namespace FileGateway.Utf8

/-- The ranges of the octets that follow a lead octet, and `none` if no sequence
starts with it. The narrowed first ranges exclude overlong forms, surrogates and
numbers above U+10FFFF. -/
def continuations (lead : UInt8) : Option (List (UInt8 × UInt8)) :=
  let tail : UInt8 × UInt8 := (0x80, 0xBF)
  if lead ≤ 0x7F then some []
  else if lead < 0xC2 then none
  else if lead ≤ 0xDF then some [tail]
  else if lead = 0xE0 then some [(0xA0, 0xBF), tail]
  else if lead = 0xED then some [(0x80, 0x9F), tail]
  else if lead ≤ 0xEF then some [tail, tail]
  else if lead = 0xF0 then some [(0x90, 0xBF), tail, tail]
  else if lead ≤ 0xF3 then some [tail, tail, tail]
  else if lead = 0xF4 then some [(0x80, 0x8F), tail, tail]
  else none

/-- What stands at a position. The count is of the well-formed octets after the
lead octet, so a sequence takes one octet more than that. -/
inductive Sequence where
  | complete (following : Nat)
  | broken (following : Nat)
  | cutShort
  deriving DecidableEq, Repr

/-- Follows the ranges that remain of a sequence. -/
def follow (bytes : ByteArray) (position following : Nat) : List (UInt8 × UInt8) → Sequence
  | [] => .complete following
  | (low, high) :: ranges =>
    match bytes[position]? with
    | none => .cutShort
    | some octet =>
      if low ≤ octet ∧ octet ≤ high then follow bytes (position + 1) (following + 1) ranges
      else .broken following

/-- The sequence whose lead octet is `lead`, at `position`. -/
def sequenceAt (bytes : ByteArray) (position : Nat) (lead : UInt8) : Sequence :=
  match continuations lead with
  | none => .broken 0
  | some ranges => follow bytes (position + 1) 0 ranges

/-- The first fault of an ill-formed text: the length of the longest well-formed
start, and the length of the ill-formed part after it, absent if the octets end
inside a sequence. -/
structure Fault where
  validLength : Nat
  brokenLength : Option Nat
  deriving DecidableEq, Repr

def Fault.message (fault : Fault) : String :=
  match fault.brokenLength with
  | some length =>
    "invalid utf-8 sequence of " ++ toString length ++ " bytes from index "
      ++ toString fault.validLength
  | none => "incomplete utf-8 byte sequence from index " ++ toString fault.validLength

/-- The first fault at or after `position`. Octets without one count as ending
early at their end. -/
def faultFrom (bytes : ByteArray) (position : Nat) : Fault :=
  if inside : position < bytes.size then
    match sequenceAt bytes position bytes[position] with
    | .complete following => faultFrom bytes (position + following + 1)
    | .broken following => ⟨position, some (following + 1)⟩
    | .cutShort => ⟨position, none⟩
  else ⟨position, none⟩
termination_by bytes.size - position

/-- The text of well-formed octets, or the first fault of others. -/
def decode (bytes : ByteArray) : Except Fault String :=
  if wellFormed : bytes.IsValidUTF8 then .ok (String.ofByteArray bytes wellFormed)
  else .error (faultFrom bytes 0)

/-- The bits that a lead octet gives to the number, below the mark that tells how
many octets follow it. -/
def leadBits (following : Nat) (lead : UInt8) : Nat :=
  match following with
  | 0 => lead.toNat
  | 1 => lead.toNat % 32
  | 2 => lead.toNat % 16
  | _ => lead.toNat % 8

/-- The number that a complete sequence stands for: the bits of the lead octet,
then six bits of each octet that follows. -/
def scalar (bytes : ByteArray) (position following : Nat) (lead : UInt8) : Nat :=
  let start := leadBits following lead
  (bytes.extract (position + 1) (position + 1 + following)).data.foldl
    (fun total octet => total * 64 + octet.toNat % 64) start

def replacement : Char := '\ufffd'

/-- Appends to `text` what the octets from `position` on stand for. -/
def decodeLossyFrom (bytes : ByteArray) (position : Nat) (text : String) : String :=
  if inside : position < bytes.size then
    let lead := bytes[position]
    match sequenceAt bytes position lead with
    | .complete following =>
      decodeLossyFrom bytes (position + following + 1)
        (text.push (Char.ofNat (scalar bytes position following lead)))
    | .broken following =>
      decodeLossyFrom bytes (position + following + 1) (text.push replacement)
    | .cutShort => text.push replacement
  else text
termination_by bytes.size - position

/-- The text of any octets, each maximal ill-formed part replaced by U+FFFD. -/
def decodeLossy (bytes : ByteArray) : String := decodeLossyFrom bytes 0 ""

end FileGateway.Utf8
