import FileGateway.Network

/-! A network described by text: one gateway per line, its address and then its replies,
separated by blanks. A reply is `stall`, octets in hexadecimal, or `end:` before the
octets that end the stream. -/
namespace FileGateway.Script

/-- The value of a hexadecimal digit. -/
def digit? (c : Char) : Option Nat :=
  if c.isDigit then some (c.toNat - '0'.toNat)
  else if 'a' ≤ c ∧ c ≤ 'f' then some (c.toNat - 'a'.toNat + 10)
  else none

/-- The octets of pairs of digits, behind the octets read before. -/
def octets? (read : ByteArray) : List Char → Option ByteArray
  | [] => some read
  | [_] => none
  | high :: low :: rest => do
    octets? (read.push (UInt8.ofNat ((← digit? high) * 16 + (← digit? low)))) rest

def reply? (word : List Char) : Option Reply :=
  match word with
  | ['s', 't', 'a', 'l', 'l'] => some .stall
  | 'e' :: 'n' :: 'd' :: ':' :: octets => (octets? ByteArray.empty octets).map .finish
  | octets => (octets? ByteArray.empty octets).map .send

def gateway? (line : String) : Option (String × Gateway) :=
  match (line.toList.splitOn ' ').filter (· ≠ []) with
  | [] => none
  | address :: replies => do
    return (String.ofList address, { replies := ← replies.mapM reply? })

/-- The network of a script. Lines that cannot be read are left out. -/
def network (lines : List String) : Network :=
  { gateways := lines.filterMap gateway? }

end FileGateway.Script
