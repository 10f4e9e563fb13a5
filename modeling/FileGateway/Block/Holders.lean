import FileGateway.Address
import Std.Data.HashMap

/-! A gateway reports the blocks of a file that it holds by a bitmap of one octet per block.
The value 1 means that the block is held; every other value, and the lack of an octet,
means that it is not. From the bitmaps that hosts answer with, `Holders` collects the
names of the hosts that hold each block of a range; `hostsCaching` looks one block up
directly. -/
namespace FileGateway

structure Bitmap where
  octets : ByteArray

namespace Bitmap

/-- The value that marks a block as held. -/
def mark : UInt8 := 1

def isCached (bitmap : Bitmap) (block : UInt64) : Bool :=
  bitmap.octets[block.toNat]? == some mark

/-- The number of blocks that the bitmap covers. -/
def size (bitmap : Bitmap) : Nat := bitmap.octets.size

def isEmpty (bitmap : Bitmap) : Bool := bitmap.size == 0

/-- The held blocks from `block` on, where `marks` are the octets from there. -/
def cachedFrom (block : Nat) (marks : List UInt8) : List Nat :=
  (marks.zipIdx block).filterMap (fun (octet, index) => if octet = mark then some index else none)

/-- The indices of the held blocks in increasing order. -/
def cachedBlocks (bitmap : Bitmap) : List Nat := cachedFrom 0 bitmap.octets.data.toList

end Bitmap
/-- What one host answered to a question that several were asked; there is no value if it
failed or had nothing. -/
structure HostAnswer (α : Type) where
  /-- The host as it was listed. -/
  host : String
  value : Option α
  deriving DecidableEq, Repr

namespace HostAnswer

/-- The name of the host without its port. -/
def hostName {α : Type} (answer : HostAnswer α) : String := Address.hostName answer.host

def isAbsent {α : Type} (answer : HostAnswer α) : Bool := answer.value.isNone

/-- Whether the host reported that it holds the block. -/
def holds (answer : HostAnswer Bitmap) (block : UInt64) : Bool :=
  match answer.value with
  | some bitmap => bitmap.isCached block
  | none => false

end HostAnswer

/-- The hosts, as listed, that hold a block. -/
def hostsCaching (answers : List (HostAnswer Bitmap)) (block : UInt64) : List String :=
  (answers.filter (·.holds block)).map HostAnswer.host

/-- The names recorded for each block, in the order of the host list. -/
structure Holders where
  recorded : Std.HashMap Nat (List String) := ∅

namespace Holders

/-- The names recorded for a block. -/
def names (holders : Holders) (block : Nat) : List String :=
  holders.recorded.getD block []

/-- Records a name for a block unless the block has it already. -/
def add (holders : Holders) (name : String) (block : Nat) : Holders :=
  let names := holders.names block
  if name ∈ names then holders else ⟨holders.recorded.insert block (names ++ [name])⟩

/-- Records the blocks from `first` to `last` that one host holds. -/
def addAnswer (first last : UInt64) (holders : Holders) (answer : HostAnswer Bitmap) : Holders :=
  match answer.value with
  | none => holders
  | some bitmap =>
    (bitmap.cachedBlocks.filter (fun block => first.toNat ≤ block ∧ block ≤ last.toNat)).foldl
      (·.add answer.hostName ·) holders

/-- Records every block from `first` to `last` that a host holds. -/
def ofAnswers (answers : List (HostAnswer Bitmap)) (first last : UInt64) : Holders :=
  answers.foldl (addAnswer first last) {}

/-- The hosts of a block, and the placeholder alone if none holds it. -/
def hostsOf (holders : Holders) (block : UInt64) (placeholder : String) : List String :=
  match holders.names block.toNat with
  | [] => [placeholder]
  | names => names

end Holders
end FileGateway
