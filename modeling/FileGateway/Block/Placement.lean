import FileGateway.Block.Holders

/-! A byte range is answered block by block: where each block lies, how long it is, and
which hosts hold it. Blocks are whole except where the file ends. -/
namespace FileGateway

/-- The index of the block that an offset falls in, where the blocks of a file are
numbered from zero. It is computed from the octet before the offset: a nonzero multiple
of the size opens the block after that octet's. A block size of zero counts as one. -/
def Block.index (offset blockSize : UInt64) : UInt64 :=
  let size := max blockSize 1
  if offset = 0 then 0
  else
    let before := (offset - 1) / size
    if offset % size = 0 then before + 1 else before

structure BlockLocation where
  offset : UInt64
  length : UInt64
  hosts : List String
  deriving DecidableEq, Repr

/-- Why a list does not come about. The program does not survive it. -/
inductive AllocationFault where
  /-- No list may be so large. -/
  | capacityOverflow
  /-- The machine has no room for so many octets. -/
  | outOfMemory (octets : Nat)
  deriving DecidableEq, Repr

def AllocationFault.message : AllocationFault → String
  | capacityOverflow => "capacity overflow"
  | outOfMemory octets => "memory allocation of " ++ toString octets ++ " bytes failed"

/-- The greatest offset, where a file of unknown length is taken to end. -/
def maxOffset : UInt64 := 0xFFFFFFFFFFFFFFFF

/-- The sum, or the greatest offset if the sum is above it. -/
def saturatingAdd (a b : UInt64) : UInt64 :=
  if a.toNat + b.toNat ≤ maxOffset.toNat then a + b else maxOffset

/-- A byte range to be placed: the bytes from `start` up to `stop`, in a file that
ends at `fileEnd`. -/
structure Placement where
  holders : Holders
  start : UInt64
  stop : UInt64
  fileEnd : UInt64
  blockSize : UInt64
  placeholder : String

namespace Placement

/-- The index of the first block of a range that is not empty. -/
def firstBlock (placement : Placement) : UInt64 :=
  Block.index placement.start placement.blockSize

/-- The index of the last block of a range that is not empty. -/
def lastBlock (placement : Placement) : UInt64 :=
  Block.index (placement.stop - 1) placement.blockSize

def isEmpty (placement : Placement) : Bool := placement.stop ≤ placement.start

/-- The number of blocks that the range touches. -/
def blockCount (placement : Placement) : Nat :=
  if placement.isEmpty then 0
  else placement.lastBlock.toNat + 1 - placement.firstBlock.toNat

/-- The location of one block, cut at the end of the file. -/
def location (placement : Placement) (block : UInt64) : BlockLocation :=
  let offset := block * placement.blockSize
  let blockEnd := min (saturatingAdd offset placement.blockSize) placement.fileEnd
  ⟨offset, blockEnd - offset, placement.holders.hostsOf block placement.placeholder⟩

/-- The locations of the blocks that the range touches, in increasing order. -/
def locations (placement : Placement) : List BlockLocation :=
  (List.range' placement.firstBlock.toNat placement.blockCount).map
    (fun block => placement.location (UInt64.ofNat block))

/-- The octets that a location occupies in a list in memory, and the most octets
that one list may occupy. -/
def locationSize : Nat := 40

def maxListSize : Nat := 0x7FFFFFFFFFFFFFFF

/-- The octets that the list of the locations occupies. -/
def listSize (placement : Placement) : Nat := placement.blockCount * locationSize

/-- The list of the locations, where the machine has room for a list of `memory` octets.
The room is taken before the first location is computed. -/
def collect (memory : Nat) (placement : Placement) :
    Except AllocationFault (List BlockLocation) :=
  if maxListSize < placement.listSize then .error .capacityOverflow
  else if memory < placement.listSize then .error (.outOfMemory placement.listSize)
  else .ok placement.locations

end Placement
end FileGateway
