import FileGateway.Frame.Field

/-! The record that a gateway gives for a path: twelve numbers in eighty octets, in the
order of the structure's fields. -/
namespace FileGateway

structure FileStat where
  dev : UInt64
  ino : UInt64
  mode : UInt32
  nlink : UInt32
  uid : UInt32
  gid : UInt32
  size : Int64
  /-- Seconds since 1970, as are the two times after it. -/
  atime : Int64
  mtime : Int64
  ctime : Int64
  blksize : Int64
  blocks : Int64
  deriving DecidableEq, Repr

namespace FileStat

/-- The width of an encoded record. -/
def width : Nat := 80

/-- The bits of the mode that hold the kind of file, as octal 170000. -/
def kindMask : UInt32 := 0xF000

/-- The kind bits of a directory, octal 40000, and of a regular file, octal 100000. -/
def directoryKind : UInt32 := 0x4000

def regularKind : UInt32 := 0x8000

def isDirectory (stat : FileStat) : Bool := stat.mode &&& kindMask == directoryKind

def isRegular (stat : FileStat) : Bool := stat.mode &&& kindMask == regularKind

/-- The length of the file, where a negative size counts as empty. -/
def length (stat : FileStat) : UInt64 :=
  if stat.size < 0 then 0 else stat.size.toUInt64

def isEmpty (stat : FileStat) : Bool := stat.length == 0

def encode (stat : FileStat) : ByteArray :=
  BigEndian.ofWord64 stat.dev ++ BigEndian.ofWord64 stat.ino ++ BigEndian.ofWord32 stat.mode
    ++ BigEndian.ofWord32 stat.nlink ++ BigEndian.ofWord32 stat.uid ++ BigEndian.ofWord32 stat.gid
    ++ BigEndian.ofWord64 stat.size.toUInt64 ++ BigEndian.ofWord64 stat.atime.toUInt64
    ++ BigEndian.ofWord64 stat.mtime.toUInt64 ++ BigEndian.ofWord64 stat.ctime.toUInt64
    ++ BigEndian.ofWord64 stat.blksize.toUInt64 ++ BigEndian.ofWord64 stat.blocks.toUInt64

/-- The word of four octets at `offset`. -/
def word32At (field : ByteArray) (offset : Nat) : UInt32 :=
  BigEndian.toWord32 (field.extract offset (offset + 4))

/-- The word of eight octets at `offset`. -/
def word64At (field : ByteArray) (offset : Nat) : UInt64 :=
  BigEndian.toWord64 (field.extract offset (offset + 8))

def decode (field : ByteArray) : Except MessageError FileStat := do
  Field.checkWidth width field
  return {
    dev := word64At field 0
    ino := word64At field 8
    mode := word32At field 16
    nlink := word32At field 20
    uid := word32At field 24
    gid := word32At field 28
    size := (word64At field 32).toInt64
    atime := (word64At field 40).toInt64
    mtime := (word64At field 48).toInt64
    ctime := (word64At field 56).toInt64
    blksize := (word64At field 64).toInt64
    blocks := (word64At field 72).toInt64 }

end FileStat
end FileGateway
