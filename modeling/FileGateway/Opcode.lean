/-! The operations that a gateway understands and their numbers on the wire. The numbering
is the position in `Opcode.all`. -/
namespace FileGateway

inductive Opcode where
  | getStat
  | delete
  | removeDirectory
  | rename
  | mkdir
  | readDirectoryEntries
  | getFileHandle
  | createNewFile
  | readFileData
  | writeFileData
  | flush
  | closeFileHandle
  | truncateFile
  | listExtendedAttr
  | getExtendedAttr
  deriving DecidableEq, Repr

namespace Opcode

/-- Every operation, in the order of the wire numbers. -/
def all : List Opcode :=
  [getStat, delete, removeDirectory, rename, mkdir, readDirectoryEntries, getFileHandle,
    createNewFile, readFileData, writeFileData, flush, closeFileHandle, truncateFile,
    listExtendedAttr, getExtendedAttr]

/-- The number that stands for the operation on the wire. -/
def code : Opcode → Int32
  | getStat => 0
  | delete => 1
  | removeDirectory => 2
  | rename => 3
  | mkdir => 4
  | readDirectoryEntries => 5
  | getFileHandle => 6
  | createNewFile => 7
  | readFileData => 8
  | writeFileData => 9
  | flush => 10
  | closeFileHandle => 11
  | truncateFile => 12
  | listExtendedAttr => 13
  | getExtendedAttr => 14

def ofCode? (code : Int32) : Option Opcode :=
  all.find? (fun op => op.code == code)

/-- The operation's name in messages. -/
def name : Opcode → String
  | getStat => "GET_STAT"
  | delete => "DELETE"
  | removeDirectory => "REMOVE_DIRECTORY"
  | rename => "RENAME"
  | mkdir => "MKDIR"
  | readDirectoryEntries => "READ_DIRECTORY_ENTRIES"
  | getFileHandle => "GET_FILE_HANDLE"
  | createNewFile => "CREATE_NEW_FILE"
  | readFileData => "READ_FILEDATA"
  | writeFileData => "WRITE_FILEDATA"
  | flush => "FLUSH"
  | closeFileHandle => "CLOSE_FILE_HANDLE"
  | truncateFile => "TRUNCATE_FILE"
  | listExtendedAttr => "LIST_EXTENDED_ATTR"
  | getExtendedAttr => "GET_EXTENDED_ATTR"

/-- The operation's name in diagnostics, one capitalised word. -/
def label : Opcode → String
  | getStat => "GetStat"
  | delete => "Delete"
  | removeDirectory => "RemoveDirectory"
  | rename => "Rename"
  | mkdir => "Mkdir"
  | readDirectoryEntries => "ReadDirectoryEntries"
  | getFileHandle => "GetFileHandle"
  | createNewFile => "CreateNewFile"
  | readFileData => "ReadFileData"
  | writeFileData => "WriteFileData"
  | flush => "Flush"
  | closeFileHandle => "CloseFileHandle"
  | truncateFile => "TruncateFile"
  | listExtendedAttr => "ListExtendedAttr"
  | getExtendedAttr => "GetExtendedAttr"

theorem ofCode?_code (op : Opcode) : ofCode? op.code = some op := by
  cases op <;> decide

theorem code_of_ofCode? {code : Int32} {op : Opcode} (found : ofCode? code = some op) :
    op.code = code := by
  simpa only [beq_iff_eq] using List.find?_some found

end Opcode
end FileGateway
