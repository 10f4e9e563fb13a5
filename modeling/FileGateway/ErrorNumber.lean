/-! A gateway reports a failed operation by a negated POSIX error number. Both signs of a
code denote the same error. -/
namespace FileGateway.ErrorNumber

/-- The greatest error number. -/
def limit : Nat := 0x7FFFFFFF

/-- The error number behind a return code: its absolute value, and the greatest
number for the one code whose absolute value is above it. -/
def magnitude (code : Int32) : Nat :=
  min code.toInt.natAbs limit

/-- The numbers that have a message of their own. -/
def messages : List (Nat × String) :=
  [(1, "Operation not permitted"),
    (2, "No such file or directory"),
    (5, "Input/output error"),
    (9, "Bad file descriptor"),
    (11, "Resource temporarily unavailable"),
    (12, "Cannot allocate memory"),
    (13, "Permission denied"),
    (16, "Device or resource busy"),
    (17, "File exists"),
    (18, "Invalid cross-device link"),
    (20, "Not a directory"),
    (21, "Is a directory"),
    (22, "Invalid argument"),
    (24, "Too many open files"),
    (27, "File too large"),
    (28, "No space left on device"),
    (30, "Read-only file system"),
    (34, "Numerical result out of range"),
    (36, "File name too long"),
    (38, "Function not implemented"),
    (39, "Directory not empty"),
    (61, "No data available"),
    (93, "Attribute not found"),
    (95, "Operation not supported"),
    (110, "Connection timed out"),
    (116, "Stale file handle"),
    (122, "Disk quota exceeded")]

/-- The message for a return code of either sign. -/
def describe (code : Int32) : String :=
  match messages.lookup (magnitude code) with
  | some message => message
  | none => "Unknown error " ++ toString (magnitude code)

/-- Numbers by which gateways report that an extended attribute does not exist:
61 on Linux, 93 on BSD descendants. -/
def missingAttribute : List Nat := [61, 93]

def isMissingAttribute (code : Int32) : Bool :=
  missingAttribute.contains (magnitude code)

/-- Among failures exactly two codes report a missing attribute. -/
theorem isMissingAttribute_iff {code : Int32} (negative : code < 0) :
    isMissingAttribute code = true ↔ code = -61 ∨ code = -93 := by
  have below : code.toInt < 0 := Int32.lt_iff_toInt_lt.mp negative
  have linux : code = -61 ↔ code.toInt = -61 := Int32.toInt_inj.symm
  have bsd : code = -93 ↔ code.toInt = -93 := Int32.toInt_inj.symm
  simp only [isMissingAttribute, missingAttribute, magnitude, limit, List.contains_cons,
    List.contains_nil, Bool.or_false, Bool.or_eq_true, beq_iff_eq, linux, bsd]
  omega

end FileGateway.ErrorNumber
