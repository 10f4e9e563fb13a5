/-! An address is `name:port`. The port stands behind the last colon, so that a name may
hold colons. Lists of hosts are separated by commas, with blanks around the hosts, which
are characters with the Unicode property White_Space. -/
namespace FileGateway

namespace Blank

/-- The ranges of code points with the property White_Space. -/
def ranges : List (Nat × Nat) :=
  [(0x9, 0xD), (0x20, 0x20), (0x85, 0x85), (0xA0, 0xA0), (0x1680, 0x1680), (0x2000, 0x200A),
    (0x2028, 0x2029), (0x202F, 0x202F), (0x205F, 0x205F), (0x3000, 0x3000)]

def isBlank (c : Char) : Bool :=
  ranges.any (fun (first, last) => first ≤ c.toNat && c.toNat ≤ last)

/-- The characters without the blanks at their start. -/
def trimStart (text : List Char) : List Char := text.dropWhile isBlank

/-- The characters without the blanks at their end. -/
def trimEnd (text : List Char) : List Char := (trimStart text.reverse).reverse

/-- The characters without the blanks at either end. -/
def trim (text : List Char) : List Char := trimEnd (trimStart text)

end Blank

namespace Address

/-- The text before and after the last colon. -/
def splitLastColon (text : List Char) : Option (List Char × List Char) :=
  let reversed := text.reverse
  match reversed.dropWhile (· ≠ ':') with
  | [] => none
  | _ :: before => some (before.reverse, (reversed.takeWhile (· ≠ ':')).reverse)

/-- The number that decimal digits denote. -/
def decimal (digits : List Char) : Nat :=
  digits.foldl (fun total digit => total * 10 + (digit.toNat - '0'.toNat)) 0

/-- The greatest port number. -/
def maxPort : Nat := 65535

/-- A port: an optional plus sign and one or more ASCII digits, at most
`maxPort` in value. -/
def port? (text : List Char) : Option Nat :=
  let digits := match text with
    | '+' :: rest => rest
    | all => all
  if digits ≠ [] ∧ digits.all Char.isDigit ∧ decimal digits ≤ maxPort then some (decimal digits)
  else none

/-- The name in an address, which is the whole text if it has no port. -/
def hostName (address : String) : String :=
  match splitLastColon address.toList with
  | some (name, _) => String.ofList name
  | none => address

/-- A name and a port as an address. -/
def ofPort (name : String) (port : Nat) : String := name ++ ":" ++ toString port

/-- The address with its port in plain decimal, by which the network knows the
gateway; `none` if there is no valid port. -/
def canonical? (address : String) : Option String :=
  match splitLastColon address.toList with
  | some (name, port) => (port? port).map (ofPort (String.ofList name))
  | none => none

/-- The pieces between commas without the blanks around them; blank pieces are
left out. -/
def splitList (list : String) : List String :=
  ((list.toList.splitOn ',').map Blank.trim).filter (· ≠ []) |>.map String.ofList

end Address
end FileGateway
