import FileGateway.CommandLine

/-! The words of a command line as arguments. Options stand anywhere and take the word after
them as their value; the other words are the command, its path and, for attributes, a
name. -/
namespace FileGateway.CommandLine

inductive OptionError where
  | missingValue (option : String)
  | unknownOption (option : String)
  | notNumber (option value : String)
  | missingHosts
  | missingCommand
  | unknownCommand (words : List String)
  deriving DecidableEq, Repr

def OptionError.message : OptionError → String
  | missingValue option => "option " ++ option ++ " needs a value"
  | unknownOption option => "unknown option " ++ option
  | notNumber option value => "option " ++ option ++ " needs a number, not " ++ value
  | missingHosts => "option --hosts is required"
  | missingCommand => "a command is required: stat, ls, xattr or blocks"
  | unknownCommand words => "cannot read the command: " ++ " ".intercalate words

structure Options where
  hosts : Option String := none
  port : UInt16 := 9090
  blockSize : UInt64 := 4 * 1024 * 1024
  start : UInt64 := 0
  length : Option UInt64 := none
  /-- The words that belong to no option, the last one first. -/
  words : List String := []
  deriving DecidableEq, Repr

namespace Options

/-- A value in decimal digits below `bound`. -/
def number (option value : String) (bound : Nat) : Except OptionError Nat :=
  let digits := value.toList
  if digits ≠ [] ∧ digits.all Char.isDigit ∧ Address.decimal digits < bound then
    .ok (Address.decimal digits)
  else .error (.notNumber option value)

def word (option value : String) : Except OptionError UInt64 :=
  (number option value UInt64.size).map UInt64.ofNat

/-- The options with the value of one more. -/
def set (options : Options) (option value : String) : Except OptionError Options :=
  match option with
  | "--hosts" => .ok { options with hosts := some value }
  | "--port" => do return { options with port := UInt16.ofNat (← number option value UInt16.size) }
  | "--block-size" => do return { options with blockSize := ← word option value }
  | "--start" => do return { options with start := ← word option value }
  | "--len" => do return { options with length := some (← word option value) }
  | _ => .error (.unknownOption option)

/-- Reads the words after those that gave `options`. -/
def read (options : Options) : List String → Except OptionError Options
  | [] => .ok options
  | word :: rest =>
    if word.startsWith "--" then
      match rest with
      | [] => .error (.missingValue word)
      | value :: rest =>
        match options.set word value with
        | .error error => .error error
        | .ok options => read options rest
    else read { options with words := word :: options.words } rest

def command (options : Options) : Except OptionError Command :=
  match options.words.reverse with
  | [] => .error .missingCommand
  | ["stat", path] => .ok (.stat path)
  | ["ls", path] => .ok (.list path)
  | ["xattr", path] => .ok (.attributes path none)
  | ["xattr", path, name] => .ok (.attributes path (some name))
  | ["blocks", path] => .ok (.blocks path options.start options.length)
  | words => .error (.unknownCommand words)

end Options

/-- The arguments that the words of a command line stand for. -/
def Arguments.ofWords (words : List String) : Except OptionError Arguments := do
  let options ← Options.read {} words
  match options.hosts with
  | none => throw .missingHosts
  | some hosts =>
    let command ← options.command
    return { hosts, port := options.port, blockSize := options.blockSize, command }

end FileGateway.CommandLine
