import FileGateway.CommandLine.Options
import FileGateway.Network.Script

/-! Runs one command against the scripted gateways that standard input describes. -/

namespace FileGateway

/-- The lines of a stream up to its end, without the line ends. -/
partial def readLines (stream : IO.FS.Stream) (lines : List String) : IO (List String) := do
  let line ← stream.getLine
  if line.isEmpty then return lines.reverse
  else readLines stream (String.ofList (Blank.trimEnd line.toList) :: lines)

/-- The room that a process has for a list, by the addresses that are open to it. -/
def addressSpace : Nat := 0x800000000000

end FileGateway

open FileGateway in
/-- Prints the log and what the command prints, and ends with the code 0 if it finished.
The failure of a command is the last record of the log. A command that would wait for an
answer for ever ends here. -/
def main (words : List String) : IO UInt32 := do
  match CommandLine.Arguments.ofWords words with
  | .error error =>
    IO.eprintln error.message
    return 2
  | .ok arguments =>
    let script ← readLines (← IO.getStdin) []
    let (report, _) := CommandLine.run addressSpace arguments (Script.network script)
    for line in report.output do
      IO.println line
    match report.ending with
    | .finished => return 0
    | .failed error =>
      IO.println ("Error: " ++ error.message)
      return 1
    | .gaveUp => return 1
    | .crashed fault =>
      IO.eprintln fault.message
      return match fault with
        | .capacityOverflow => 101
        | .outOfMemory _ => 134
