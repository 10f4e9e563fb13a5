import FileGateway.CommandLine.Log
import FileGateway.Text.Timestamp

/-! What each command asks of the gateways and the lines that it prints. A report holds the
printed lines, in order, and how the command came to its end. The log goes to standard
output as well, and all of it comes before the first line, since a command prints once its
calls are over. -/
namespace FileGateway.CommandLine

inductive Command where
  | stat (path : String)
  | list (path : String)
  | attributes (path : String) (name : Option String)
  | blocks (path : String) (start : UInt64) (length : Option UInt64)
  deriving DecidableEq, Repr

structure Arguments where
  /-- Hosts separated by commas. -/
  hosts : String
  /-- The port of hosts without one. -/
  port : UInt16
  blockSize : UInt64
  command : Command
  deriving DecidableEq, Repr

inductive CommandError where
  | noHostsGiven
  | gateway (error : GatewayError)
  deriving DecidableEq, Repr

/-- The messages of the error and of its causes under the one message that every
command fails with. -/
def CommandError.message (error : CommandError) : String :=
  let chain := match error with
    | noHostsGiven => ["no gateway hosts given"]
    | gateway error => error.message :: error.causes
  ": ".intercalate ("gateway command failed" :: chain)

/-- How a command ends. -/
inductive Ending where
  | finished
  | failed (error : CommandError)
  /-- A gateway never answered. -/
  | gaveUp
  /-- The program went down. -/
  | crashed (fault : AllocationFault)
  deriving DecidableEq, Repr

structure Report where
  log : List LogRecord := []
  lines : List String := []
  ending : Ending := .finished
  deriving DecidableEq, Repr

namespace Report

/-- All that stands on standard output. -/
def output (report : Report) : List String := report.log.map LogRecord.message ++ report.lines

def ofError (error : GatewayError) : Report := { ending := .failed (.gateway error) }

def ofFailure : Failure → Report
  | .error cause => ofError cause
  | .cancelled => { ending := .gaveUp }

/-- One line per answer, if the question was not given up. -/
def ofAnswers {α : Type} (line : HostAnswer α → String) : Option (List (HostAnswer α)) → Report
  | some answers => { lines := answers.map line }
  | none => { ending := .gaveUp }

def ofHalt : Monitor.Halt → Report
  | .gaveUp => { ending := .gaveUp }
  | .crashed fault => { ending := .crashed fault }

end Report

/-- The number in octal. -/
def octal (number : Nat) : String := String.ofList (Nat.toDigits 8 number)

/-- Blanks that fill a text up to a width. -/
def filling (width : Nat) (text : String) : String :=
  String.ofList (List.replicate (width - text.length) ' ')

def statLines (path : String) (stat : FileStat) : List String :=
  ["path:    " ++ path,
    "size:    " ++ toString stat.size.toInt,
    "mode:    " ++ octal stat.mode.toNat,
    "owner:   " ++ toString stat.uid.toNat ++ ":" ++ toString stat.gid.toNat,
    "links:   " ++ toString stat.nlink.toNat,
    "inode:   " ++ toString stat.ino.toNat ++ " (dev " ++ toString stat.dev.toNat ++ ")",
    "blocks:  " ++ toString stat.blocks.toInt ++ " x " ++ toString stat.blksize.toInt]
    ++ ((Timestamp.render? stat.mtime.toInt).map ("mtime:   " ++ ·)).toList

/-- A host with what it answered, and a dash if it did not. -/
def answerLine {α : Type} (render : α → String) (answer : HostAnswer α) : String :=
  answer.host ++ ": " ++ (match answer.value with
    | some value => render value
    | none => "-")

/-- A location in columns: the offset to the right in twelve places, the length to
the left in ten. -/
def locationLine (location : BlockLocation) : String :=
  let offset := toString location.offset.toNat
  let length := toString location.length.toNat
  filling 12 offset ++ offset ++ " +" ++ length ++ filling 10 length ++ " "
    ++ ",".intercalate location.hosts

/-- Calls the first host. -/
def callFirst (hub : Hub) (now : Nat) (host : String) (request : Request)
    (lines : request.Answer → List String) : Report × Hub :=
  match hub.client now host with
  | (.error error, next) => (.ofError error, next)
  | (.ok id, next) =>
    let log := Log.ofClient hub.network next.network id ++ Log.ofCall next.network id request
    match next.network.perform id request with
    | (.error failure, network) => ({ Report.ofFailure failure with log }, { next with network })
    | (.ok answer, network) => ({ log, lines := lines answer }, { next with network })

/-- Asks every host, and prints a line for each. -/
def reportAnswers {α : Type} (monitor : Monitor) (hub : Hub) (now : Nat) (question : Question α)
    (render : α → String) : Report × Hub :=
  let (answers, next) := monitor.survey hub now question.query
  ({ Report.ofAnswers (answerLine render) answers with
    log := Log.ofSurvey now question hub monitor.hosts }, next)

/-- Prints the locations of a byte range, by default of the rest of the file. -/
def reportBlocks (monitor : Monitor) (hub : Hub) (memory now : Nat) (path : String)
    (start : UInt64) (length : Option UInt64) : Report × Hub :=
  let length := length.getD maxOffset
  let log := Log.ofPlace monitor hub now path start length
  match monitor.blockLocations hub memory now path start length with
  | (.error halt, _, next) => ({ Report.ofHalt halt with log }, next)
  | (.ok locations, _, next) =>
    let notice := if locations = [] then ["no blocks in range"] else []
    ({ log, lines := notice ++ locations.map locationLine }, next)

/-- Questions to every host of the settings. -/
def reportMonitor (hub : Hub) (report : Monitor → Report × Hub) : Report × Hub :=
  match Monitor.ofSettings hub.pool.settings with
  | .error error => (.ofError error, hub)
  | .ok monitor => report monitor

def execute (memory : Nat) (hub : Hub) (now : Nat) (first : String) : Command → Report × Hub
  | .stat path => callFirst hub now first (.getStat path) (statLines path)
  | .list path => callFirst hub now first (.readDirectoryEntries path) (fun names => names)
  | .attributes path (some name) => reportMonitor hub fun monitor =>
    reportAnswers monitor hub now (.attributeValue path name) Utf8.decodeLossy
  | .attributes path none => reportMonitor hub fun monitor =>
    reportAnswers monitor hub now (.attributeNames path) (", ".intercalate ·)
  | .blocks path start length => reportMonitor hub fun monitor =>
    reportBlocks monitor hub memory now path start length

/-- The settings of a command. -/
def Arguments.settings (arguments : Arguments) : Settings where
  hosts := Address.splitList arguments.hosts
  defaultPort := arguments.port
  blockSize := arguments.blockSize

/-- Runs a command on a network, with an empty pool, on a machine with room for a list of
`memory` octets. -/
def run (memory : Nat) (arguments : Arguments) (network : Network) : Report × Network :=
  let settings := arguments.settings
  match settings.hosts with
  | [] => ({ ending := .failed .noHostsGiven }, network)
  | first :: _ =>
    let (report, hub) :=
      execute memory ⟨.ofSettings settings, network⟩ 0 first arguments.command
    (report, hub.network)

end FileGateway.CommandLine
