import FileGateway.Block.Placement
import FileGateway.Hub
import FileGateway.StatCache

/-! A monitor asks its hosts what they hold for a file, and answers a byte range of the file
by the locations of its blocks. -/
namespace FileGateway

structure Monitor where
  /-- The hosts as they were listed. -/
  hosts : List String
  stats : StatCache
  deriving DecidableEq

namespace Monitor
variable {α : Type}

/-- A monitor of listed hosts. Every host must have a valid address. -/
def ofHosts (settings : Settings) (hosts : List String) : Except GatewayError Monitor := do
  if hosts = [] then
    throw .noHosts
  if settings.blockSize = 0 then
    throw (.invalidArgument .zeroBlockSize)
  let _ ← hosts.mapM settings.resolve
  return ⟨hosts, .ofSettings settings⟩

/-- A monitor of the hosts in the settings. -/
def ofSettings (settings : Settings) : Except GatewayError Monitor :=
  ofHosts settings settings.hosts

/-- Asks every host. -/
def survey (monitor : Monitor) (hub : Hub) (now : Nat) (query : Query α) :
    Option (List (HostAnswer α)) × Hub :=
  hub.askAll now query (max hub.pool.settings.fanoutWorkers 1) monitor.hosts

/-- The metadata of a path at one host. -/
def statAt (stats : StatCache) (hub : Hub) (now : Nat) (path host : String) :
    Except Failure FileStat × StatCache × Hub :=
  match hub.client now host with
  | (.error error, hub) => (.error (.error error), stats, hub)
  | (.ok id, hub) =>
    match stats.stat hub.network now id path with
    | (.error (.error error), stats, network) =>
      (.error (.error error), stats, { hub with network }.discardAfter host error)
    | (result, stats, network) => (result, stats, { hub with network })

/-- The length of a file at the first of the hosts that gives its metadata. The
outer option is absent if a call was given up. -/
def lengthAt (now : Nat) (path : String) :
    StatCache → Hub → List String → Option (Option UInt64) × StatCache × Hub
  | stats, hub, [] => (some none, stats, hub)
  | stats, hub, host :: hosts =>
    match statAt stats hub now path host with
    | (.ok stat, stats, hub) => (some (some stat.length), stats, hub)
    | (.error .cancelled, stats, hub) => (none, stats, hub)
    | (.error (.error _), stats, hub) => lengthAt now path stats hub hosts

/-- The length of a file, if some host knows it. -/
def fileLength (monitor : Monitor) (hub : Hub) (now : Nat) (path : String) :
    Option (Option UInt64) × Monitor × Hub :=
  let (length, stats, hub) := lengthAt now path monitor.stats hub monitor.hosts
  (length, { monitor with stats }, hub)

/-- Places `length` bytes of a file from `start` on. The range is cut at the end
of the file where its length is known, and no host is asked for its blocks if
nothing is left. There is no placement if a call was given up. -/
def place (monitor : Monitor) (hub : Hub) (now : Nat) (path : String) (start length : UInt64) :
    Option Placement × Monitor × Hub :=
  let settings := hub.pool.settings
  match monitor.fileLength hub now path with
  | (none, monitor, hub) => (none, monitor, hub)
  | (some fileLength, monitor, hub) =>
    let requested := saturatingAdd start length
    let stop := match fileLength with
      | some fileLength => min requested fileLength
      | none => requested
    let placement : Placement := {
      holders := {}
      start
      stop
      fileEnd := fileLength.getD maxOffset
      blockSize := settings.blockSize
      placeholder := settings.localPlaceholder }
    if placement.isEmpty then (some placement, monitor, hub)
    else
      match monitor.survey hub now (.cachedBlocks path) with
      | (none, hub) => (none, monitor, hub)
      | (some answers, hub) =>
        let holders := Holders.ofAnswers answers placement.firstBlock placement.lastBlock
        (some { placement with holders }, monitor, hub)

/-- Why block locations are not given to their caller. -/
inductive Halt where
  /-- A gateway never answered. -/
  | gaveUp
  /-- There was no list for them. -/
  | crashed (fault : AllocationFault)
  deriving DecidableEq, Repr

/-- The locations of `length` bytes of a file from `start` on, on a machine with room
for a list of `memory` octets. -/
def blockLocations (monitor : Monitor) (hub : Hub) (memory now : Nat) (path : String)
    (start length : UInt64) : Except Halt (List BlockLocation) × Monitor × Hub :=
  match monitor.place hub now path start length with
  | (none, monitor, hub) => (.error .gaveUp, monitor, hub)
  | (some placement, monitor, hub) =>
    ((placement.collect memory).mapError .crashed, monitor, hub)

end Monitor
end FileGateway
