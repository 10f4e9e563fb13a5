import FileGateway.Hub.FanOut.Run
import FileGateway.Monitor
import FileGateway.Network.Sending
import FileGateway.StatCache.Run

/-! A lookup of a file's length takes its time. It visits the hosts of a monitor one after
another, each in atomic steps. In between, gateways come and go, octets arrive and connections
fail, but nobody else uses the hub or the cache of metadata. A run is a list of all that
happens, one move after another. -/
namespace FileGateway.Lookup

/-- What a lookup does next at the host that it visits. -/
inductive Stage where
  /-- Look for the client of the host. -/
  | lookup
  /-- Pass the gate of the address, where nobody else is. -/
  | approach (address : String)
  /-- Look for a client again. -/
  | recheck (address : String)
  /-- Connect, and add the client to the pool. -/
  | connect (address : String)
  /-- Look the path up in the cache of metadata. -/
  | consult (id : ClientId)
  /-- Ask the client. -/
  | query (id : ClientId)
  /-- Forget a client that a failure made useless. -/
  | discard (error : GatewayError)
  /-- Go on to the next host. -/
  | failed (error : GatewayError)
  | found (stat : FileStat)

namespace Stage

/-- One step at a host. There is none once the host has failed or the metadata is found, or while
the gateway does not answer. -/
def advance (now : Nat) (path host : String) (stats : StatCache) (hub : Hub) :
    Stage → Option (Stage × StatCache × Hub)
  | lookup =>
    match hub.pool.settings.resolve host with
    | .error error => some (failed error, stats, hub)
    | .ok address =>
      match hub.pool.live hub.network now address with
      | (some id, pool) => some (consult id, stats, { hub with pool })
      | (none, pool) => some (approach address, stats, { hub with pool })
  | approach address => some (recheck address, stats, hub)
  | recheck address =>
    match hub.pool.live hub.network now address with
    | (some id, pool) => some (consult id, stats, { hub with pool })
    | (none, pool) => some (connect address, stats, { hub with pool })
  | connect address =>
    match hub.pool.connect hub.network now address with
    | (.error error, pool, network) => some (failed error, stats, ⟨pool, network⟩)
    | (.ok id, pool, network) => some (consult id, stats, ⟨pool, network⟩)
  | consult id =>
    match stats.cached now path with
    | (some stat, stats) => some (found stat, stats, hub)
    | (none, stats) => some (query id, stats, hub)
  | query id =>
    match stats.fetch hub.network now id path with
    | (.error .cancelled, _, _) => none
    | (.error (.error error), stats, network) =>
      some (discard error, stats, { hub with network })
    | (.ok stat, stats, network) => some (found stat, stats, { hub with network })
  | discard error => some (failed error, stats, hub.discardAfter host error)
  | failed _ | found _ => none

/-- What becomes of a host whose connection fails, in the exchange after some octets have come or
while it is being made. -/
def breakOff (path : String) (reply : Reply) (fault : LinkFault) (hub : Hub) :
    Stage → Option (Stage × Hub)
  | connect address =>
    let attempted := hub.network.record (.attempt (Network.gatewayName address))
    some (failed (.connect address fault), { hub with network := attempted })
  | query id =>
    match (hub.network.client id).interrupt (.getStat path) reply (.fault fault) with
    | (.error (.error error), client) =>
      some (discard error, { hub with network := hub.network.setClient id client })
    | _ => none
  | lookup | approach _ | recheck _ | consult _ | discard _ | failed _ | found _ => none

def sends? (path : String) (hub : Hub) : Stage → Option NetworkEvent
  | connect address => some (.attempt (Network.gatewayName address))
  | query id => hub.network.sends? id (.getStat path)
  | lookup | approach _ | recheck _ | consult _ | discard _ | failed _ | found _ => none

end Stage

structure State where
  hub : Hub
  stats : StatCache
  now : Nat
  path : String
  /-- The hosts that have not failed yet. The first of them is visited. -/
  hosts : List String
  /-- Why the hosts before them failed, in the order of the list. -/
  failures : List GatewayError := []
  stage : Stage := .lookup

inductive Move where
  /-- The lookup takes a step. -/
  | step
  /-- The connection to the visited host fails. -/
  | fault (reply : Reply) (fault : LinkFault)
  /-- Gateways come up or go down, or change the replies that they will give. -/
  | gateways (gateways : List (String × Gateway))
  /-- Octets come to a client, or its stream ends, outside any exchange. -/
  | arrival (id : ClientId) (reply : Reply)
  | advance (duration : Nat)

/-- Whether a move brings the lookup nearer to its end. -/
def Move.isOwn : Move → Bool
  | step | fault _ _ => true
  | gateways _ | arrival _ _ | advance _ => false

namespace State

def start (monitor : Monitor) (hub : Hub) (now : Nat) (path : String) : State where
  hub
  stats := monitor.stats
  now
  path
  hosts := monitor.hosts

def step (state : State) : Option State :=
  match state.hosts, state.stage with
  | [], _ => none
  | _ :: hosts, .failed error =>
    some { state with hosts, failures := state.failures ++ [error], stage := .lookup }
  | host :: _, stage => do
    let (stage, stats, hub) ← stage.advance state.now state.path host state.stats state.hub
    return { state with hub, stats, stage }

def move (state : State) : Move → Option State
  | .step => state.step
  | .fault reply fault => do
    let (stage, hub) ← state.stage.breakOff state.path reply fault state.hub
    return { state with hub, stage }
  | .gateways gateways =>
    some { state with hub := { state.hub with network := { state.hub.network with gateways } } }
  | .arrival id reply =>
    some { state with hub := { state.hub with network := state.hub.network.arrival id reply } }
  | .advance duration => some { state with now := state.now + duration }

/-- What comes of moves in order, as long as each of them can happen. -/
def play (state : State) : List Move → Option State
  | [] => some state
  | move :: moves => do (← state.move move).play moves

/-- The length of the file once the lookup has ended. There is none if every host failed. -/
def result? (state : State) : Option (Option UInt64) :=
  match state.hosts, state.stage with
  | [], _ => some none
  | _ :: _, .found stat => some (some stat.length)
  | _ :: _, _ => none

/-- What a move sends. -/
def sends? (state : State) (move : Move) : Option Sending :=
  if move.isOwn then
    (state.stage.sends? state.path state.hub).map (⟨state.failures.length, ·⟩)
  else none

/-- What moves in order send, the earliest first. -/
def sendings (state : State) : List Move → List Sending
  | [] => []
  | move :: moves =>
    (state.sends? move).toList ++
      match state.move move with
      | some next => next.sendings moves
      | none => []

end State
end FileGateway.Lookup
