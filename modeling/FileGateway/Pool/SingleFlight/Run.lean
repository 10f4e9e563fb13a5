import FileGateway.Hub.Run
import FileGateway.Pool.SingleFlight

/-! Callers come and go in any order, and meanwhile the pool and the clients are used by others.
A run is a list of all that happens, one move after another. -/
namespace FileGateway.SingleFlight

inductive Move where
  /-- The caller at a place takes a step. -/
  | caller (index : Nat)
  /-- Something else happens to the pool, to a client or to the gateways. -/
  | turn (turn : Hub.Turn)

namespace State

/-- Nobody has begun. A caller may begin at any time later. -/
def start (pool : Pool) (network : Network) (now : Nat) (addresses : List String) : State where
  pool
  network
  now
  callers := addresses.map (fun address => { address })

def timed (state : State) : Hub.Timed := ⟨state.now, ⟨state.pool, state.network⟩⟩

def turn (state : State) (turn : Hub.Turn) : State :=
  let timed := Hub.turn state.timed turn
  { state with now := timed.now, pool := timed.hub.pool, network := timed.hub.network }

def move (state : State) : Move → Option State
  | .caller index => state.step index
  | .turn turn => some (state.turn turn)

/-- What comes of moves in order, as long as each of them can happen. -/
def play (state : State) : List Move → Option State
  | [] => some state
  | move :: moves => do (← state.move move).play moves

/-- What connecting an address gives, if a move is a caller's connect of it. -/
def connect? (state : State) (address : String) : Move → Option Outcome
  | .caller index =>
    match state.callers[index]? with
    | some ⟨place, .connect _⟩ =>
      if place = address then some (state.pool.connect state.network state.now address).1 else none
    | _ => none
  | .turn _ => none

/-- What the connects of an address give that moves make, the earliest first. -/
def connects (state : State) (address : String) : List Move → List Outcome
  | [] => []
  | move :: moves =>
    let later := match state.move move with
      | some next => next.connects address moves
      | none => []
    (state.connect? address move).toList ++ later

/-- What the calls for an address gave that have come to their end. -/
def returned (state : State) (address : String) : List Outcome :=
  state.callers.filterMap (fun caller =>
    match caller with
    | ⟨place, .finished outcome⟩ => if place = address then some outcome else none
    | _ => none)

end State
end FileGateway.SingleFlight
