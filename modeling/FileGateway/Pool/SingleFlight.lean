import FileGateway.Pool

/-! Callers that want a client for one address at the same time wait for each other at a
gate of that address, so that one of them connects and the others find its client. A
gate exists while some caller holds it. Every caller moves through the stages below, one
atomic step at a time, and a schedule says who moves next. The lookups and the connect
are those of the pool. -/
namespace FileGateway.SingleFlight

/-- Gates are numbered in the order in which they are made. -/
abbrev GateId := Nat

abbrev Outcome := Except GatewayError ClientId

/-- What a caller does next. -/
inductive Stage where
  /-- Look for a client. -/
  | lookup
  /-- Take hold of the gate of the address, which is made if there is none. -/
  | approach
  /-- Pass the gate once nobody is inside. -/
  | wait (gate : GateId)
  /-- Look for a client again, which another caller may have connected. -/
  | recheck (gate : GateId)
  /-- Connect and add the client to the pool. -/
  | connect (gate : GateId)
  /-- Let the next caller pass. -/
  | leave (gate : GateId) (outcome : Outcome)
  /-- Give the gate back, and remove it if nobody else holds it. -/
  | release (gate : GateId) (outcome : Outcome)
  | finished (outcome : Outcome)

/-- The gate that a caller holds. -/
def Stage.gate? : Stage → Option GateId
  | lookup | approach | finished _ => none
  | wait gate | recheck gate | connect gate | leave gate _ | release gate _ => some gate

/-- The gate that a caller has passed and not yet left. -/
def Stage.inside? : Stage → Option GateId
  | recheck gate | connect gate | leave gate _ => some gate
  | lookup | approach | wait _ | release .. | finished _ => none

structure Caller where
  address : String
  stage : Stage := .lookup

structure State where
  pool : Pool
  network : Network
  now : Nat
  /-- The gates by address. -/
  gates : List (String × GateId) := []
  /-- How many gates were ever made. -/
  made : Nat := 0
  callers : List Caller

namespace State

/-- Whether some caller is inside a gate. -/
def isOccupied (state : State) (gate : GateId) : Bool :=
  state.callers.any (fun caller => caller.stage.inside? == some gate)

/-- How often a gate is referred to, by its address and by callers. -/
def references (state : State) (gate : GateId) : Nat :=
  state.gates.countP (fun (_, known) => known == gate)
    + state.callers.countP (fun caller => caller.stage.gate? == some gate)

def setStage (state : State) (index : Nat) (stage : Stage) : State :=
  { state with callers := state.callers.modify index (fun caller => { caller with stage }) }

/-- Moves the caller at `index` by one step. There is no step for a caller that
has finished, or that waits at an occupied gate. -/
def step (state : State) (index : Nat) : Option State := do
  let caller ← state.callers[index]?
  match caller.stage with
  | .lookup =>
    match state.pool.live state.network state.now caller.address with
    | (some id, pool) => some ({ state with pool }.setStage index (.finished (.ok id)))
    | (none, pool) => some ({ state with pool }.setStage index .approach)
  | .approach =>
    match state.gates.lookup caller.address with
    | some gate => some (state.setStage index (.wait gate))
    | none =>
      let gates := (caller.address, state.made) :: state.gates
      some ({ state with gates, made := state.made + 1 }.setStage index (.wait state.made))
  | .wait gate =>
    if state.isOccupied gate then none else some (state.setStage index (.recheck gate))
  | .recheck gate =>
    match state.pool.live state.network state.now caller.address with
    | (some id, pool) => some ({ state with pool }.setStage index (.leave gate (.ok id)))
    | (none, pool) => some ({ state with pool }.setStage index (.connect gate))
  | .connect gate =>
    let (outcome, pool, network) := state.pool.connect state.network state.now caller.address
    some ({ state with pool, network }.setStage index (.leave gate outcome))
  | .leave gate outcome => some (state.setStage index (.release gate outcome))
  | .release gate outcome =>
    let gates :=
      if state.references gate ≤ 2 then
        state.gates.filter (fun (address, _) => address ≠ caller.address)
      else state.gates
    some ({ state with gates }.setStage index (.finished outcome))
  | .finished _ => none

/-- Moves callers in the order of a schedule, as long as each of them can move. -/
def run (state : State) : List Nat → Option State
  | [] => some state
  | index :: schedule => do (← state.step index).run schedule

end State
end FileGateway.SingleFlight
