import FileGateway.Hub

/-! One task per host asks a question. The tasks share the hub and a number of workers, and
each moves one atomic step at a time; a schedule says which of them moves next. Gates of
addresses are those of `SingleFlight`, seen from outside: one task at a time is between its
second lookup and the end of its connect. What a task gives goes to the place of its host,
whenever it comes. -/
namespace FileGateway

/-- The questions that are asked of all hosts of a monitor. -/
inductive Question : Type → Type where
  | cachedBlocks (path : String) : Question Bitmap
  | attributeNames (path : String) : Question (List String)
  | attributeValue (path name : String) : Question ByteArray

def Question.query {α : Type} : Question α → Query α
  | cachedBlocks path => .cachedBlocks path
  | attributeNames path => .attributeNames path
  | attributeValue path name => .attributeValue path name

namespace FanOut
variable {α : Type}

abbrev Outcome (α : Type) := Except GatewayError (Option α)

/-- What a task does next. -/
inductive Stage (α : Type) where
  /-- Wait for a free worker. -/
  | waiting
  /-- Look for the client of the host. -/
  | lookup
  /-- Pass the gate of the address once nobody is inside. -/
  | approach (address : String)
  /-- Look for a client again, which another task may have connected. -/
  | recheck (address : String)
  /-- Connect, add the client to the pool and leave the gate. -/
  | connect (address : String)
  /-- Ask the client. -/
  | query (id : ClientId)
  /-- Forget a client that a failure made useless, and give the worker back. -/
  | discard (error : GatewayError)
  | finished (outcome : Outcome α)

namespace Stage

/-- The address behind whose gate a task is. -/
def inside? : Stage α → Option String
  | recheck address | connect address => some address
  | waiting | lookup | approach _ | query _ | discard _ | finished _ => none

/-- Whether a task keeps a worker busy. -/
def isBusy : Stage α → Bool
  | waiting | finished _ => false
  | lookup | approach _ | recheck _ | connect _ | query _ | discard _ => true

def outcome? : Stage α → Option (Outcome α)
  | finished outcome => some outcome
  | waiting | lookup | approach _ | recheck _ | connect _ | query _ | discard _ => none

/-- One step of the task of a host. There is none for a task that has finished, or whose
gateway does not answer. -/
def advance (question : Question α) (now : Nat) (host : String) (hub : Hub) :
    Stage α → Option (Stage α × Hub)
  | waiting => some (lookup, hub)
  | lookup =>
    match hub.pool.settings.resolve host with
    | .error error => some (finished (.error error), hub)
    | .ok address =>
      match hub.pool.live hub.network now address with
      | (some id, pool) => some (query id, { hub with pool })
      | (none, pool) => some (approach address, { hub with pool })
  | approach address => some (recheck address, hub)
  | recheck address =>
    match hub.pool.live hub.network now address with
    | (some id, pool) => some (query id, { hub with pool })
    | (none, pool) => some (connect address, { hub with pool })
  | connect address =>
    match hub.pool.connect hub.network now address with
    | (.error error, pool, network) => some (finished (.error error), ⟨pool, network⟩)
    | (.ok id, pool, network) => some (query id, ⟨pool, network⟩)
  | query id =>
    match question.query hub.network id with
    | (.error .cancelled, _) => none
    | (.error (.error error), network) => some (discard error, { hub with network })
    | (.ok value, network) => some (finished (.ok value), { hub with network })
  | discard error => some (finished (.error error), hub.discardAfter host error)
  | finished _ => none

end Stage

structure Task (α : Type) where
  host : String
  stage : Stage α := .waiting

structure State (α : Type) where
  hub : Hub
  now : Nat
  tasks : List (Task α)
  /-- What the tasks gave, by the places of their hosts, in the order in which they finished. -/
  given : List (Nat × Outcome α) := []

namespace State

def start (hub : Hub) (now : Nat) (hosts : List String) : State α where
  hub
  now
  tasks := hosts.map (fun host => { host })

/-- The number of busy workers. -/
def busy (state : State α) : Nat := state.tasks.countP (fun task => task.stage.isBusy)

/-- Whether the other tasks let a task move. -/
def lets (state : State α) (task : Task α) : Bool :=
  match task.stage with
  | .waiting => state.busy < max state.hub.pool.settings.fanoutWorkers 1
  | .approach address => state.tasks.all (fun other => other.stage.inside? != some address)
  | .lookup | .recheck _ | .connect _ | .query _ | .discard _ | .finished _ => true

/-- Moves the task at a place by one step. -/
def step (question : Question α) (state : State α) (index : Nat) : Option (State α) := do
  let task ← state.tasks[index]?
  guard (state.lets task)
  let (stage, hub) ← task.stage.advance question state.now task.host state.hub
  return { state with
    hub
    tasks := state.tasks.set index { task with stage }
    given := state.given ++ (stage.outcome?.map (index, ·)).toList }

/-- Moves tasks in the order of a schedule, as long as each of them can move. -/
def run (question : Question α) (state : State α) : List Nat → Option (State α)
  | [] => some state
  | index :: schedule => do run question (← state.step question index) schedule

def isDone (state : State α) : Bool := state.tasks.all (fun task => task.stage.outcome?.isSome)

/-- Puts what a task gave at its place. A failure leaves the place empty. -/
def place (values : List (Option α)) : Nat × Outcome α → List (Option α)
  | (index, .ok value) => values.set index value
  | (_, .error _) => values

/-- The answers once every task has finished. -/
def answers (state : State α) : List (HostAnswer α) :=
  let values := state.given.foldl place (List.replicate state.tasks.length none)
  List.zipWith (fun task value => ⟨task.host, value⟩) state.tasks values

end State
end FanOut
end FileGateway
