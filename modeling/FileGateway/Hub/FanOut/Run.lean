import FileGateway.Client.Session
import FileGateway.Hub.FanOut

/-! A fan-out takes its time. While its tasks move, gateways come and go, octets arrive and
connections fail. A run is a list of all that happens, one move after another. -/
namespace FileGateway

/-- The request that a question puts to each client. -/
def Question.request {α : Type} : Question α → Request
  | cachedBlocks path => .getExtendedAttr path Request.cachedBlocksAttribute
  | attributeNames path => .listExtendedAttr path
  | attributeValue path name => .getExtendedAttr path name

/-- The network after octets came to a client, or its stream ended, outside any exchange. -/
def Network.arrival (network : Network) (id : ClientId) (reply : Reply) : Network :=
  let client := network.client id
  network.setClient id { client with stream := client.stream.receive reply }

namespace FanOut
variable {α : Type}

/-- What happens during a fan-out. -/
inductive Move where
  /-- The task at a place takes a step. -/
  | task (index : Nat)
  /-- The connection of the task at a place fails, in its exchange after some octets have come or
  while it is being made. -/
  | fault (index : Nat) (reply : Reply) (fault : LinkFault)
  /-- Gateways come up or go down, or change the replies that they will give. -/
  | gateways (gateways : List (String × Gateway))
  /-- Octets come to a client, or its stream ends, outside any exchange. -/
  | arrival (id : ClientId) (reply : Reply)
  | advance (duration : Nat)

/-- What a task comes to whose connection fails. It has one when it connects or asks. -/
def Stage.breakOff (question : Question α) (reply : Reply) (fault : LinkFault) (hub : Hub) :
    Stage α → Option (Stage α × Hub)
  | connect address =>
    let attempted := hub.network.record (.attempt (Network.gatewayName address))
    some (finished (.error (.connect address fault)), { hub with network := attempted })
  | query id =>
    match (hub.network.client id).interrupt question.request reply (.fault fault) with
    | (.error (.error error), client) =>
      some (discard error, { hub with network := hub.network.setClient id client })
    | _ => none
  | waiting | lookup | approach _ | recheck _ | discard _ | finished _ => none

namespace State

def move (question : Question α) (state : State α) : Move → Option (State α)
  | .task index => state.step question index
  | .fault index reply fault => do
    let task ← state.tasks[index]?
    let (stage, hub) ← task.stage.breakOff question reply fault state.hub
    return { state with
      hub
      tasks := state.tasks.set index { task with stage }
      given := state.given ++ (stage.outcome?.map (index, ·)).toList }
  | .gateways gateways =>
    some { state with hub := { state.hub with network := { state.hub.network with gateways } } }
  | .arrival id reply =>
    some { state with hub := { state.hub with network := state.hub.network.arrival id reply } }
  | .advance duration => some { state with now := state.now + duration }

/-- What comes of moves in order, as long as each of them can happen. -/
def play (question : Question α) (state : State α) : List Move → Option (State α)
  | [] => some state
  | move :: moves => do play question (← state.move question move) moves

end State
end FanOut
end FileGateway
