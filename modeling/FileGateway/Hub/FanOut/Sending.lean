import FileGateway.Hub.FanOut.Run
import FileGateway.Network.Sending

/-! What the tasks of a fan-out send. -/
namespace FileGateway.FanOut
variable {α : Type}

def Stage.sends? (question : Question α) (hub : Hub) : Stage α → Option NetworkEvent
  | connect address => some (.attempt (Network.gatewayName address))
  | query id => hub.network.sends? id question.request
  | waiting | lookup | approach _ | recheck _ | discard _ | finished _ => none

namespace State

/-- What a move sends. -/
def sends? (question : Question α) (state : State α) : Move → Option Sending
  | .task index | .fault index _ _ => do
    let task ← state.tasks[index]?
    let event ← task.stage.sends? question state.hub
    return ⟨index, event⟩
  | .gateways _ | .arrival _ _ | .advance _ => none

/-- What moves in order send, the earliest first. -/
def sendings (question : Question α) (state : State α) : List Move → List Sending
  | [] => []
  | move :: moves =>
    (state.sends? question move).toList ++
      match state.move question move with
      | some next => next.sendings question moves
      | none => []

end State
end FileGateway.FanOut
