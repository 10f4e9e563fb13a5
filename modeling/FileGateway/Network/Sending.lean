import FileGateway.Network

/-! What goes out to the gateways while the hosts of a list are asked. Attempts and requests count
whether or not they come through. -/
namespace FileGateway

namespace NetworkEvent

def isAttempt : NetworkEvent → Bool
  | attempt _ => true
  | request _ _ => false

def isRequest : NetworkEvent → Bool
  | attempt _ => false
  | request _ _ => true

end NetworkEvent

/-- What goes out for the host at a place of a list. -/
structure Sending where
  place : Nat
  event : NetworkEvent

namespace Sending

def isAttemptAt (place : Nat) (sending : Sending) : Bool :=
  sending.place == place && sending.event.isAttempt

def isRequestAt (place : Nat) (sending : Sending) : Bool :=
  sending.place == place && sending.event.isRequest

end Sending

/-- The request that a call of a client writes, unless it is refused before. -/
def Network.sends? (network : Network) (id : ClientId) (request : Request) :
    Option NetworkEvent :=
  match (network.client id).prepare request with
  | .ok frame => some (.request (gatewayName (network.client id).address) frame)
  | .error _ => none

end FileGateway
