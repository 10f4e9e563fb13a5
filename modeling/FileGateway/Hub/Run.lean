import FileGateway.Client.Session
import FileGateway.Hub

/-! A run is what the users of a hub do with its pool and with the clients it gave them, one
operation after another, while time passes. Between the operations the gateways change by
themselves, and exchanges are cut off. -/
namespace FileGateway.Hub

inductive Event where
  /-- Ask for the client of a host. -/
  | client (host : String)
  | invalidate (host : String)
  | clear
  /-- Count the clients, or ask whether the count is zero. -/
  | size
  | call (id : ClientId) (request : Request)
  | close (id : ClientId)
  | advance (duration : Nat)

/-- A hub at an instant. -/
structure Timed where
  now : Nat := 0
  hub : Hub

def step (state : Timed) : Event → Timed
  | .client host => { state with hub := (state.hub.client state.now host).2 }
  | .invalidate host =>
    { state with hub := { state.hub with pool := state.hub.pool.invalidate host } }
  | .clear => { state with hub := { state.hub with pool := state.hub.pool.clear } }
  | .size => { state with hub := { state.hub with pool := (state.hub.pool.size state.now).2 } }
  | .call id request =>
    { state with hub := { state.hub with network := (state.hub.network.perform id request).2 } }
  | .close id => { state with hub := { state.hub with network := state.hub.network.close id } }
  | .advance duration => { state with now := state.now + duration }

def run (state : Timed) (events : List Event) : Timed := events.foldl step state

/-- What happens to a hub, be it done by its users or not. -/
inductive Turn where
  | event (event : Event)
  /-- Gateways come up or go down, or change the replies that they will give. -/
  | gateways (gateways : List (String × Gateway))
  /-- A call of a client is cut off in its exchange. -/
  | cut (id : ClientId) (request : Request) (reply : Reply) (interruption : Interruption)

/-- The network after a client's call was cut off. -/
def cutOff (network : Network) (id : ClientId) (request : Request) (reply : Reply)
    (interruption : Interruption) : Network :=
  network.setClient id ((network.client id).interrupt request reply interruption).2

def turn (state : Timed) : Turn → Timed
  | .event event => step state event
  | .gateways gateways =>
    { state with hub := { state.hub with network := { state.hub.network with gateways } } }
  | .cut id request reply interruption => { state with
      hub := { state.hub with
        network := cutOff state.hub.network id request reply interruption } }

def play (state : Timed) (turns : List Turn) : Timed := turns.foldl turn state

end FileGateway.Hub
