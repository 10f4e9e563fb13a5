import FileGateway.Address
import FileGateway.Client.Exchange

/-! The network holds the gateways that can be reached, each with the replies that it will
give, and every client that was ever connected. Gateways are known by addresses with
plain decimal ports. The history records connection attempts and the requests that
gateways received. -/
namespace FileGateway

structure Gateway where
  /-- The replies to the requests to come, over all connections. A gateway without
  replies left ends the stream. -/
  replies : List Reply
  /-- Whether there is a route to the gateway. -/
  reachable : Bool := true

/-- Clients are numbered in the order in which they were connected. -/
abbrev ClientId := Nat

inductive NetworkEvent where
  | attempt (gateway : String)
  | request (gateway : String) (frame : ByteArray)

structure Network where
  gateways : List (String × Gateway) := []
  /-- A client stands here for as long as anybody may hold it. It is never taken out, so
  that what is said of a client after the pool has forgotten it is said of one that
  somebody still holds. -/
  clients : Array Client := #[]
  /-- What has happened so far, the earliest first. -/
  history : List NetworkEvent := []

namespace Network

def client (network : Network) (id : ClientId) : Client :=
  network.clients[id]?.getD Client.absent

def setClient (network : Network) (id : ClientId) (client : Client) : Network :=
  { network with clients := network.clients.setIfInBounds id client }

def record (network : Network) (event : NetworkEvent) : Network :=
  { network with history := network.history ++ [event] }

/-- The name by which the network knows a gateway. -/
def gatewayName (address : String) : String := (Address.canonical? address).getD address

/-- Whether a connection to a gateway succeeds. -/
def route (network : Network) (gateway : String) : Except LinkFault Unit :=
  match network.gateways.lookup gateway with
  | none => .error .refused
  | some found => if found.reachable then .ok () else .error .unreachable

/-- Connects a new client. Every attempt is recorded. -/
def connect (network : Network) (address : String) : Except GatewayError ClientId × Network :=
  let gateway := gatewayName address
  let attempted := network.record (.attempt gateway)
  match network.route gateway with
  | .error fault => (.error (.connect address fault), attempted)
  | .ok () =>
    (.ok network.clients.size, { attempted with clients := network.clients.push { address } })

/-- The next reply of a gateway. -/
def nextReply (network : Network) (gateway : String) : Reply :=
  match network.gateways.lookup gateway with
  | some { replies := reply :: _, .. } => reply
  | _ => .finish ByteArray.empty

/-- The network after a gateway has given its next reply. -/
def dropReply (network : Network) (gateway : String) : Network :=
  { network with gateways := network.gateways.map (fun (name, found) =>
      if name = gateway then (name, { found with replies := found.replies.drop 1 })
      else (name, found)) }

/-- Writes a frame on a client's connection, and gives the client with the reply
in its stream. On an ended stream the frame is accepted and ignored. -/
def send (network : Network) (client : Client) (frame : ByteArray) : Client × Network :=
  if client.stream.ended then (client, network)
  else
    let gateway := gatewayName client.address
    ({ client with stream := client.stream.receive (network.nextReply gateway) },
      (network.dropReply gateway).record (.request gateway frame))

/-- A whole call of a client. -/
def perform (network : Network) (id : ClientId) (request : Request) :
    Except Failure request.Answer × Network :=
  let client := network.client id
  match client.prepare request with
  | .error error => (.error (.error error), network)
  | .ok frame =>
    let (client, network) := network.send client frame
    let (answer, client) := client.conclude request
    (answer, network.setClient id client)

/-- Closes a client's connection from the client's side. -/
def close (network : Network) (id : ClientId) : Network :=
  network.setClient id (network.client id).close

end Network
end FileGateway
