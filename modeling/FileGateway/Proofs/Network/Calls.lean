import FileGateway.Network
import FileGateway.Proofs.Client.Session

/-! A call in a network is a call of its own client, answered by the next reply of that
client's gateway, and no other client notices it. -/
namespace FileGateway.Network

theorem client_setClient {network : Network} {id : ClientId} (known : id < network.clients.size)
    (client : Client) : (network.setClient id client).client id = client := by
  simp only [Network.client, setClient, Array.getElem?_setIfInBounds_self_of_lt known,
    Option.getD_some]

theorem client_setClient_of_ne (network : Network) {id other : ClientId} (distinct : id ≠ other)
    (client : Client) : (network.setClient id client).client other = network.client other := by
  simp only [Network.client, setClient, Array.getElem?_setIfInBounds_ne distinct]

/-- Clients that were never connected are closed. -/
theorem known_of_open {network : Network} {id : ClientId}
    (opened : (network.client id).closed = false) : id < network.clients.size := by
  by_contra unknown
  rw [Network.client, Array.getElem?_eq_none (Nat.not_lt.mp unknown)] at opened
  contradiction

theorem clients_send (network : Network) (client : Client) (frame : ByteArray) :
    (network.send client frame).2.clients = network.clients := by
  rw [send]
  split <;> rfl

theorem client_send (network : Network) (client : Client) (frame : ByteArray) :
    (network.send client frame).1 = { client with
      stream := client.stream.receive (network.nextReply (gatewayName client.address)) } := by
  rw [send]
  split
  · rename_i ended
    rw [client.stream.receive_ended ended]
  · rfl

theorem perform_client (network : Network) (id : ClientId) (request : Request) :
    ((network.perform id request).1, (network.perform id request).2.client id) =
      (network.client id).perform request
        (network.nextReply (gatewayName (network.client id).address)) := by
  cases prepared : (network.client id).prepare request with
  | error error => simp only [perform, Client.perform, prepared]
  | ok frame =>
    have known := known_of_open (Client.open_of_prepare prepared)
    rw [← network.clients_send (network.client id) frame] at known
    simp only [perform, Client.perform, prepared, client_setClient known, client_send]

theorem perform_client_of_ne (network : Network) {id other : ClientId} (distinct : id ≠ other)
    (request : Request) :
    (network.perform id request).2.client other = network.client other := by
  rw [perform]
  split
  · rfl
  · rename_i frame prepared
    rw [client_setClient_of_ne _ distinct]
    simp only [Network.client, clients_send]

/-- A call that is admitted brings its frame to the client's gateway, once, unless the gateway has
ended the stream. -/
theorem history_perform {network : Network} {id : ClientId} {request : Request}
    {frame : ByteArray} (prepared : (network.client id).prepare request = .ok frame)
    (reached : (network.client id).stream.ended = false) :
    (network.perform id request).2.history =
      network.history ++ [.request (gatewayName (network.client id).address) frame] := by
  simp only [perform, prepared, send, reached, Bool.false_eq_true, if_false]
  rfl

/-- A call that is refused leaves the network as it was. -/
theorem perform_of_prepare_error {network : Network} {id : ClientId} {request : Request}
    {error : GatewayError} (refused : (network.client id).prepare request = .error error) :
    network.perform id request = (.error (.error error), network) := by
  simp only [perform, refused]

end FileGateway.Network
