import FileGateway.Proofs.Network.Calls

/-! A call draws on the replies of its own client's gateway and on no others, and a connection
attempt on none. -/
namespace FileGateway

/-- Whether the request of a call comes to the client's gateway. -/
def Client.reaches (client : Client) (request : Request) : Bool :=
  match client.prepare request with
  | .ok _ => !client.stream.ended
  | .error _ => false

namespace Network

theorem lookup_map_ite {β : Type} (change : β → β) (changed name : String)
    (entries : List (String × β)) :
    (entries.map (fun (key, value) =>
        if key = changed then (key, change value) else (key, value))).lookup name =
      if name = changed then (entries.lookup name).map change else entries.lookup name := by
  induction entries with
  | nil => simp
  | cons entry rest ih =>
    obtain ⟨key, value⟩ := entry
    rw [List.map_cons]
    by_cases here : name = key
    · subst here
      by_cases affected : name = changed <;> simp [affected]
    · have passed : (name == key) = false := beq_false_of_ne here
      simp only [List.lookup_cons, passed, ← ih]
      by_cases affected : key = changed
      · simp only [if_pos affected, List.lookup_cons, passed]
      · simp only [if_neg affected, List.lookup_cons, passed]

theorem lookup_dropReply (network : Network) (gateway name : String) :
    (network.dropReply gateway).gateways.lookup name =
      if name = gateway then
        (network.gateways.lookup name).map (fun found =>
          { found with replies := found.replies.drop 1 })
      else network.gateways.lookup name :=
  lookup_map_ite (fun found : Gateway => { found with replies := found.replies.drop 1 }) gateway
    name network.gateways

/-- A call whose request reaches the gateway takes the next reply of that gateway. -/
theorem lookup_perform (network : Network) (id : ClientId) (request : Request) (name : String) :
    (network.perform id request).2.gateways.lookup name =
      if name = gatewayName (network.client id).address ∧
          (network.client id).reaches request then
        (network.gateways.lookup name).map (fun found =>
          { found with replies := found.replies.drop 1 })
      else network.gateways.lookup name := by
  cases prepared : (network.client id).prepare request with
  | error error => simp [perform, Client.reaches, prepared]
  | ok frame =>
    cases ended : (network.client id).stream.ended with
    | true => simp [perform, Client.reaches, prepared, ended, send, setClient]
    | false =>
      simp only [perform, Client.reaches, prepared, send, ended, Bool.false_eq_true, if_false,
        Bool.not_false, and_true]
      exact network.lookup_dropReply ..

theorem size_perform (network : Network) (id : ClientId) (request : Request) :
    (network.perform id request).2.clients.size = network.clients.size := by
  rw [perform]
  split
  · rfl
  · simp only [setClient, Array.size_setIfInBounds, clients_send]

theorem address_client_perform (network : Network) (id other : ClientId) (request : Request) :
    ((network.perform id request).2.client other).address = (network.client other).address := by
  by_cases same : id = other
  · subst same
    have performed := congrArg (fun given => given.2.address) (network.perform_client id request)
    exact performed.trans (Client.address_perform ..)
  · rw [network.perform_client_of_ne same request]

theorem gateways_connect (network : Network) (address : String) :
    (network.connect address).2.gateways = network.gateways := by
  rw [connect]
  split <;> rfl

theorem history_connect (network : Network) (address : String) :
    (network.connect address).2.history = network.history ++ [.attempt (gatewayName address)] := by
  rw [connect]
  split <;> rfl

theorem client_connect_of_lt (network : Network) (address : String) {id : ClientId}
    (known : id < network.clients.size) :
    (network.connect address).2.client id = network.client id := by
  rw [connect]
  split
  · rfl
  · simp only [client, Array.getElem?_push_lt known, Array.getElem?_eq_getElem known]

theorem client_connect_self {network : Network} {address : String}
    (routed : network.route (gatewayName address) = .ok ()) :
    (network.connect address).2.client network.clients.size = { address } := by
  simp only [connect, routed, client, record, Array.getElem?_push_size, Option.getD_some]

theorem size_le_connect (network : Network) (address : String) :
    network.clients.size ≤ (network.connect address).2.clients.size := by
  rw [connect]
  split
  · exact Nat.le_refl _
  · simp only [Array.size_push]
    exact Nat.le_succ _

theorem size_connect {network : Network} {address : String}
    (routed : network.route (gatewayName address) = .ok ()) :
    (network.connect address).2.clients.size = network.clients.size + 1 := by
  simp only [connect, routed, record, Array.size_push]

theorem client_eq_of_clients_eq {network next : Network} (same : next.clients = network.clients)
    (id : ClientId) : next.client id = network.client id := by
  rw [client, client, same]

theorem clients_connect_of_route_ok {network : Network} {address : String}
    (routed : network.route (gatewayName address) = .ok ()) :
    (network.connect address).2.clients = network.clients.push { address } := by
  simp only [connect, routed, record]

theorem clients_connect_of_route_error {network : Network} {address : String} {fault : LinkFault}
    (failed : network.route (gatewayName address) = .error fault) :
    (network.connect address).2.clients = network.clients := by
  simp only [connect, failed, record]

end Network
end FileGateway
