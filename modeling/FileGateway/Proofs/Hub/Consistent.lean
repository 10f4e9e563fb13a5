import FileGateway.Hub.Run
import FileGateway.Proofs.Network.Gateways
import FileGateway.Proofs.Pool.Live

/-! The pool of a hub holds a client of the network for each of its addresses. Whatever is done
with the hub, the clients keep their addresses. -/
namespace FileGateway.Hub

/-- What holds of every hub that users come to (`consistent_run`). -/
structure Consistent (now : Nat) (hub : Hub) : Prop where
  pool : ExpiringCache.Consistent ⟨now, hub.pool.clients⟩
  known : ∀ entry ∈ hub.pool.clients.entries, entry.value < hub.network.clients.size
  address : ∀ entry ∈ hub.pool.clients.entries,
    (hub.network.client entry.value).address = entry.key

def forget (hub : Hub) (address : String) : Hub := { hub with pool := hub.pool.forget address }

/-- The hub after a new client was connected and added to the pool. -/
def adopt (hub : Hub) (now : Nat) (address : String) : Hub where
  pool := { hub.pool with
    clients := hub.pool.clients.insert now address hub.network.clients.size }
  network := (hub.network.connect address).2

/-- The hub after a call of a client. -/
def call (hub : Hub) (id : ClientId) (request : Request) : Hub :=
  { hub with network := (hub.network.perform id request).2 }

variable {hub : Hub} {now : Nat}

theorem Consistent.shrink (consistent : hub.Consistent now)
    {clients : ExpiringCache String ClientId}
    (capacity : clients.capacity = hub.pool.clients.capacity)
    (sublist : clients.entries.Sublist hub.pool.clients.entries) :
    Consistent now { hub with pool := { hub.pool with clients } } where
  pool := consistent.pool.of_sublist capacity sublist
  known entry stored := consistent.known entry (sublist.subset stored)
  address entry stored := consistent.address entry (sublist.subset stored)

theorem Consistent.forget (consistent : hub.Consistent now) (address : String) :
    (hub.forget address).Consistent now :=
  consistent.shrink rfl List.filter_sublist

theorem Consistent.rewire (consistent : hub.Consistent now) {network : Network}
    (size : hub.network.clients.size ≤ network.clients.size)
    (address : ∀ id < hub.network.clients.size,
      (network.client id).address = (hub.network.client id).address) :
    Consistent now { hub with network } where
  pool := consistent.pool
  known entry stored := Nat.lt_of_lt_of_le (consistent.known entry stored) size
  address entry stored :=
    (address _ (consistent.known entry stored)).trans (consistent.address entry stored)

theorem Consistent.call (consistent : hub.Consistent now) (id : ClientId) (request : Request) :
    (hub.call id request).Consistent now :=
  consistent.rewire (Nat.le_of_eq (hub.network.size_perform id request).symm)
    (fun other _ => hub.network.address_client_perform id other request)

theorem Consistent.attempt (consistent : hub.Consistent now) (address : String) :
    Consistent now { hub with network := (hub.network.connect address).2 } :=
  consistent.rewire (hub.network.size_le_connect address)
    (fun _ known => congrArg Client.address (hub.network.client_connect_of_lt address known))

theorem Consistent.adopt (consistent : hub.Consistent now) {address : String}
    (routed : hub.network.route (Network.gatewayName address) = .ok ()) :
    (hub.adopt now address).Consistent now := by
  have attempted := consistent.attempt address
  refine ⟨ExpiringCache.consistent_insert consistent.pool address _, ?_, ?_⟩
  · intro entry stored
    rcases ExpiringCache.mem_of_mem_insert stored with ⟨former, _⟩ | rfl
    · exact attempted.known entry former
    · show hub.network.clients.size < (hub.network.connect address).2.clients.size
      rw [Network.size_connect routed]
      exact Nat.lt_succ_self _
  · intro entry stored
    rcases ExpiringCache.mem_of_mem_insert stored with ⟨former, _⟩ | rfl
    · exact attempted.address entry former
    · exact congrArg Client.address (Network.client_connect_self routed)

/-- What comes of asking for the client of a host. -/
inductive Given (hub : Hub) (now : Nat) (host : String) :
    Except GatewayError ClientId × Hub → Prop where
  | unresolved (error : GatewayError) (refused : hub.pool.settings.resolve host = .error error) :
    Given hub now host (.error error, hub)
  | reused (address : String) (id : ClientId)
    (resolved : hub.pool.settings.resolve host = .ok address)
    (usable : hub.pool.usable? hub.network now address = some id) :
    Given hub now host (.ok id, hub)
  | failed (address : String) (fault : LinkFault)
    (resolved : hub.pool.settings.resolve host = .ok address)
    (absent : hub.pool.usable? hub.network now address = none)
    (unrouted : hub.network.route (Network.gatewayName address) = .error fault) :
    Given hub now host (.error (.connect address fault),
      { hub.forget address with network := (hub.network.connect address).2 })
  | connected (address : String) (resolved : hub.pool.settings.resolve host = .ok address)
    (absent : hub.pool.usable? hub.network now address = none)
    (routed : hub.network.route (Network.gatewayName address) = .ok ()) :
    Given hub now host (.ok hub.network.clients.size, (hub.forget address).adopt now address)

theorem given_client (hub : Hub) (now : Nat) (host : String) :
    Given hub now host (hub.client now host) := by
  rw [Hub.client, Pool.get]
  cases resolved : hub.pool.settings.resolve host with
  | error error => exact .unresolved error resolved
  | ok address =>
    simp only [Pool.live_eq]
    cases usable : hub.pool.usable? hub.network now address with
    | some id => exact .reused address id resolved usable
    | none =>
      cases routed : hub.network.route (Network.gatewayName address) with
      | error fault =>
        simp only [Pool.connect_of_route_error routed]
        exact .failed address fault resolved usable routed
      | ok _ =>
        simp only [Pool.connect_of_route_ok routed]
        exact .connected address resolved usable routed

theorem Consistent.client (consistent : hub.Consistent now) (host : String) :
    (hub.client now host).2.Consistent now := by
  have given := hub.given_client now host
  generalize hub.client now host = result at given ⊢
  cases given with
  | unresolved error refused => exact consistent
  | reused address id resolved usable => exact consistent
  | failed address fault resolved absent unrouted =>
    exact (consistent.forget address).attempt address
  | connected address resolved absent routed => exact (consistent.forget address).adopt routed

theorem Consistent.invalidate (consistent : hub.Consistent now) (host : String) :
    Consistent now { hub with pool := hub.pool.invalidate host } := by
  rw [Pool.invalidate]
  split
  · exact consistent
  · exact consistent.forget _

/-- A client may be put in the place of another one with its address. -/
theorem Consistent.replace (consistent : hub.Consistent now) (id : ClientId) {client : Client}
    (same : client.address = (hub.network.client id).address) :
    Consistent now { hub with network := hub.network.setClient id client } := by
  refine consistent.rewire (Nat.le_of_eq (Array.size_setIfInBounds ..).symm) ?_
  intro other known
  by_cases here : id = other
  · subst here
    rw [Network.client_setClient known]
    exact same
  · rw [hub.network.client_setClient_of_ne here]

theorem consistent_step {state : Timed} (consistent : state.hub.Consistent state.now)
    (event : Event) : (step state event).hub.Consistent (step state event).now := by
  cases event with
  | client host => exact consistent.client host
  | invalidate host => exact consistent.invalidate host
  | clear => exact consistent.shrink rfl (List.nil_sublist _)
  | size => exact consistent.shrink rfl List.filter_sublist
  | call id request => exact consistent.call id request
  | close id => exact consistent.replace id rfl
  | advance duration =>
    exact ⟨ExpiringCache.consistent_step consistent.pool (.advance duration), consistent.known,
      consistent.address⟩

theorem consistent_ofSettings (now : Nat) (settings : Settings) (network : Network) :
    Consistent now ⟨.ofSettings settings, network⟩ :=
  ⟨ExpiringCache.consistent_ofLimits now _ _, nofun, nofun⟩

theorem consistent_run {state : Timed} (consistent : state.hub.Consistent state.now)
    (events : List Event) : (run state events).hub.Consistent (run state events).now := by
  induction events generalizing state with
  | nil => exact consistent
  | cons event rest ih => exact ih (consistent_step consistent event)

end FileGateway.Hub
