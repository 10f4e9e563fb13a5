import FileGateway.Proofs.Hub.Consistent

/-! The view of a hub from one address is what can matter to callers of that address: the client
in the pool and the gateway behind it. Whatever is done for one address is a function of the
view from there, and other addresses do not notice it. -/
namespace FileGateway

/-- What a pool holds for an address. -/
structure Holding where
  inserted : Nat
  /-- The number of a client that was there before; new clients are not told apart. -/
  former : Option ClientId
  client : Client

structure View where
  settings : Settings
  lifetime : Option Nat
  holding : Option Holding
  gateway : Option Gateway

namespace Hub

/-- What the pool holds for an address, where the first `known` clients were there before. -/
def holding (hub : Hub) (known : Nat) (address : String) : Option Holding :=
  (hub.pool.clients.find? address).map (fun entry => {
    inserted := entry.inserted
    former := if entry.value < known then some entry.value else none
    client := hub.network.client entry.value })

def view (hub : Hub) (known : Nat) (address : String) : View where
  settings := hub.pool.settings
  lifetime := hub.pool.clients.lifetime
  holding := hub.holding known address
  gateway := hub.network.gateways.lookup (Network.gatewayName address)

end Hub

namespace View

/-- Whether the client of the address can be used as it is. -/
def isUsable (view : View) (now : Nat) : Bool :=
  view.holding.any (fun holding =>
    view.lifetime.all (fun lifetime => !decide (lifetime ≤ now - holding.inserted))
      && !holding.client.closed)

def reply (view : View) : Reply :=
  match view.gateway with
  | some { replies := reply :: _, .. } => reply
  | _ => .finish ByteArray.empty

/-- The view after a call of the client of the address. -/
def call (view : View) (request : Request) : View := { view with
  holding := view.holding.map (fun holding =>
    { holding with client := (holding.client.perform request view.reply).2 })
  gateway :=
    if view.holding.any (fun holding => holding.client.reaches request) then
      view.gateway.map (fun found => { found with replies := found.replies.drop 1 })
    else view.gateway }

end View

namespace Hub
variable {hub : Hub} {now known : Nat} {address other : String}

theorem isSome_usable? (hub : Hub) (now known : Nat) (address : String) :
    (hub.pool.usable? hub.network now address).isSome = (hub.view known address).isUsable now := by
  cases found : hub.pool.clients.find? address with
  | none => simp [Pool.usable?, View.isUsable, view, holding, found]
  | some entry =>
    cases lifetime : hub.pool.clients.lifetime <;>
      simp [Pool.usable?, View.isUsable, view, holding, found, ExpiringCache.isStale, lifetime]

theorem route_congr {left right : Network} {name : String}
    (same : left.gateways.lookup name = right.gateways.lookup name) :
    left.route name = right.route name := by
  rw [Network.route, Network.route, same]

theorem view_forget_self (hub : Hub) (known : Nat) (address : String) :
    (hub.forget address).view known address = { hub.view known address with holding := none } := by
  simp only [view, holding, forget, Pool.forget, ExpiringCache.find?_erase_self]
  rfl

theorem view_forget_of_ne (hub : Hub) (known : Nat) (distinct : other ≠ address) :
    (hub.forget address).view known other = hub.view known other := by
  simp only [view, holding, forget, Pool.forget, ExpiringCache.find?_erase_of_ne _ distinct]
  rfl

/-- A connection attempt by itself is not seen. -/
theorem Consistent.view_connect (consistent : hub.Consistent now) (known : Nat)
    (tried address : String) :
    Hub.view { hub with network := (hub.network.connect tried).2 } known address =
      hub.view known address := by
  simp only [view, holding, Network.gateways_connect]
  congr 1
  refine Option.map_congr ?_
  intro entry found
  have stored := (ExpiringCache.mem_of_find? found).1
  rw [hub.network.client_connect_of_lt tried (consistent.known entry stored)]

theorem view_adopt_self (room : hub.pool.clients.HasRoom address)
    (routed : hub.network.route (Network.gatewayName address) = .ok ())
    (past : known ≤ hub.network.clients.size) (now : Nat) :
    (hub.adopt now address).view known address =
      { hub.view known address with holding := some ⟨now, none, { address }⟩ } := by
  simp only [view, holding, adopt, ExpiringCache.find?_insert_self room, Network.gateways_connect,
    Option.map_some, if_neg (Nat.not_lt.mpr past), Network.client_connect_self routed,
    (ExpiringCache.insert_limits ..).2]

theorem Consistent.view_adopt_of_ne (consistent : hub.Consistent now)
    (room : hub.pool.clients.HasRoom address) (known : Nat) (distinct : other ≠ address) :
    (hub.adopt now address).view known other = hub.view known other := by
  rw [← consistent.view_connect known address other]
  simp only [view, holding, Hub.adopt, ExpiringCache.find?_insert_of_ne room distinct,
    (ExpiringCache.insert_limits ..).2]

theorem Consistent.client_address (consistent : hub.Consistent now)
    {entry : ExpiringCache.Entry String ClientId}
    (found : hub.pool.clients.find? address = some entry) :
    (hub.network.client entry.value).address = address := by
  obtain ⟨stored, rfl⟩ := ExpiringCache.mem_of_find? found
  exact consistent.address entry stored

/-- A call of the client of an address gives what its view determines. -/
theorem Consistent.perform_eq (consistent : hub.Consistent now)
    {entry : ExpiringCache.Entry String ClientId}
    (found : hub.pool.clients.find? address = some entry) (known : Nat) (request : Request) :
    ((hub.network.perform entry.value request).1,
        (hub.network.perform entry.value request).2.client entry.value) =
      (hub.network.client entry.value).perform request (hub.view known address).reply := by
  rw [Network.perform_client, consistent.client_address found]
  rfl

theorem Consistent.view_call_self (consistent : hub.Consistent now)
    {entry : ExpiringCache.Entry String ClientId}
    (found : hub.pool.clients.find? address = some entry) (known : Nat) (request : Request) :
    (hub.call entry.value request).view known address = (hub.view known address).call request := by
  have performed := congrArg Prod.snd (consistent.perform_eq found known request)
  simp only at performed
  simp only [view, holding, Hub.call, View.call, found, Option.map_some, Network.lookup_perform,
    consistent.client_address found, Option.any_some, true_and, performed]

/-- A call leaves the clients of other addresses alone, and with them what the pool holds. -/
theorem Consistent.holding_call_of_ne (consistent : hub.Consistent now)
    {entry : ExpiringCache.Entry String ClientId}
    (found : hub.pool.clients.find? address = some entry) (known : Nat) (distinct : other ≠ address)
    (request : Request) :
    (hub.call entry.value request).holding known other = hub.holding known other := by
  refine Option.map_congr ?_
  intro another present
  have apart : entry.value ≠ another.value := by
    intro same
    have owner := consistent.client_address present
    rw [← same, consistent.client_address found] at owner
    exact distinct owner.symm
  simp only [Hub.call, hub.network.perform_client_of_ne apart]

theorem Consistent.view_call_of_ne (consistent : hub.Consistent now)
    {entry : ExpiringCache.Entry String ClientId}
    (found : hub.pool.clients.find? address = some entry) (known : Nat)
    (apart : Network.gatewayName other ≠ Network.gatewayName address) (request : Request) :
    (hub.call entry.value request).view known other = hub.view known other := by
  have distinct : other ≠ address := fun same => apart (congrArg _ same)
  have reached : ¬ (Network.gatewayName other =
      Network.gatewayName (hub.network.client entry.value).address ∧
        (hub.network.client entry.value).reaches request = true) := by
    rw [consistent.client_address found]
    exact fun both => apart both.1
  rw [view, consistent.holding_call_of_ne found known distinct]
  simp only [Hub.call, Network.lookup_perform, if_neg reached]
  rfl

end Hub
end FileGateway
