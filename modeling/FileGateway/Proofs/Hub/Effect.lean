import FileGateway.Proofs.Hub.View

/-! What is done for an address at one time is one of a few effects on the hub. Each keeps the hub
consistent, and none is noticed at an address of another gateway. -/
namespace FileGateway.Hub

/-- All that one step for an address can do to a hub. -/
inductive Effect (now : Nat) (address : String) (hub : Hub) : Hub → Prop where
  | none : Effect now address hub hub
  | forget : Effect now address hub (hub.forget address)
  | attempt : Effect now address hub { hub with network := (hub.network.connect address).2 }
  | adopt (routed : hub.network.route (Network.gatewayName address) = .ok ()) :
    Effect now address hub (hub.adopt now address)
  | call {entry : ExpiringCache.Entry String ClientId}
    (found : hub.pool.clients.find? address = some entry) (request : Request) :
    Effect now address hub (hub.call entry.value request)

namespace Effect
variable {now known : Nat} {address other : String} {hub next : Hub}

theorem settings (effect : Effect now address hub next) :
    next.pool.settings = hub.pool.settings := by
  cases effect <;> rfl

theorem capacity (effect : Effect now address hub next) :
    next.pool.clients.capacity = hub.pool.clients.capacity := by
  cases effect with
  | adopt routed => exact (ExpiringCache.insert_limits ..).1
  | _ => rfl

theorem size_le (effect : Effect now address hub next) :
    hub.network.clients.size ≤ next.network.clients.size := by
  cases effect with
  | none => exact Nat.le_refl _
  | forget => exact Nat.le_refl _
  | attempt => exact hub.network.size_le_connect address
  | adopt routed => exact hub.network.size_le_connect address
  | call found request => exact Nat.le_of_eq (hub.network.size_perform _ request).symm

theorem consistent (effect : Effect now address hub next) (consistent : hub.Consistent now) :
    next.Consistent now := by
  cases effect with
  | none => exact consistent
  | forget => exact consistent.forget address
  | attempt => exact consistent.attempt address
  | adopt routed => exact consistent.adopt routed
  | call found request => exact consistent.call _ request

/-- No key is added but the address. -/
theorem keys (effect : Effect now address hub next) {entry : ExpiringCache.Entry String ClientId}
    (stored : entry ∈ next.pool.clients.entries) :
    entry.key = address ∨ entry ∈ hub.pool.clients.entries := by
  cases effect with
  | forget => exact .inr (ExpiringCache.mem_erase.mp stored).1
  | adopt routed =>
    rcases ExpiringCache.mem_of_mem_insert stored with ⟨former, _⟩ | rfl
    · exact .inr former
    · exact .inl rfl
  | _ => exact .inr stored

/-- Where there was room for the address, there is still. -/
theorem hasRoom (effect : Effect now address hub next) (consistent : hub.Consistent now)
    (room : hub.pool.clients.HasRoom address) : next.pool.clients.HasRoom address := by
  cases effect with
  | forget =>
    refine .inr ?_
    intro capacity limit
    exact room.length_erase_lt consistent.pool limit
  | adopt routed =>
    have found := ExpiringCache.find?_insert_self room now hub.network.clients.size
    exact .inl ⟨_, ExpiringCache.mem_of_find? found⟩
  | _ => exact room

theorem find?_of_ne (effect : Effect now address hub next)
    (room : hub.pool.clients.HasRoom address) (distinct : other ≠ address) :
    next.pool.clients.find? other = hub.pool.clients.find? other := by
  cases effect with
  | forget => exact ExpiringCache.find?_erase_of_ne _ distinct
  | adopt routed => exact ExpiringCache.find?_insert_of_ne room distinct ..
  | _ => rfl

theorem holding_of_ne (effect : Effect now address hub next) (consistent : hub.Consistent now)
    (room : hub.pool.clients.HasRoom address) (known : Nat) (distinct : other ≠ address) :
    next.holding known other = hub.holding known other := by
  cases effect with
  | none => rfl
  | forget => exact congrArg View.holding (hub.view_forget_of_ne known distinct)
  | attempt => exact congrArg View.holding (consistent.view_connect known address other)
  | adopt routed => exact congrArg View.holding (consistent.view_adopt_of_ne room known distinct)
  | call found request => exact consistent.holding_call_of_ne found known distinct request

theorem view_of_ne (effect : Effect now address hub next) (consistent : hub.Consistent now)
    (room : hub.pool.clients.HasRoom address) (known : Nat)
    (apart : Network.gatewayName other ≠ Network.gatewayName address) :
    next.view known other = hub.view known other := by
  have distinct : other ≠ address := fun same => apart (congrArg _ same)
  cases effect with
  | none => rfl
  | forget => exact hub.view_forget_of_ne known distinct
  | attempt => exact consistent.view_connect known address other
  | adopt routed => exact consistent.view_adopt_of_ne room known distinct
  | call found request => exact consistent.view_call_of_ne found known apart request

end Effect
end FileGateway.Hub
