import FileGateway.Pool
import FileGateway.Proofs.ExpiringCache.Lookup

/-! The client that a pool gives for an address without connecting is the one it holds, if that
is in its time and open. If not, the address is forgotten. -/
namespace FileGateway.Pool

/-- The client of an address that can be used as it is. -/
def usable? (pool : Pool) (network : Network) (now : Nat) (address : String) :
    Option ClientId :=
  ((pool.clients.find? address).filter (fun entry =>
    !pool.clients.isStale now entry && !(network.client entry.value).closed)).map
      ExpiringCache.Entry.value

def forget (pool : Pool) (address : String) : Pool :=
  { pool with clients := pool.clients.erase address }

theorem live_eq (pool : Pool) (network : Network) (now : Nat) (address : String) :
    pool.live network now address =
      match pool.usable? network now address with
      | some id => (some id, pool)
      | none => (none, pool.forget address) := by
  cases found : pool.clients.find? address with
  | none =>
    have unchanged := ExpiringCache.erase_of_find?_eq_none found
    simp [live, usable?, forget, ExpiringCache.get, found, unchanged]
  | some entry =>
    cases stale : pool.clients.isStale now entry with
    | true =>
      simp [live, usable?, forget, ExpiringCache.get, Option.filter, found, stale]
    | false =>
      cases closed : (network.client entry.value).closed with
      | true =>
        simp [live, usable?, forget, ExpiringCache.get, ExpiringCache.invalidate, Option.filter,
          found, stale, closed]
      | false =>
        simp [live, usable?, ExpiringCache.get, Option.filter, found, stale, closed]

theorem usable?_eq_some_iff {pool : Pool} {network : Network} {now : Nat} {address : String}
    {id : ClientId} :
    pool.usable? network now address = some id ↔
      ∃ entry, pool.clients.find? address = some entry ∧ entry.value = id ∧
        pool.clients.isStale now entry = false ∧ (network.client id).closed = false := by
  simp only [usable?, Option.map_eq_some_iff, Option.filter_eq_some_iff, Bool.and_eq_true,
    Bool.not_eq_true']
  constructor
  · rintro ⟨entry, ⟨found, fresh, opened⟩, rfl⟩
    exact ⟨entry, found, rfl, fresh, opened⟩
  · rintro ⟨entry, found, rfl, fresh, opened⟩
    exact ⟨entry, ⟨found, fresh, opened⟩, rfl⟩

theorem usable?_forget (pool : Pool) (network : Network) (now : Nat) (address : String) :
    (pool.forget address).usable? network now address = none := by
  simp only [usable?, forget, ExpiringCache.find?_erase_self]
  rfl

theorem forget_forget (pool : Pool) (address : String) :
    (pool.forget address).forget address = pool.forget address := by
  simp only [forget, ExpiringCache.erase_erase]

theorem connect_of_route_error {pool : Pool} {network : Network} {address : String}
    {fault : LinkFault} (failed : network.route (Network.gatewayName address) = .error fault)
    (now : Nat) :
    pool.connect network now address =
      (.error (.connect address fault), pool, (network.connect address).2) := by
  simp only [connect, Network.connect, failed]

theorem connect_of_route_ok {pool : Pool} {network : Network} {address : String}
    (routed : network.route (Network.gatewayName address) = .ok ()) (now : Nat) :
    pool.connect network now address =
      (.ok network.clients.size,
        { pool with clients := pool.clients.insert now address network.clients.size },
        (network.connect address).2) := by
  simp only [connect, Network.connect, routed]

end FileGateway.Pool
