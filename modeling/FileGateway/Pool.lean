import FileGateway.ExpiringCache
import FileGateway.Network
import FileGateway.Settings

/-! One client per address is shared between callers, for as long as it is open and its time
in the pool has not run out. The pool never closes a client; one that it forgets lives
on with those who hold it. -/
namespace FileGateway

structure Pool where
  settings : Settings
  clients : ExpiringCache String ClientId
  deriving DecidableEq

namespace Pool

def ofSettings (settings : Settings) : Pool :=
  ⟨settings, .ofLimits settings.instanceCache.size settings.instanceCache.lifetime⟩

/-- The open client of an address. A client that has expired or was closed is
forgotten. -/
def live (pool : Pool) (network : Network) (now : Nat) (address : String) :
    Option ClientId × Pool :=
  match pool.clients.get now address with
  | (none, clients) => (none, { pool with clients })
  | (some id, clients) =>
    if (network.client id).closed then
      (none, { pool with clients := (clients.invalidate address).2 })
    else (some id, { pool with clients })

/-- Connects a client and adds it to the pool. A failure leaves the pool as it is. -/
def connect (pool : Pool) (network : Network) (now : Nat) (address : String) :
    Except GatewayError ClientId × Pool × Network :=
  match network.connect address with
  | (.error error, network) => (.error error, pool, network)
  | (.ok id, network) =>
    (.ok id, { pool with clients := pool.clients.insert now address id }, network)

/-- The client of a host, connected if there is no open one. -/
def get (pool : Pool) (network : Network) (now : Nat) (host : String) :
    Except GatewayError ClientId × Pool × Network :=
  match pool.settings.resolve host with
  | .error error => (.error error, pool, network)
  | .ok address =>
    match pool.live network now address with
    | (some id, pool) => (.ok id, pool, network)
    | (none, pool) => pool.connect network now address

/-- Forgets the client of a host. A host without a valid address has none. -/
def invalidate (pool : Pool) (host : String) : Pool :=
  match pool.settings.resolve host with
  | .error _ => pool
  | .ok address => { pool with clients := (pool.clients.invalidate address).2 }

/-- The number of clients whose time has not run out; forgets the others. -/
def size (pool : Pool) (now : Nat) : Nat × Pool :=
  let (count, clients) := pool.clients.size now
  (count, { pool with clients })

def clear (pool : Pool) : Pool := { pool with clients := pool.clients.clear }

end Pool
end FileGateway
