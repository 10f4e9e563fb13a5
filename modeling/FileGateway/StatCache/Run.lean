import FileGateway.StatCache

/-! A run is what callers do with a cache of metadata through any clients, while time passes. Calls
may overlap: a lookup that finds nothing is an event of its own, and the call ends with
another one when the gateway answers. In between, anything may become of the network. The
exchange with the gateway is one event, at the time when the caller reads the answer, which it
stores at once: a mutation that another caller completes before that comes before it, even if
the gateway had answered by then. -/
namespace FileGateway.StatCache

/-- Asks the gateway for the metadata of a path, whatever is in the cache. -/
def fetch (cache : StatCache) (network : Network) (now : Nat) (id : ClientId) (path : String) :
    Except Failure FileStat × StatCache × Network :=
  match network.perform id (.getStat path) with
  | (.error failure, network) => (.error failure, cache, network)
  | (.ok found, network) => (.ok found, ⟨cache.stats.insert now path found⟩, network)

inductive Event where
  | stat (id : ClientId) (path : String)
  /-- A lookup: all of a call of `cached`, or the beginning of a longer call of `stat`. -/
  | cached (path : String)
  /-- The end of a longer call of `stat`: the request, the answer and its place in the cache. -/
  | fetch (id : ClientId) (path : String)
  | invalidate (path : String)
  | mutate (id : ClientId) (mutation : Mutation)
  /-- Count the paths, or ask whether the count is zero. -/
  | size
  | advance (duration : Nat)
  /-- Whatever else is done with the clients or becomes of the gateways. -/
  | outside (network : Network)

/-- A cache and the network that its callers use, at an instant. -/
structure Timed where
  now : Nat := 0
  cache : StatCache
  network : Network

/-- The state after a call that changes the cache and the network. -/
def Timed.after {α : Type} (state : Timed) (given : α × StatCache × Network) : Timed :=
  { state with cache := given.2.1, network := given.2.2 }

def step (state : Timed) : Event → Timed
  | .stat id path => state.after (state.cache.stat state.network state.now id path)
  | .cached path => { state with cache := (state.cache.cached state.now path).2 }
  | .fetch id path => state.after (state.cache.fetch state.network state.now id path)
  | .invalidate path => { state with cache := state.cache.invalidate path }
  | .mutate id mutation => state.after (state.cache.mutate state.network id mutation)
  | .size => { state with cache := (state.cache.size state.now).2 }
  | .advance duration => { state with now := state.now + duration }
  | .outside network => { state with network }

def run (state : Timed) (events : List Event) : Timed := events.foldl step state

end FileGateway.StatCache
