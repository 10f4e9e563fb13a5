import FileGateway.ExpiringCache
import FileGateway.Network
import FileGateway.Settings

/-! Metadata is kept for a short time by path. A mutation made through the cache forgets the
paths that it names, whether it succeeds or fails, unless the call is given up. -/
namespace FileGateway

structure StatCache where
  stats : ExpiringCache String FileStat
  deriving DecidableEq

/-- The operations that change what metadata says. -/
inductive Mutation where
  | delete (path : String)
  | rename (source target : String)
  | truncate (path : String) (length : UInt64)
  deriving DecidableEq, Repr

namespace Mutation

/-- The paths whose metadata the mutation may change. -/
def paths : Mutation → List String
  | delete path | truncate path _ => [path]
  | rename source target => [source, target]

/-- Carries the mutation out at the gateway of a client. -/
def perform (network : Network) (id : ClientId) : Mutation → Except Failure Unit × Network
  | delete path => network.perform id (.delete path)
  | rename source target => network.perform id (.rename source target)
  | truncate path length => network.perform id (.truncateFile path length)

end Mutation

namespace StatCache

def ofSettings (settings : Settings) : StatCache :=
  ⟨.ofLimits settings.metadataCache.size settings.metadataCache.lifetime⟩

/-- The metadata of a path, asked of the gateway unless it is in the cache. A
failure caches nothing. -/
def stat (cache : StatCache) (network : Network) (now : Nat) (id : ClientId) (path : String) :
    Except Failure FileStat × StatCache × Network :=
  match cache.stats.get now path with
  | (some found, stats) => (.ok found, ⟨stats⟩, network)
  | (none, stats) =>
    match network.perform id (.getStat path) with
    | (.error failure, network) => (.error failure, ⟨stats⟩, network)
    | (.ok found, network) => (.ok found, ⟨stats.insert now path found⟩, network)

/-- The metadata of a path if it is in the cache. -/
def cached (cache : StatCache) (now : Nat) (path : String) : Option FileStat × StatCache :=
  let (found, stats) := cache.stats.get now path
  (found, ⟨stats⟩)

def invalidate (cache : StatCache) (path : String) : StatCache :=
  ⟨(cache.stats.invalidate path).2⟩

/-- Carries a mutation out, and forgets its paths once the call has come to an end. -/
def mutate (cache : StatCache) (network : Network) (id : ClientId) (mutation : Mutation) :
    Except Failure Unit × StatCache × Network :=
  match mutation.perform network id with
  | (.error .cancelled, network) => (.error .cancelled, cache, network)
  | (result, network) => (result, mutation.paths.foldl invalidate cache, network)

/-- The number of paths whose metadata has not expired; forgets the others. -/
def size (cache : StatCache) (now : Nat) : Nat × StatCache :=
  let (count, stats) := cache.stats.size now
  (count, ⟨stats⟩)

end StatCache
end FileGateway
