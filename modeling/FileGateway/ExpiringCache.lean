/-! An entry expires a fixed time after its last insert. Nothing runs in the background: an
expired entry stays until it is looked up, until room is needed, or until the entries
are counted. Each operation is told the present instant, and the operations that drop
entries give back the cache they leave. -/
namespace FileGateway

/-- Instants and durations are in milliseconds. -/
structure ExpiringCache.Entry (κ ν : Type) where
  key : κ
  value : ν
  inserted : Nat
  deriving DecidableEq, Repr

/-- The entries stand in the order of their inserts, and their keys differ. -/
structure ExpiringCache (κ ν : Type) where
  /-- The greatest number of entries, if there is one. -/
  capacity : Option Nat
  /-- The age at which an entry expires, if there is one. -/
  lifetime : Option Nat
  entries : List (ExpiringCache.Entry κ ν) := []
  deriving DecidableEq, Repr

namespace ExpiringCache
variable {κ ν : Type} [DecidableEq κ]

/-- An empty cache, where zero stands for no limit. -/
def ofLimits (capacity lifetime : Nat) : ExpiringCache κ ν where
  capacity := if capacity = 0 then none else some capacity
  lifetime := if lifetime = 0 then none else some lifetime

def unbounded : ExpiringCache κ ν := ofLimits 0 0

/-- Whether an entry has reached the age at which it expires. -/
def isStale (cache : ExpiringCache κ ν) (now : Nat) (entry : Entry κ ν) : Bool :=
  match cache.lifetime with
  | some lifetime => lifetime ≤ now - entry.inserted
  | none => false

def find? (cache : ExpiringCache κ ν) (key : κ) : Option (Entry κ ν) :=
  cache.entries.find? (fun entry => entry.key = key)

/-- The cache without the entry of a key. -/
def erase (cache : ExpiringCache κ ν) (key : κ) : ExpiringCache κ ν :=
  { cache with entries := cache.entries.filter (fun entry => entry.key ≠ key) }

/-- The earliest inserted of the entries, the first of several. -/
def oldest? (entries : List (Entry κ ν)) : Option (Entry κ ν) :=
  entries.foldl (fun earliest entry =>
    match earliest with
    | none => some entry
    | some found => if entry.inserted < found.inserted then some entry else some found) none

/-- The entry that makes room for another: an expired one if there is any, and
the oldest one otherwise. Of several that will do, the first in the list goes. -/
def victim? (cache : ExpiringCache κ ν) (now : Nat) : Option (Entry κ ν) :=
  (cache.entries.find? (cache.isStale now)).or (oldest? cache.entries)

/-- Removes one entry to make room. -/
def evict (cache : ExpiringCache κ ν) (now : Nat) : ExpiringCache κ ν :=
  match cache.victim? now with
  | some victim => cache.erase victim.key
  | none => cache

/-- Whether every place is taken, by expired entries too. -/
def isFull (cache : ExpiringCache κ ν) : Bool :=
  match cache.capacity with
  | some capacity => capacity ≤ cache.entries.length
  | none => false

/-- Inserts or replaces the value of a key and renews its time. A new key in a
full cache takes the place of another entry. -/
def insert (cache : ExpiringCache κ ν) (now : Nat) (key : κ) (value : ν) : ExpiringCache κ ν :=
  let roomy := if (cache.find? key).isNone ∧ cache.isFull then cache.evict now else cache
  { roomy with entries := (roomy.erase key).entries ++ [⟨key, value, now⟩] }

/-- The value of a key. An expired entry is dropped and not returned. -/
def get (cache : ExpiringCache κ ν) (now : Nat) (key : κ) : Option ν × ExpiringCache κ ν :=
  match cache.find? key with
  | some entry =>
    if cache.isStale now entry then (none, cache.erase key) else (some entry.value, cache)
  | none => (none, cache)

/-- Whether a key has a value that has not expired; drops an expired one. -/
def contains (cache : ExpiringCache κ ν) (now : Nat) (key : κ) : Bool × ExpiringCache κ ν :=
  match cache.find? key with
  | some entry => if cache.isStale now entry then (false, cache.erase key) else (true, cache)
  | none => (false, cache)

/-- Removes a key and gives the value it had, expired or not. -/
def invalidate (cache : ExpiringCache κ ν) (key : κ) : Option ν × ExpiringCache κ ν :=
  ((cache.find? key).map Entry.value, cache.erase key)

def clear (cache : ExpiringCache κ ν) : ExpiringCache κ ν := { cache with entries := [] }

/-- Drops every expired entry. -/
def compact (cache : ExpiringCache κ ν) (now : Nat) : ExpiringCache κ ν :=
  { cache with entries := cache.entries.filter (fun entry => !cache.isStale now entry) }

/-- The number of entries that have not expired; drops the others. -/
def size (cache : ExpiringCache κ ν) (now : Nat) : Nat × ExpiringCache κ ν :=
  let compacted := cache.compact now
  (compacted.entries.length, compacted)

/-- Whether no entry is left that has not expired; drops the others. -/
def isEmpty (cache : ExpiringCache κ ν) (now : Nat) : Bool × ExpiringCache κ ν :=
  let (count, compacted) := cache.size now
  (count == 0, compacted)

end ExpiringCache
end FileGateway
