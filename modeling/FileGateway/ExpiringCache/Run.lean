import FileGateway.ExpiringCache

/-! A run is a list of operations, among them the passage of time, applied to a cache and a
clock. `step` gives the answer to one operation, `run` all answers. -/
namespace FileGateway.ExpiringCache

inductive Operation (κ ν : Type) where
  | insert (key : κ) (value : ν)
  | get (key : κ)
  | contains (key : κ)
  | invalidate (key : κ)
  | clear
  | size
  | isEmpty
  | advance (duration : Nat)
  deriving DecidableEq, Repr

inductive Answer (ν : Type) where
  | done
  | value (found : Option ν)
  | truth (holds : Bool)
  | count (entries : Nat)
  deriving DecidableEq, Repr

/-- A cache at an instant. -/
structure Timed (κ ν : Type) where
  now : Nat := 0
  cache : ExpiringCache κ ν

variable {κ ν : Type} [DecidableEq κ]

def step (state : Timed κ ν) : Operation κ ν → Answer ν × Timed κ ν
  | .insert key value => (.done, { state with cache := state.cache.insert state.now key value })
  | .get key =>
    let (found, cache) := state.cache.get state.now key
    (.value found, { state with cache })
  | .contains key =>
    let (holds, cache) := state.cache.contains state.now key
    (.truth holds, { state with cache })
  | .invalidate key =>
    let (removed, cache) := state.cache.invalidate key
    (.value removed, { state with cache })
  | .clear => (.done, { state with cache := state.cache.clear })
  | .size =>
    let (entries, cache) := state.cache.size state.now
    (.count entries, { state with cache })
  | .isEmpty =>
    let (holds, cache) := state.cache.isEmpty state.now
    (.truth holds, { state with cache })
  | .advance duration => (.done, { state with now := state.now + duration })

/-- The answers to the operations in order, and the state after the last. -/
def run (state : Timed κ ν) : List (Operation κ ν) → List (Answer ν) × Timed κ ν
  | [] => ([], state)
  | operation :: rest =>
    let (answer, next) := step state operation
    let (answers, last) := run next rest
    (answer :: answers, last)

def Operation.duration : Operation κ ν → Nat
  | advance duration => duration
  | insert .. | get _ | contains _ | invalidate _ | clear | size | isEmpty => 0

/-- The entry that an operation at an instant inserts, if it is an insert. -/
def Operation.inserted (now : Nat) : Operation κ ν → List (Entry κ ν)
  | insert key value => [⟨key, value, now⟩]
  | get _ | contains _ | invalidate _ | clear | size | isEmpty | advance _ => []

/-- Whether an operation may remove an entry that has not expired. -/
def Operation.removes : Operation κ ν → Bool
  | invalidate _ | clear => true
  | insert .. | get _ | contains _ | size | isEmpty | advance _ => false

/-- All that the operations insert, the earliest first, whatever becomes of it. -/
def inserts (now : Nat) : List (Operation κ ν) → List (Entry κ ν)
  | [] => []
  | operation :: rest => operation.inserted now ++ inserts (now + operation.duration) rest

end FileGateway.ExpiringCache
