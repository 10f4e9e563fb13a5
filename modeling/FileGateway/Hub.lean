import FileGateway.Block.Holders
import FileGateway.Pool

/-! A question goes to the clients of many hosts at once, with a bound on how many hosts are
busy with it. The result holds one answer per host, in the order of the list. A host
that fails has no value in its answer and never fails the whole question. A host that
never answers does: the question is then given up. -/
namespace FileGateway

/-- What the questions of monitors and other callers share and change. -/
structure Hub where
  pool : Pool
  network : Network

/-- A question to the client of one host. -/
abbrev Query (α : Type) := Network → ClientId → Except Failure (Option α) × Network

namespace Query

/-- The bitmap of a file's held blocks. -/
def cachedBlocks (path : String) : Query Bitmap := fun network id =>
  let (answer, network) := network.perform id (.getExtendedAttr path Request.cachedBlocksAttribute)
  (answer.map (Option.map Bitmap.mk), network)

/-- The names of a file's extended attributes. -/
def attributeNames (path : String) : Query (List String) := fun network id =>
  let (answer, network) := network.perform id (.listExtendedAttr path)
  (answer.map some, network)

/-- The value of one extended attribute. -/
def attributeValue (path name : String) : Query ByteArray := fun network id =>
  network.perform id (.getExtendedAttr path name)

end Query

namespace Hub
variable {α : Type}

/-- The client of a host. -/
def client (hub : Hub) (now : Nat) (host : String) : Except GatewayError ClientId × Hub :=
  let (result, pool, network) := hub.pool.get hub.network now host
  (result, ⟨pool, network⟩)

/-- Forgets the client of a host after a failure that makes it useless. -/
def discardAfter (hub : Hub) (host : String) (error : GatewayError) : Hub :=
  if error.isFatal then { hub with pool := hub.pool.invalidate host } else hub

/-- Asks one host. -/
def ask (hub : Hub) (now : Nat) (query : Query α) (host : String) :
    Except Failure (Option α) × Hub :=
  match hub.client now host with
  | (.error error, hub) => (.error (.error error), hub)
  | (.ok id, hub) =>
    match query hub.network id with
    | (.error (.error error), network) =>
      (.error (.error error), { hub with network }.discardAfter host error)
    | (result, network) => (result, { hub with network })

/-- Asks hosts in order while `workers` of them may be busy. A host that never
answers keeps its worker busy, and when none is free the hosts that remain are not
asked. There is no result unless every host was asked and answered. -/
def askAll (now : Nat) (query : Query α) :
    (workers : Nat) → Hub → List String → Option (List (HostAnswer α)) × Hub
  | _, hub, [] => (some [], hub)
  | 0, hub, _ :: _ => (none, hub)
  | workers + 1, hub, host :: hosts =>
    match hub.ask now query host with
    | (.error .cancelled, hub) => (none, (askAll now query workers hub hosts).2)
    | (.error (.error _), hub) =>
      let (answers, hub) := askAll now query (workers + 1) hub hosts
      (answers.map (⟨host, none⟩ :: ·), hub)
    | (.ok value, hub) =>
      let (answers, hub) := askAll now query (workers + 1) hub hosts
      (answers.map (⟨host, value⟩ :: ·), hub)

end Hub

end FileGateway
