import FileGateway.Hub.FanOut.Run
import FileGateway.Monitor

/-! What is written to the log while hosts are asked one after another. The log holds the
records that are shown by default: that clients were connected, and warnings. A record stands
here without its time, its level and the part of the program that wrote it. -/
namespace FileGateway

inductive LogRecord where
  | connected (address : String)
  /-- The new client of an address is in the pool. -/
  | registered (address : String)
  /-- A failure has closed the client of a call. -/
  | dropped (address : String) (op : Opcode) (path : String) (error : GatewayError)
  /-- A host has no value in the answers to a question, because it failed. -/
  | queryFailed (subject host : String) (error : GatewayError)
  deriving DecidableEq, Repr

def LogRecord.message : LogRecord → String
  | connected address => "connected to gateway addr=" ++ Quoted.quote address
  | registered address => "registered gateway client addr=" ++ address
  | dropped address op path error =>
    "dropping gateway connection: " ++ error.message ++ " addr=" ++ address ++ " op=" ++ op.name
      ++ " path=" ++ Quoted.quote path
  | queryFailed subject host error =>
    subject ++ " query failed: " ++ error.message ++ " host=" ++ host

/-- What a question is about, in warnings. -/
def Question.subject {α : Type} : Question α → String
  | cachedBlocks _ => "cached block bitmap"
  | attributeNames _ => "extended attribute list"
  | attributeValue .. => "extended attribute"

namespace Log

/-- A client that was not there before has been connected and put into the pool. -/
def ofClient (before after : Network) (id : ClientId) : List LogRecord :=
  if id < before.clients.size then []
  else [.connected (after.client id).address, .registered (after.client id).address]

/-- A call warns of the failure that closes its client. -/
def ofCall (network : Network) (id : ClientId) (request : Request) : List LogRecord :=
  match network.perform id request with
  | (.error (.error error), after) =>
    if (after.client id).closed && !(network.client id).closed then
      [.dropped (network.client id).address request.opcode request.path error]
    else []
  | _ => []

/-- A question to one host. -/
def ofAsk {α : Type} (now : Nat) (question : Question α) (hub : Hub) (host : String) :
    List LogRecord :=
  match hub.client now host with
  | (.error error, _) => [.queryFailed question.subject host error]
  | (.ok id, next) =>
    let warning := match question.query next.network id with
      | (.error (.error error), _) => [.queryFailed question.subject host error]
      | _ => []
    ofClient hub.network next.network id ++ ofCall next.network id question.request ++ warning

/-- A question to several hosts. -/
def ofSurvey {α : Type} (now : Nat) (question : Question α) : Hub → List String → List LogRecord
  | _, [] => []
  | hub, host :: hosts =>
    ofAsk now question hub host ++
      ofSurvey now question (hub.ask now question.query host).2 hosts

/-- A call for the metadata of a path at one host, which asks only if the cache is without it. -/
def ofStat (stats : StatCache) (hub : Hub) (now : Nat) (path host : String) : List LogRecord :=
  match hub.client now host with
  | (.error _, _) => []
  | (.ok id, next) =>
    let call := match stats.cached now path with
      | (some _, _) => []
      | (none, _) => ofCall next.network id (.getStat path)
    ofClient hub.network next.network id ++ call

/-- A lookup of a file's length. -/
def ofLength (now : Nat) (path : String) : StatCache → Hub → List String → List LogRecord
  | _, _, [] => []
  | stats, hub, host :: hosts =>
    let records := ofStat stats hub now path host
    match Monitor.statAt stats hub now path host with
    | (.error (.error _), stats, hub) => records ++ ofLength now path stats hub hosts
    | _ => records

/-- The placing of a range of a file. -/
def ofPlace (monitor : Monitor) (hub : Hub) (now : Nat) (path : String) (start length : UInt64) :
    List LogRecord :=
  let measuring := ofLength now path monitor.stats hub monitor.hosts
  match monitor.fileLength hub now path, monitor.place hub now path start length with
  | (_, _, hub), (some placement, _, _) =>
    if placement.isEmpty then measuring
    else measuring ++ ofSurvey now (.cachedBlocks path) hub monitor.hosts
  | _, (none, _, _) => measuring

end Log
end FileGateway
