import FileGateway.Client.Request
import FileGateway.Network.Stream

/-! A client owns one connection and has one request under way at a time. A request is
checked and framed by `prepare`, the gateway's reply reaches the stream, and `roundTrip`
reads the response, of which `conclude` makes the answer. A failure that leaves the
position in the stream unknown closes the client, and a closed client writes and reads
nothing. -/
namespace FileGateway

/-- Why a call gives no answer. -/
inductive Failure where
  | error (cause : GatewayError)
  /-- The caller gave the call up while it waited for the gateway. -/
  | cancelled
  deriving DecidableEq, Repr

/-- Whether the failure of an exchange closes the client: a response may still
come, or the stream is lost. -/
def Failure.closes : Failure → Bool
  | error cause => cause.isFatal
  | cancelled => true

structure Client where
  address : String
  stream : Stream := {}
  closed : Bool := false

namespace Client

/-- The client in place of one that was never connected. -/
def absent : Client where
  address := ""
  closed := true

def close (client : Client) : Client := { client with closed := true }

/-- The client as it appears in diagnostics. -/
def describe (client : Client) : String :=
  "GatewayClient \x7b addr: " ++ Quoted.quote client.address ++ ", closed: "
    ++ toString client.closed ++ " \x7d"

/-- The frame that a request writes. Arguments are refused before a closed client
is, and a frame is refused last. -/
def prepare (client : Client) (request : Request) : Except GatewayError ByteArray := do
  request.checkArguments.mapError .invalidArgument
  if client.closed then
    throw (.closed client.address)
  (Frame.encodeRequest request.opcode request.fields).mapError
    (.protocol client.address (some request.path))

def responseFailure (client : Client) (path : String) : Stream.ResponseFault → Failure
  | .short .ended => .error (.io client.address .endOfStream)
  | .short .waiting => .cancelled
  | .message error => .error (.protocol client.address (some path) error)

/-- Reads the response for an operation whose request was written, header first. The
stream is left behind what was read. -/
def roundTrip (client : Client) (op : Opcode) (path : String) :
    Except Failure Frame.Response × Stream :=
  let (result, stream) := client.stream.takeResponse op
  (result.mapError (client.responseFailure path), stream)

/-- Makes an answer of the response to a request that was written. Only a round trip
that fails can close the client. A call that would wait for ever is given up. -/
def conclude (client : Client) (request : Request) : Except Failure request.Answer × Client :=
  match client.roundTrip request.opcode request.path with
  | (.error failure, stream) =>
    (.error failure, { client with stream, closed := client.closed || failure.closes })
  | (.ok response, stream) =>
    let answer := (request.interpret response).mapError (fun error =>
      client.responseFailure request.path (.message error))
    (answer, { client with stream })

/-- A whole call to a gateway that answers the request by `reply`. -/
def perform (client : Client) (request : Request) (reply : Reply) :
    Except Failure request.Answer × Client :=
  match client.prepare request with
  | .error error => (.error (.error error), client)
  | .ok _ => { client with stream := client.stream.receive reply }.conclude request

end Client
end FileGateway
