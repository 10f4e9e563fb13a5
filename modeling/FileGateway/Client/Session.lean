import FileGateway.Client.Exchange

/-! A session is the life of one client on its connection. Callers that share a client wait
for each other, so their calls make one list of events. A session remembers every octet
that came from the gateway and every exchange whose request was written. -/
namespace FileGateway

/-- What cuts an exchange off after it has begun and before its response was read. -/
inductive Interruption where
  /-- The caller gave the call up. -/
  | abandoned
  /-- The connection failed. -/
  | fault (fault : LinkFault)
  deriving DecidableEq, Repr

namespace Client

def interruptionFailure (client : Client) : Interruption → Failure
  | .abandoned => .cancelled
  | .fault fault => .error (.io client.address fault)

/-- A call whose exchange is cut off. A call that is refused never begins one. -/
def interrupt (client : Client) (request : Request) (reply : Reply)
    (interruption : Interruption) : Except Failure request.Answer × Client :=
  match client.prepare request with
  | .error error => (.error (.error error), client)
  | .ok _ =>
    let failure := client.interruptionFailure interruption
    (.error failure,
      { client with stream := client.stream.receive reply, closed := failure.closes })

/-- What becomes of a call. -/
inductive Course where
  /-- The gateway answers the request by a reply. -/
  | answered (reply : Reply)
  /-- The exchange begins, and is cut off. -/
  | cut (reply : Reply) (interruption : Interruption)
  /-- The caller gives the call up while it waits for its turn. -/
  | withdrawn

def call (client : Client) (request : Request) :
    Course → Except Failure request.Answer × Client
  | .answered reply => client.perform request reply
  | .cut reply interruption => client.interrupt request reply interruption
  | .withdrawn => (.error .cancelled, client)

/-- Whether a call comes to the point where its request is written. -/
def Begins (client : Client) (request : Request) (course : Course) : Prop :=
  course ≠ .withdrawn ∧ ∃ frame, client.prepare request = .ok frame

end Client

/-- A request that was written, the frame that carried it, and what its caller was given. -/
structure Exchange where
  request : Request
  frame : ByteArray
  outcome : Except Failure request.Answer

structure Session where
  client : Client
  /-- Every octet that has come from the gateway. -/
  received : ByteArray
  /-- The earliest first. -/
  exchanges : List Exchange := []

namespace Session

inductive Event where
  | call (request : Request) (reply : Reply)
  | cut (request : Request) (reply : Reply) (interruption : Interruption)
  /-- Octets come, or the stream ends, outside any call. -/
  | arrival (reply : Reply)
  | close

/-- The request of an event that is a call. -/
def Event.request? : Event → Option Request
  | .call request _ | .cut request _ _ => some request
  | .arrival _ | .close => none

/-- The octets that wait in the stream of a client count as received. -/
def ofClient (client : Client) : Session := { client, received := client.stream.pending }

/-- The session after a call that gave `given`. Only a call that wrote its request is an
exchange. -/
def record (session : Session) (request : Request) (reply : Reply)
    (given : Except Failure request.Answer × Client) : Session :=
  match session.client.prepare request with
  | .error _ => session
  | .ok frame => {
      client := given.2
      received := session.received ++ session.client.stream.arriving reply
      exchanges := session.exchanges ++ [⟨request, frame, given.1⟩] }

def step (session : Session) : Event → Session
  | .call request reply => session.record request reply (session.client.perform request reply)
  | .cut request reply interruption =>
    session.record request reply (session.client.interrupt request reply interruption)
  | .arrival reply => { session with
      client := { session.client with stream := session.client.stream.receive reply }
      received := session.received ++ session.client.stream.arriving reply }
  | .close => { session with client := session.client.close }

def run (session : Session) (events : List Event) : Session := events.foldl step session

end Session
end FileGateway
