import FileGateway.Frame.Decoding

/-! The client's end of a connection holds the octets that have come and were not yet read.
A gateway reacts to a request by a reply, which adds octets or ends the stream. A
response is read header first, and no octet beyond its frame is taken. -/
namespace FileGateway

/-- What a gateway does about one request. -/
inductive Reply where
  | send (octets : ByteArray)
  /-- Sends octets and ends the stream. -/
  | finish (octets : ByteArray)
  /-- Sends nothing and leaves the stream open. -/
  | stall

def Reply.octets : Reply → ByteArray
  | send octets | finish octets => octets
  | stall => ByteArray.empty

structure Stream where
  pending : ByteArray := ByteArray.empty
  ended : Bool := false

namespace Stream

/-- The stream after a reply. Nothing comes on an ended stream. -/
def receive (stream : Stream) (reply : Reply) : Stream :=
  if stream.ended then stream
  else
    match reply with
    | .send octets => { stream with pending := stream.pending ++ octets }
    | .finish octets => { pending := stream.pending ++ octets, ended := true }
    | .stall => stream

/-- The octets that a reply adds to a stream. -/
def arriving (stream : Stream) (reply : Reply) : ByteArray :=
  if stream.ended then ByteArray.empty else reply.octets

/-- Why a read gives no octets. -/
inductive Shortage where
  /-- The stream ended first. -/
  | ended
  /-- The octets have not come, and the stream is open. -/
  | waiting
  deriving DecidableEq, Repr

/-- Takes exactly `count` octets. -/
def take (stream : Stream) (count : Nat) : Except Shortage (ByteArray × Stream) :=
  if count ≤ stream.pending.size then
    .ok (stream.pending.extract 0 count,
      { stream with pending := stream.pending.extract count stream.pending.size })
  else if stream.ended then .error .ended
  else .error .waiting

/-- Why no response can be read. -/
inductive ResponseFault where
  | short (shortage : Shortage)
  | message (error : MessageError)
  deriving DecidableEq

/-- Reads the response to a request for `op`, with the stream behind what was
read of it. A payload is awaited only behind an accepted header. -/
def takeResponse (stream : Stream) (op : Opcode) : Except ResponseFault Frame.Response × Stream :=
  match stream.take Frame.responseHeaderSize with
  | .error shortage => (.error (.short shortage), stream)
  | .ok (headerOctets, stream) =>
    match Frame.ResponseHeader.parse headerOctets op with
    | .error error => (.error (.message error), stream)
    | .ok header =>
      match stream.take header.payloadSize with
      | .error shortage => (.error (.short shortage), stream)
      | .ok (payload, stream) => ((header.decodePayload payload).mapError .message, stream)

end Stream
end FileGateway
