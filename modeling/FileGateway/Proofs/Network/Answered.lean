import FileGateway.Proofs.Client.Answer
import FileGateway.Proofs.Client.Closing
import FileGateway.Proofs.Network.Calls

/-! A call that gives an answer has written its request and read a whole response, which holds the
answer. It never leaves the network as it was. -/
namespace FileGateway

namespace Client
variable {client : Client} {request : Request} {reply : Reply} {answer : request.Answer}

theorem exists_prepare_of_answered (given : (client.perform request reply).1 = .ok answer) :
    ∃ frame, client.prepare request = .ok frame := by
  cases prepared : client.prepare request with
  | error error =>
    rw [perform, prepared] at given
    contradiction
  | ok frame => exact ⟨frame, rfl⟩

theorem open_of_answered (given : (client.perform request reply).1 = .ok answer) :
    (client.perform request reply).2.closed = false := by
  obtain ⟨frame, prepared⟩ := exists_prepare_of_answered given
  rw [← Bool.not_eq_true, closed_perform_iff (open_of_prepare prepared) prepared, given]
  rintro ⟨failure, same, _⟩
  contradiction

/-- Of what was pending or came in reply, a written response was read, and it gives the answer. -/
theorem exists_response_of_answered (given : (client.perform request reply).1 = .ok answer) :
    ∃ response returnCode fields,
      client.stream.pending ++ client.stream.arriving reply =
        response ++ (client.perform request reply).2.stream.pending ∧
      Frame.encodeResponse request.opcode returnCode fields = .ok response ∧
      request.Gives returnCode fields (.ok answer) := by
  obtain ⟨frame, prepared⟩ := exists_prepare_of_answered given
  have whole : client.perform request reply = (.ok answer, (client.perform request reply).2) :=
    Prod.ext given rfl
  obtain ⟨response, arrived, _, alone⟩ := perform_open prepared whole (open_of_answered given)
  rw [Request.outcome] at alone
  rcases Frame.framing_or_exists_encodeResponse response request.opcode with
    ⟨error, refused, _⟩ | ⟨returnCode, fields, written⟩
  · rw [refused] at alone
    contradiction
  · have gives := request.gives_judge returnCode fields
    rw [← Frame.decodeResponse_of_encodeResponse written] at gives
    refine ⟨response, returnCode, fields, arrived, written, ?_⟩
    generalize Frame.decodeResponse response request.opcode >>= request.interpret = read
      at alone gives
    cases read with
    | error error => contradiction
    | ok other =>
      cases alone
      exact gives

end Client

namespace Network

/-- An answered call leaves its mark: the gateway has received the request or, where the stream had
ended, the response is no longer pending. -/
theorem perform_ne {network : Network} {id : ClientId} {request : Request}
    {answer : request.Answer} (given : (network.perform id request).1 = .ok answer) :
    (network.perform id request).2 ≠ network := by
  intro same
  have performed := network.perform_client id request
  rw [same] at performed
  have answered := (congrArg Prod.fst performed).symm.trans given
  obtain ⟨frame, prepared⟩ := Client.exists_prepare_of_answered answered
  cases reached : (network.client id).stream.ended with
  | false =>
    have grown := history_perform prepared reached
    rw [same] at grown
    exact List.cons_ne_nil _ _ (List.self_eq_append_right.mp grown)
  | true =>
    obtain ⟨response, returnCode, fields, arrived, written, _⟩ :=
      Client.exists_response_of_answered answered
    have size := Frame.size_encodeResponse written
    have lengths := congrArg ByteArray.size arrived
    rw [← performed, Stream.arriving, if_pos reached] at lengths
    simp only [ByteArray.size_append, ByteArray.size_empty, size, Frame.responseHeaderSize]
      at lengths
    omega

end Network
end FileGateway
