import FileGateway.Network.Stream
import FileGateway.Proofs.Frame.Response

/-! Reading a response from a stream takes exactly one frame off it, unless the place in the
stream is lost, and judges that frame as the reader of whole frames does. -/
namespace FileGateway.Stream

theorem take_eq_ok {stream next : Stream} {count : Nat} {octets : ByteArray}
    (taken : stream.take count = .ok (octets, next)) :
    octets.size = count ∧ stream.pending = octets ++ next.pending ∧ next.ended = stream.ended := by
  rw [take] at taken
  split at taken
  · rename_i enough
    cases taken
    refine ⟨?_, ?_, rfl⟩
    · rw [ByteArray.size_extract]
      omega
    · rw [← ByteArray.extract_eq_extract_append_extract _ (Nat.zero_le _) enough,
        ByteArray.extract_zero_size]
  · split at taken <;> contradiction

theorem take_append (front rest : ByteArray) (ended : Bool) :
    take ⟨front ++ rest, ended⟩ front.size = .ok (front, ⟨rest, ended⟩) := by
  have enough : front.size ≤ (front ++ rest).size := by
    rw [ByteArray.size_append]
    omega
  rw [take, if_pos enough, ByteArray.extract_append_eq_left rfl,
    ByteArray.extract_append_eq_right rfl ByteArray.size_append]

theorem take_ended {octets : ByteArray} {count : Nat} (short : octets.size < count) :
    take ⟨octets, true⟩ count = .error .ended := by
  rw [take, if_neg (Nat.not_le.mpr short), if_pos rfl]

/-- Whether it is unknown what the next octet of the stream belongs to. -/
def ResponseFault.losesPlace : ResponseFault → Bool
  | short _ => true
  | message error => error.isFraming

/-- Octets that make a whole response to a request for `op`, be it a failure. -/
def IsResponse (op : Opcode) (frame : ByteArray) : Prop :=
  (∃ response, Frame.decodeResponse frame op = .ok response) ∨
    ∃ code description, Frame.decodeResponse frame op = .error (.remote op code description)

theorem isResponse_of_not_framing {op : Opcode} {frame : ByteArray}
    (trusted : ∀ error, Frame.decodeResponse frame op = .error error → error.isFraming = false) :
    IsResponse op frame := by
  cases read : Frame.decodeResponse frame op with
  | ok response => exact .inl ⟨response, read⟩
  | error error =>
    rcases Frame.framing_or_exists_encodeResponse frame op with
      ⟨other, refused, framing⟩ | ⟨returnCode, fields, written⟩
    · rw [trusted other refused] at framing
      contradiction
    · have judged := Frame.decodeResponse_of_encodeResponse written
      rw [judged] at read
      rw [Frame.judge_error read] at read
      exact .inr ⟨returnCode, _, judged.trans read⟩

/-- Unless the place in the stream is lost, one frame is taken, and it alone decides. -/
theorem takeResponse_frame {stream next : Stream} {op : Opcode}
    {result : Except ResponseFault Frame.Response}
    (read : stream.takeResponse op = (result, next))
    (kept : ∀ fault, result = .error fault → fault.losesPlace = false) :
    ∃ frame, stream.pending = frame ++ next.pending ∧ next.ended = stream.ended ∧
      IsResponse op frame ∧ result = (Frame.decodeResponse frame op).mapError .message := by
  rw [takeResponse] at read
  split at read
  · rename_i shortage _
    cases read
    have lost : true = false := kept _ rfl
    contradiction
  rename_i headerOctets behind first
  obtain ⟨width, pending, ended⟩ := take_eq_ok first
  split at read
  · rename_i error refused
    cases read
    have framing := Frame.isFraming_of_parse_error (Nat.le_of_eq width.symm) refused
    have trusted : error.isFraming = false := kept _ rfl
    rw [framing] at trusted
    contradiction
  rename_i header parsed
  split at read
  · rename_i shortage _
    cases read
    have lost : true = false := kept _ rfl
    contradiction
  rename_i payload rest second
  obtain ⟨_, behindPending, behindEnded⟩ := take_eq_ok second
  cases read
  have whole : Frame.decodeResponse (headerOctets ++ payload) op =
      header.decodePayload payload := by
    rw [Frame.decodeResponse_append width, parsed]
  refine ⟨headerOctets ++ payload, ?_, behindEnded.trans ended, ?_, by rw [whole]⟩
  · rw [pending, behindPending, ByteArray.append_assoc]
  · apply isResponse_of_not_framing
    intro error refused
    rw [whole] at refused
    exact kept (.message error) (by rw [refused]; rfl)

/-! ## Headers and payloads -/

theorem takeResponse_append {header : ByteArray} (width : header.size = Frame.responseHeaderSize)
    (rest : ByteArray) (ended : Bool) (op : Opcode) :
    takeResponse ⟨header ++ rest, ended⟩ op =
      match Frame.ResponseHeader.parse header op with
      | .error error => (.error (.message error), ⟨rest, ended⟩)
      | .ok parsed =>
        match take ⟨rest, ended⟩ parsed.payloadSize with
        | .error shortage => (.error (.short shortage), ⟨rest, ended⟩)
        | .ok (payload, stream) => ((parsed.decodePayload payload).mapError .message, stream) := by
  have first := take_append header rest ended
  rw [width] at first
  cases judged : Frame.ResponseHeader.parse header op with
  | error error => simp only [takeResponse, first, judged]
  | ok parsed =>
    cases second : take ⟨rest, ended⟩ parsed.payloadSize with
    | error shortage => simp only [takeResponse, first, judged, second]
    | ok taken => simp only [takeResponse, first, judged, second]

/-- A frame as long as its header declares is read whole, and nothing behind it. -/
theorem takeResponse_whole {header payload : ByteArray} {parsed : Frame.ResponseHeader}
    {op : Opcode} (width : header.size = Frame.responseHeaderSize)
    (accepted : Frame.ResponseHeader.parse header op = .ok parsed)
    (size : payload.size = parsed.payloadSize) (rest : ByteArray) (ended : Bool) :
    takeResponse ⟨header ++ (payload ++ rest), ended⟩ op =
      ((Frame.decodeResponse (header ++ payload) op).mapError .message, ⟨rest, ended⟩) := by
  rw [takeResponse_append width, Frame.decodeResponse_append width, accepted]
  simp only [← size, take_append]

/-- A written response is taken off the stream, and its return code decides. -/
theorem takeResponse_written {op : Opcode} {returnCode : Int32} {fields : List ByteArray}
    {frame : ByteArray} (written : Frame.encodeResponse op returnCode fields = .ok frame)
    (rest : ByteArray) (ended : Bool) :
    takeResponse ⟨frame ++ rest, ended⟩ op =
      ((Frame.judge op returnCode fields).mapError .message, ⟨rest, ended⟩) := by
  have judged := Frame.decodeResponse_of_encodeResponse written
  obtain ⟨header, width, rfl, accepted⟩ := Frame.exists_header_of_encodeResponse written
  rw [ByteArray.append_assoc, takeResponse_whole width accepted (Frame.size_payload fields),
    judged]

theorem receive_ended (stream : Stream) (ended : stream.ended = true) (reply : Reply) :
    stream.receive reply = stream :=
  if_pos ended

theorem pending_receive (stream : Stream) (reply : Reply) :
    (stream.receive reply).pending = stream.pending ++ stream.arriving reply := by
  cases ended : stream.ended with
  | true => simp [receive, arriving, ended]
  | false => cases reply <;> simp [receive, arriving, ended, Reply.octets]

end FileGateway.Stream
