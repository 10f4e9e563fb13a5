import FileGateway.Proofs.Client.Session

/-! A round trip reads a response header first and its payload second. On a stream that ends it
comes to what the reader of whole frames comes to, and it takes the octets of its own
frame and no others. -/
namespace FileGateway

namespace Client

variable {client : Client} {octets : ByteArray}

theorem roundTrip_short_header (found : client.stream = ⟨octets, true⟩)
    (short : octets.size < Frame.responseHeaderSize) (op : Opcode) (path : String) :
    (client.roundTrip op path).1 = .error (.error (.io client.address .endOfStream)) := by
  rw [roundTrip, found, Stream.takeResponse, Stream.take_ended short]
  rfl

variable {header rest : ByteArray} {op : Opcode}

theorem roundTrip_refused_header (found : client.stream = ⟨header ++ rest, true⟩)
    (width : header.size = Frame.responseHeaderSize) {error : MessageError}
    (refused : Frame.ResponseHeader.parse header op = .error error) (path : String) :
    client.roundTrip op path =
      (.error (.error (.protocol client.address (some path) error)), ⟨rest, true⟩) := by
  rw [roundTrip, found, Stream.takeResponse_append width, refused]
  rfl

theorem roundTrip_short_payload (found : client.stream = ⟨header ++ rest, true⟩)
    (width : header.size = Frame.responseHeaderSize) {parsed : Frame.ResponseHeader}
    (accepted : Frame.ResponseHeader.parse header op = .ok parsed)
    (short : rest.size < parsed.payloadSize) (path : String) :
    (client.roundTrip op path).1 = .error (.error (.io client.address .endOfStream)) := by
  rw [roundTrip, found, Stream.takeResponse_append width, accepted]
  simp only [Stream.take_ended short]
  rfl

theorem roundTrip_whole {payload : ByteArray}
    (found : client.stream = ⟨header ++ (payload ++ rest), true⟩)
    (width : header.size = Frame.responseHeaderSize) {parsed : Frame.ResponseHeader}
    (accepted : Frame.ResponseHeader.parse header op = .ok parsed)
    (size : payload.size = parsed.payloadSize) (path : String) :
    client.roundTrip op path =
      ((Frame.decodeResponse (header ++ payload) op).mapError (fun error =>
        .error (.protocol client.address (some path) error)), ⟨rest, true⟩) := by
  rw [roundTrip, found, Stream.takeResponse_whole width accepted size]
  cases Frame.decodeResponse (header ++ payload) op <;> rfl

/-- On a stream that ends, a round trip and the reader of whole frames agree. Too few octets are
the end of the stream, a refused header costs its own octets, and a frame of the declared
size is read whole, so that the octets behind it are left to the next request. -/
theorem roundTrip_exact (client : Client) (op : Opcode) (path : String) (octets : ByteArray)
    (found : client.stream = ⟨octets, true⟩) :
    (octets.size < Frame.responseHeaderSize →
      (client.roundTrip op path).1 = .error (.error (.io client.address .endOfStream))) ∧
    (Frame.responseHeaderSize ≤ octets.size →
      (∀ error,
        Frame.ResponseHeader.parse (octets.extract 0 Frame.responseHeaderSize) op = .error error →
        Frame.decodeResponse octets op = .error error ∧
        client.roundTrip op path =
          (.error (.error (.protocol client.address (some path) error)),
            ⟨octets.extract Frame.responseHeaderSize octets.size, true⟩)) ∧
      (∀ header,
        Frame.ResponseHeader.parse (octets.extract 0 Frame.responseHeaderSize) op = .ok header →
        (octets.size < Frame.responseHeaderSize + header.payloadSize →
          (client.roundTrip op path).1 =
            .error (.error (.io client.address .endOfStream))) ∧
        (Frame.responseHeaderSize + header.payloadSize ≤ octets.size →
          client.roundTrip op path =
            ((Frame.decodeResponse
                (octets.extract 0 (Frame.responseHeaderSize + header.payloadSize)) op).mapError
              (fun error => .error (.protocol client.address (some path) error)),
            ⟨octets.extract (Frame.responseHeaderSize + header.payloadSize) octets.size,
              true⟩)))) := by
  refine ⟨fun short => roundTrip_short_header found short op path, ?_⟩
  intro enough
  have width : (octets.extract 0 Frame.responseHeaderSize).size = Frame.responseHeaderSize := by
    rw [ByteArray.size_extract]
    omega
  have split : octets = octets.extract 0 Frame.responseHeaderSize ++
      octets.extract Frame.responseHeaderSize octets.size := by
    rw [← ByteArray.extract_eq_extract_append_extract _ (Nat.zero_le _) enough,
      ByteArray.extract_zero_size]
  have behind := found.trans (congrArg (Stream.mk · true) split)
  constructor
  · intro error refused
    refine ⟨?_, roundTrip_refused_header behind width refused path⟩
    rw [split, Frame.decodeResponse_append width, refused]
  · intro header accepted
    constructor
    · intro short
      refine roundTrip_short_payload behind width accepted ?_ path
      rw [ByteArray.size_extract]
      omega
    · intro whole
      have size : (octets.extract Frame.responseHeaderSize
          (Frame.responseHeaderSize + header.payloadSize)).size = header.payloadSize := by
        rw [ByteArray.size_extract]
        omega
      have payload : octets.extract Frame.responseHeaderSize octets.size =
          octets.extract Frame.responseHeaderSize
            (Frame.responseHeaderSize + header.payloadSize) ++
          octets.extract (Frame.responseHeaderSize + header.payloadSize) octets.size :=
        ByteArray.extract_eq_extract_append_extract _ (Nat.le_add_right _ _) whole
      rw [payload] at behind
      rw [roundTrip_whole behind width accepted size path,
        ← ByteArray.extract_eq_extract_append_extract _ (Nat.zero_le _) (Nat.le_add_right _ _)]

/-- The one field of the payload claims to be longer than the payload. The two octets behind the
frame stay in the stream. -/
theorem roundTrip_exact_field_past_end :
    let octets : ByteArray :=
      ⟨#[0, 0, 0, 10, 0, 0, 0, 0, 0, 0, 0, 4, 0, 0, 0, 1, 0, 0, 0, 9, 1, 2]⟩
    let client : Client := { address := "gw:7000", stream := ⟨octets, true⟩ }
    Frame.ResponseHeader.parse (octets.extract 0 16) .flush = .ok ⟨.flush, 0, 4, 1⟩ ∧
      client.roundTrip .flush "/a" =
        (.error (.error (.protocol "gw:7000" (some "/a") (.framing (.fieldPastEnd 0 9 4)))),
          ⟨⟨#[1, 2]⟩, true⟩) := by
  refine ⟨rfl, ?_⟩
  have exact := roundTrip_exact { address := "gw:7000", stream :=
    ⟨⟨#[0, 0, 0, 10, 0, 0, 0, 0, 0, 0, 0, 4, 0, 0, 0, 1, 0, 0, 0, 9, 1, 2]⟩, true⟩ }
    .flush "/a" _ rfl
  have whole := ((exact.2 (by decide)).2 ⟨.flush, 0, 4, 1⟩ rfl).2 (by decide)
  exact whole.trans rfl

end Client
end FileGateway
