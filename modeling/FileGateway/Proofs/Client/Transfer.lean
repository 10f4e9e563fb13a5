import FileGateway.Proofs.Network.Answered

/-! How many octets a read or a write moves. A read asks for no more than one field of a response
can hold, so every read that is sent can be answered in full, and its caller is never given more
than was asked for. A write is answered with the return code of the response, which may be more
than there was to write. -/
namespace FileGateway

/-- A response of one field can be written exactly if the field is within its limit. -/
theorem Frame.exists_encodeResponse_singleton_iff {op : Opcode} {returnCode : Int32}
    {field : ByteArray} :
    (∃ frame, encodeResponse op returnCode [field] = .ok frame) ↔ field.size ≤ maxField := by
  have size : payloadSize [field] = lengthSize + field.size := rfl
  have limit : maxPayload = lengthSize + maxField := rfl
  simp only [encodeResponse_eq_ok_iff, size, limit]
  constructor
  · rintro ⟨frame, within, _⟩
    omega
  · intro within
    exact ⟨_, by omega, rfl⟩

namespace Client
variable {client : Client} {handle : FileHandle} {offset : UInt64}

/-! ## Reads -/

/-- A read of more than one field can hold is refused before anything else is looked at. -/
theorem prepare_overlong_read (client : Client) (handle : FileHandle) (offset : UInt64)
    {length : UInt32} (overlong : Frame.maxField < length.toNat) :
    client.prepare (.readFileData handle offset length) =
      .error (.invalidArgument (.readTooLong length.toNat Frame.maxField)) := by
  rw [prepare, Request.checkArguments, if_pos overlong]
  rfl

section Read
variable {length : UInt32} (admitted : client.Admits (.readFileData handle offset length))
  {returnCode : Int32} (success : 0 ≤ returnCode) {field frame : ByteArray}
  (written : Frame.encodeResponse .readFileData returnCode [field] = .ok frame)
  (reply : Reply) {rest : ByteArray}
  (arrived : client.stream.pending ++ client.stream.arriving reply = frame ++ rest)
include admitted success written arrived

/-- A field within the length asked for is the answer. -/
theorem perform_short_read (short : field.size ≤ length.toNat) :
    client.perform (.readFileData handle offset length) reply =
      (.ok field,
        { client with stream := { client.stream.receive reply with pending := rest } }) := by
  obtain ⟨given, performed, gives⟩ := perform_gives admitted written reply rest arrived
  obtain ⟨answer, rfl⟩ := (gives.answered success).mpr ⟨field, rfl, short⟩
  have reads : [field] = [answer] := gives.answer success answer rfl
  cases reads
  exact performed

/-- A longer field is refused, although its response was read to its end. -/
theorem perform_overlong_read (overlong : length.toNat < field.size) :
    client.perform (.readFileData handle offset length) reply =
      (.error (.error (.protocol client.address (some handle.path)
          (.invalidField (.overlongRead length.toNat field.size)))),
        { client with stream := { client.stream.receive reply with pending := rest } }) := by
  obtain ⟨given, performed, gives⟩ := perform_gives admitted written reply rest arrived
  cases given with
  | ok answer =>
    obtain ⟨other, single, short⟩ := (gives.answered success).mp ⟨answer, rfl⟩
    cases single
    omega
  | error error =>
    have misfit : Frame.Response.OneFieldMisfit .readFileData [field] (·.size ≤ length.toNat)
      (fun field => .invalidField (.overlongRead length.toNat field.size)) error :=
      gives.refusal success error rfl
    rcases misfit with ⟨several, _⟩ | ⟨other, single, _, rfl⟩
    · exact absurd rfl several
    · cases single
      exact performed

end Read

theorem size_le_of_read {length : UInt32} {reply : Reply} {data : ByteArray}
    (given : (client.perform (.readFileData handle offset length) reply).1 = .ok data) :
    data.size ≤ length.toNat := by
  obtain ⟨response, returnCode, fields, arrived, written, gives⟩ := exists_response_of_answered given
  by_cases success : 0 ≤ returnCode
  · obtain ⟨field, single, fits⟩ := (gives.answered success).mp ⟨data, rfl⟩
    have reads : fields = [data] := gives.answer success data rfl
    cases single.symm.trans reads
    exact fits
  · have unforgiven : ¬ Request.Forgives (.readFileData handle offset length) returnCode :=
      fun forgiven => nomatch forgiven.1
    have refused := gives.failure (Int32.not_le.mp success) unforgiven
    contradiction

/-- The limit of a read is the limit of what a response can hold. Above it a read is refused, and
nothing in the network changes. Up to it, all data of at most the length asked for can be
written as a response, and a read that finds such a response is given just these data. Nobody
is given more than was asked for: a longer field is refused, and like every response that was
read to its end it leaves the client open, with the octets behind it still to be read. -/
theorem readFileData_limits (opened : client.closed = false)
    (inRange : (offset.toNat : Int) ≤ Int64.maxValue.toInt) (length : UInt32)
    (fits : Frame.payloadSize (Request.readFileData handle offset length).fields ≤
      Frame.maxPayload) :
    let request := Request.readFileData handle offset length
    (Frame.maxField < length.toNat →
      (∀ (network : Network) (id : ClientId), network.client id = client →
        (network.perform id request).1 =
          .error (.error (.invalidArgument (.readTooLong length.toNat Frame.maxField))) ∧
        (network.perform id request).2 = network) ∧
      ∀ data : ByteArray, data.size = length.toNat →
        ∀ returnCode frame, Frame.encodeResponse .readFileData returnCode [data] ≠ .ok frame) ∧
    (length.toNat ≤ Frame.maxField →
      (∀ (returnCode : Int32) (data : ByteArray), 0 ≤ returnCode → data.size ≤ length.toNat →
        ∃ frame, Frame.encodeResponse .readFileData returnCode [data] = .ok frame ∧
          ∀ reply rest,
            client.stream.pending ++ client.stream.arriving reply = frame ++ rest →
              (client.perform request reply).1 = .ok data ∧
              (client.perform request reply).2.closed = false ∧
              (client.perform request reply).2.stream.pending = rest) ∧
      (∀ reply (data : ByteArray), (client.perform request reply).1 = .ok data →
        data.size ≤ length.toNat) ∧
      ∀ (returnCode : Int32) (field frame : ByteArray), 0 ≤ returnCode →
        length.toNat < field.size →
        Frame.encodeResponse .readFileData returnCode [field] = .ok frame →
          ∀ reply rest,
            client.stream.pending ++ client.stream.arriving reply = frame ++ rest →
              (client.perform request reply).1 = .error (.error (.protocol client.address
                (some handle.path) (.invalidField (.overlongRead length.toNat field.size)))) ∧
              (client.perform request reply).2.closed = false ∧
              (client.perform request reply).2.stream.pending = rest) := by
  intro request
  constructor
  · intro overlong
    constructor
    · intro network id _
      rw [Network.perform_of_prepare_error (prepare_overlong_read _ handle offset overlong)]
      exact ⟨rfl, rfl⟩
    · intro data size returnCode frame written
      have within := Frame.exists_encodeResponse_singleton_iff.mp ⟨frame, written⟩
      omega
  · intro within
    have admitted : client.Admits request := ⟨opened, ⟨within, inRange⟩, fits⟩
    refine ⟨?_, fun reply data => size_le_of_read, ?_⟩
    · intro returnCode data success short
      obtain ⟨frame, written⟩ : ∃ frame,
          Frame.encodeResponse .readFileData returnCode [data] = .ok frame :=
        Frame.exists_encodeResponse_singleton_iff.mpr (Nat.le_trans short within)
      refine ⟨frame, written, ?_⟩
      intro reply rest arrived
      rw [perform_short_read admitted success written reply arrived short]
      exact ⟨rfl, opened, rfl⟩
    · intro returnCode field frame success overlong written reply rest arrived
      rw [perform_overlong_read admitted success written reply arrived overlong]
      exact ⟨rfl, opened, rfl⟩

/-- The greatest read of all is answered in full, at the greatest offset of all. -/
theorem readFileData_limits_greatest :
    let client : Client := { address := "gw:7000" }
    let request := Request.readFileData ⟨"/a", 7⟩ 0x7FFFFFFFFFFFFFFF 67108860
    let data : ByteArray := ⟨Array.replicate 67108860 0⟩
    ∃ frame, Frame.encodeResponse .readFileData 0 [data] = .ok frame ∧
      (client.perform request (.send frame)).1 = .ok data := by
  intro client request data
  have short : data.size ≤ (67108860 : UInt32).toNat :=
    Nat.le_of_eq Array.size_replicate
  have opened : client.closed = false := rfl
  have inRange : ((0x7FFFFFFFFFFFFFFF : UInt64).toNat : Int) ≤ Int64.maxValue.toInt := by decide
  obtain ⟨-, answered⟩ := @readFileData_limits client ⟨"/a", 7⟩ 0x7FFFFFFFFFFFFFFF opened inRange
    67108860 (by decide)
  obtain ⟨full, -, -⟩ := answered (by decide)
  obtain ⟨frame, written, gives⟩ := full 0 data (by decide) short
  refine ⟨frame, written, (gives (.send frame) ByteArray.empty ?_).1⟩
  exact ByteArray.empty_append.trans ByteArray.append_empty.symm

/-! ## Writes -/

/-- A write is answered exactly with the return code of a response without failure, whatever else
the response holds and however many octets there were to write. At a client whose stream is empty
every count that a return code can hold is given in reply to some response. -/
theorem writeFileData_count_iff (client : Client) (handle : FileHandle) (offset : UInt64)
    (data : ByteArray) :
    let request := Request.writeFileData handle offset data
    (∀ reply (count : Nat), (client.perform request reply).1 = .ok count ↔
      client.Admits request ∧ ∃ returnCode fields frame rest,
        Frame.encodeResponse .writeFileData returnCode fields = .ok frame ∧
        client.stream.pending ++ client.stream.arriving reply = frame ++ rest ∧
        0 ≤ returnCode ∧ (count : Int) = returnCode.toInt) ∧
    (client.Admits request → client.stream = {} → ∀ count : Nat, count < 2 ^ 31 →
      ∃ reply, (client.perform request reply).1 = .ok count) := by
  intro request
  have counts (reply : Reply) (count : Nat) : (client.perform request reply).1 = .ok count ↔
      client.Admits request ∧ ∃ returnCode fields frame rest,
        Frame.encodeResponse .writeFileData returnCode fields = .ok frame ∧
        client.stream.pending ++ client.stream.arriving reply = frame ++ rest ∧
        0 ≤ returnCode ∧ (count : Int) = returnCode.toInt := by
    constructor
    · intro given
      obtain ⟨sent, prepared⟩ := exists_prepare_of_answered given
      obtain ⟨response, returnCode, fields, arrived, written, gives⟩ :=
        exists_response_of_answered given
      refine ⟨(prepare_eq_ok_iff.mp prepared).1, returnCode, fields, response, _, written,
        arrived, ?_⟩
      by_cases success : 0 ≤ returnCode
      · exact ⟨success, gives.answer success count rfl⟩
      · have refused := gives.failure (Int32.not_le.mp success) (fun forgiven => nomatch forgiven.1)
        contradiction
    · rintro ⟨admitted, returnCode, fields, frame, rest, written, arrived, success, value⟩
      obtain ⟨given, performed, gives⟩ := perform_gives admitted written reply rest arrived
      obtain ⟨answer, rfl⟩ := (gives.answered success).mpr trivial
      have reads : Int.ofNat answer = returnCode.toInt := gives.answer success answer rfl
      rw [performed]
      cases Int.ofNat_inj.mp (reads.trans value.symm)
      rfl
  refine ⟨counts, ?_⟩
  intro admitted idle count bound
  obtain ⟨returnCode, value⟩ := Frame.exists_size_word count bound
  obtain ⟨frame, written⟩ : ∃ frame, Frame.encodeResponse .writeFileData returnCode [] = .ok frame :=
    ⟨_, Frame.encodeResponse_eq_ok_iff.mpr ⟨Nat.zero_le _, rfl⟩⟩
  have arrived : client.stream.pending ++ client.stream.arriving (.send frame) =
      frame ++ ByteArray.empty := by
    rw [idle]
    exact ByteArray.empty_append.trans ByteArray.append_empty.symm
  have success : 0 ≤ returnCode := by
    rw [Int32.le_iff_toInt_le, value]
    exact Int.natCast_nonneg count
  exact ⟨.send frame, (counts (.send frame) count).mpr
    ⟨admitted, returnCode, [], frame, ByteArray.empty, written, arrived, success, value.symm⟩⟩

/-- There was nothing to write, and the gateway is said to have accepted as much as can be said. -/
theorem writeFileData_count_iff_greatest :
    let client : Client := { address := "gw:7000" }
    let request := Request.writeFileData ⟨"/a", 7⟩ 0 ByteArray.empty
    ∃ reply, (client.perform request reply).1 = .ok (2 ^ 31 - 1 : Nat) := by
  intro client request
  have admitted : client.Admits request := ⟨rfl, by decide, by decide⟩
  exact (writeFileData_count_iff client ⟨"/a", 7⟩ 0 ByteArray.empty).2 admitted rfl _ (by decide)

/-- A gateway accepts five octets of one. -/
theorem writeFileData_exceeds_data :
    let client : Client := { address := "gw:7000" }
    let data : ByteArray := ⟨#[97]⟩
    let reply : Reply := .send ⟨#[0, 0, 0, 9, 0, 0, 0, 5, 0, 0, 0, 0, 0, 0, 0, 0]⟩
    ∃ count : Nat, (client.perform (.writeFileData ⟨"/a", 7⟩ 0 data) reply).1 = .ok count ∧
      ¬ count ≤ data.size :=
  ⟨5, rfl, by decide⟩

end Client
end FileGateway
