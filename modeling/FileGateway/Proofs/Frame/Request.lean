import FileGateway.Proofs.Frame.Payload

/-! Reading requests and writing them are inverse to each other. Writing fails on too large a
payload alone, and reading never fails but out of step. -/
namespace FileGateway.Frame
open BigEndian

/-- The three words of a request header, and octets behind them. -/
def requestOctets (code sizeWord countWord : Int32) (rest : ByteArray) : ByteArray :=
  signed32 code ++ (signed32 sizeWord ++ (signed32 countWord ++ rest))

theorem size_requestOctets (code sizeWord countWord : Int32) (rest : ByteArray) :
    (requestOctets code sizeWord countWord rest).size = requestHeaderSize + rest.size := by
  simp only [requestOctets, ByteArray.size_append, size_signed32, requestHeaderSize]
  omega

theorem exists_requestOctets (bytes : ByteArray) (enough : requestHeaderSize ≤ bytes.size) :
    ∃ code sizeWord countWord rest, bytes = requestOctets code sizeWord countWord rest := by
  have width : requestHeaderSize = 12 := rfl
  obtain ⟨code, bytes, rfl⟩ := exists_word bytes (by omega)
  rw [ByteArray.size_append, size_signed32] at enough
  obtain ⟨sizeWord, bytes, rfl⟩ := exists_word bytes (by omega)
  rw [ByteArray.size_append, size_signed32] at enough
  obtain ⟨countWord, rest, rfl⟩ := exists_word bytes (by omega)
  exact ⟨code, sizeWord, countWord, rest, rfl⟩

theorem decodeRequest_requestOctets (code sizeWord countWord : Int32) (rest : ByteArray) :
    decodeRequest (requestOctets code sizeWord countWord rest) =
      match Opcode.ofCode? code with
      | none => .error (.unknownOpcode code)
      | some op =>
        match readFields sizeWord countWord rest with
        | .error fault => .error (.framing fault)
        | .ok fields => .ok (op, fields) := by
  have long : ¬ (requestOctets code sizeWord countWord rest).size < requestHeaderSize := by
    rw [size_requestOctets]
    omega
  have first : signedAt (requestOctets code sizeWord countWord rest) 0 = code :=
    signedAt_signed32 _ _
  have second : signedAt (requestOctets code sizeWord countWord rest) 4 = sizeWord :=
    (signedAt_skip _ _ 0).trans (signedAt_signed32 _ _)
  have third : signedAt (requestOctets code sizeWord countWord rest) 8 = countWord :=
    (signedAt_skip _ _ 4).trans ((signedAt_skip _ _ 0).trans (signedAt_signed32 _ _))
  have behind : (requestOctets code sizeWord countWord rest).extract requestHeaderSize
      (requestOctets code sizeWord countWord rest).size = rest := by
    rw [size_requestOctets]
    simp only [requestOctets, ← ByteArray.append_assoc]
    apply ByteArray.extract_append_eq_right
    · simp only [ByteArray.size_append, size_signed32, requestHeaderSize]
    · simp only [ByteArray.size_append, size_signed32, requestHeaderSize]
  rw [decodeRequest, if_neg long]
  simp only [first, second, third, behind]
  cases Opcode.ofCode? code with
  | none => rfl
  | some op =>
    rw [readFields]
    cases declaredSizes sizeWord countWord with
    | error fault => rfl
    | ok sizes =>
      simp only [Except.mapError, bind, Except.bind]
      cases splitFields rest sizes.1 sizes.2 with
      | error fault => rfl
      | ok fields => rfl

theorem encodeRequest_eq (op : Opcode) (fields : List ByteArray) :
    encodeRequest op fields =
      if maxPayload < payloadSize fields then .error (.tooLarge (payloadSize fields) maxPayload)
      else .ok (signed32 op.code ++ (size32 (payloadSize fields) ++
        (size32 fields.length ++ payload fields))) := by
  simp only [encodeRequest, checkedPayloadSize]
  by_cases excess : maxPayload < payloadSize fields
  · rw [if_pos excess, if_pos excess]
    rfl
  · simp only [if_neg excess, bind, Except.bind, pure, Except.pure, ByteArray.append_assoc]

theorem encodeRequest_eq_ok_iff {op : Opcode} {fields : List ByteArray} {bytes : ByteArray} :
    encodeRequest op fields = .ok bytes ↔
      payloadSize fields ≤ maxPayload ∧
        bytes = signed32 op.code ++ (size32 (payloadSize fields) ++
          (size32 fields.length ++ payload fields)) := by
  rw [encodeRequest_eq]
  by_cases excess : maxPayload < payloadSize fields
  · rw [if_pos excess]
    constructor
    · intro written
      contradiction
    · intro written
      omega
  · rw [if_neg excess, Except.ok.injEq]
    exact ⟨fun written => ⟨Nat.not_lt.mp excess, written.symm⟩, fun written => written.2.symm⟩

theorem encodeRequest_eq_requestOctets_iff {op : Opcode} {fields : List ByteArray}
    {code sizeWord countWord : Int32} {rest : ByteArray} :
    encodeRequest op fields = .ok (requestOctets code sizeWord countWord rest) ↔
      code = op.code ∧ readFields sizeWord countWord rest = .ok fields := by
  rw [encodeRequest_eq_ok_iff, requestOctets, signed32_append_inj, readFields_eq_ok_iff]
  constructor
  · rintro ⟨limit, codeEq, written⟩
    exact ⟨codeEq, limit, written⟩
  · rintro ⟨codeEq, limit, written⟩
    exact ⟨limit, codeEq, written⟩

theorem size_encodeRequest {op : Opcode} {fields : List ByteArray} {bytes : ByteArray}
    (written : encodeRequest op fields = .ok bytes) :
    bytes.size = requestHeaderSize + payloadSize fields := by
  rw [(encodeRequest_eq_ok_iff.mp written).2]
  simp only [ByteArray.size_append, size_signed32, size_size32, size_payload, requestHeaderSize]
  omega

theorem decodeRequest_of_encodeRequest {op : Opcode} {fields : List ByteArray}
    {bytes : ByteArray} (written : encodeRequest op fields = .ok bytes) :
    decodeRequest bytes = .ok (op, fields) := by
  have size := size_encodeRequest written
  obtain ⟨code, sizeWord, countWord, rest, rfl⟩ := exists_requestOctets bytes (by omega)
  obtain ⟨rfl, read⟩ := encodeRequest_eq_requestOctets_iff.mp written
  rw [decodeRequest_requestOctets, Opcode.ofCode?_code, read]

/-- Octets are the writing of a request, or they are refused as out of step. -/
theorem decodeRequest_cases (bytes : ByteArray) :
    (∃ error, decodeRequest bytes = .error error ∧ error.isFraming = true) ∨
      ∃ op fields, decodeRequest bytes = .ok (op, fields) ∧
        encodeRequest op fields = .ok bytes := by
  by_cases short : bytes.size < requestHeaderSize
  · left
    refine ⟨.framing (.shortRequestHeader bytes.size), ?_, rfl⟩
    rw [decodeRequest, if_pos short]
    rfl
  obtain ⟨code, sizeWord, countWord, rest, rfl⟩ := exists_requestOctets bytes (Nat.not_lt.mp short)
  rw [decodeRequest_requestOctets]
  cases found : Opcode.ofCode? code with
  | none => exact .inl ⟨.unknownOpcode code, rfl, rfl⟩
  | some op =>
    cases read : readFields sizeWord countWord rest with
    | error fault => exact .inl ⟨.framing fault, rfl, rfl⟩
    | ok fields =>
      have codeEq : code = op.code := (Opcode.code_of_ofCode? found).symm
      exact .inr ⟨op, fields, rfl, encodeRequest_eq_requestOctets_iff.mpr ⟨codeEq, read⟩⟩

/-- Reading and writing requests are inverse, a request is refused for the size of its
payload alone, and octets are refused as out of step alone. -/
theorem decodeRequest_exact (bytes : ByteArray) (op : Opcode) (fields : List ByteArray) :
    (decodeRequest bytes = .ok (op, fields) ↔ encodeRequest op fields = .ok bytes) ∧
      (∀ error, encodeRequest op fields = .error error ↔
        maxPayload < (fields.map (fun field => 4 + field.size)).sum ∧
          error = .tooLarge (fields.map (fun field => 4 + field.size)).sum maxPayload) ∧
      ∀ error, decodeRequest bytes = .error error → error.isFraming = true := by
  refine ⟨⟨?_, decodeRequest_of_encodeRequest⟩, ?_, ?_⟩
  · intro read
    rcases decodeRequest_cases bytes with ⟨error, refused, _⟩ | ⟨found, others, again, written⟩
    · rw [refused] at read
      contradiction
    · rw [again] at read
      cases read
      exact written
  · intro error
    rw [← payloadSize_eq_sum, encodeRequest_eq]
    by_cases excess : maxPayload < payloadSize fields
    · rw [if_pos excess, Except.error.injEq]
      exact ⟨fun refused => ⟨excess, refused.symm⟩, fun refused => refused.2.symm⟩
    · rw [if_neg excess]
      exact ⟨fun refused => by contradiction, fun refused => absurd refused.1 excess⟩
  · intro error refused
    rcases decodeRequest_cases bytes with ⟨fault, again, framing⟩ | ⟨found, others, read, _⟩
    · rw [again] at refused
      cases refused
      exact framing
    · rw [read] at refused
      contradiction

/-- One octet of the payload belongs to no field. -/
theorem decodeRequest_exact_leftover :
    decodeRequest ⟨#[0, 0, 0, 10, 0, 0, 0, 5, 0, 0, 0, 1, 0, 0, 0, 0, 7]⟩ =
        .error (.framing (.leftover 4 1 5)) ∧
      (MessageError.framing (.leftover 4 1 5)).isFraming = true :=
  ⟨rfl, (decodeRequest_exact ⟨#[0, 0, 0, 10, 0, 0, 0, 5, 0, 0, 0, 1, 0, 0, 0, 0, 7]⟩ .flush []).2.2
    (.framing (.leftover 4 1 5)) rfl⟩

end FileGateway.Frame
