import FileGateway.Proofs.Frame.Payload

/-! A response is accepted exactly when it is the writing of some return code and fields.
What it is accepted as depends on the return code alone (`judge`), so a payload out of
order is a framing error whatever the return code is. -/
namespace FileGateway.Frame
open BigEndian

/-! ## The header -/

/-- The four words of a response header, and octets behind them. -/
def responseOctets (code returnCode sizeWord countWord : Int32) (rest : ByteArray) : ByteArray :=
  signed32 code ++ (signed32 returnCode ++ (signed32 sizeWord ++ (signed32 countWord ++ rest)))

theorem exists_responseOctets (bytes : ByteArray) (enough : responseHeaderSize ≤ bytes.size) :
    ∃ code returnCode sizeWord countWord rest,
      bytes = responseOctets code returnCode sizeWord countWord rest := by
  have width : responseHeaderSize = 16 := rfl
  obtain ⟨code, bytes, rfl⟩ := exists_word bytes (by omega)
  rw [ByteArray.size_append, size_signed32] at enough
  obtain ⟨returnCode, bytes, rfl⟩ := exists_word bytes (by omega)
  rw [ByteArray.size_append, size_signed32] at enough
  obtain ⟨sizeWord, bytes, rfl⟩ := exists_word bytes (by omega)
  rw [ByteArray.size_append, size_signed32] at enough
  obtain ⟨countWord, rest, rfl⟩ := exists_word bytes (by omega)
  exact ⟨code, returnCode, sizeWord, countWord, rest, rfl⟩

theorem responseOctets_split (code returnCode sizeWord countWord : Int32) (rest : ByteArray) :
    responseOctets code returnCode sizeWord countWord rest =
      responseOctets code returnCode sizeWord countWord ByteArray.empty ++ rest := by
  simp only [responseOctets, ByteArray.append_assoc, ByteArray.empty_append]

theorem size_responseOctets_empty (code returnCode sizeWord countWord : Int32) :
    (responseOctets code returnCode sizeWord countWord ByteArray.empty).size =
      responseHeaderSize := by
  simp only [responseOctets, ByteArray.size_append, size_signed32, ByteArray.size_empty,
    responseHeaderSize]

theorem parse_responseOctets (code returnCode sizeWord countWord : Int32) (rest : ByteArray)
    (op : Opcode) :
    ResponseHeader.parse (responseOctets code returnCode sizeWord countWord rest) op =
      if code ≠ op.code then .error (.opcodeMismatch op.code code)
      else match declaredSizes sizeWord countWord with
        | .error fault => .error (.framing fault)
        | .ok (size, count) => .ok ⟨op, returnCode, size, count⟩ := by
  have first : signedAt (responseOctets code returnCode sizeWord countWord rest) 0 = code :=
    signedAt_signed32 _ _
  have second : signedAt (responseOctets code returnCode sizeWord countWord rest) 4 =
      returnCode := (signedAt_skip _ _ 0).trans (signedAt_signed32 _ _)
  have third : signedAt (responseOctets code returnCode sizeWord countWord rest) 8 = sizeWord :=
    (signedAt_skip _ _ 4).trans ((signedAt_skip _ _ 0).trans (signedAt_signed32 _ _))
  have fourth : signedAt (responseOctets code returnCode sizeWord countWord rest) 12 =
      countWord := (signedAt_skip _ _ 8).trans ((signedAt_skip _ _ 4).trans
        ((signedAt_skip _ _ 0).trans (signedAt_signed32 _ _)))
  simp only [ResponseHeader.parse, first, second, third, fourth]
  by_cases expected : code = op.code
  · rw [if_neg (not_not.mpr expected), if_neg (not_not.mpr expected)]
    cases declaredSizes sizeWord countWord with
    | error fault => rfl
    | ok sizes => rfl
  · rw [if_pos expected, if_pos expected]
    rfl

/-- A header that is refused leaves the position in the stream unknown. -/
theorem isFraming_of_parse_error {header : ByteArray} {op : Opcode} {error : MessageError}
    (long : responseHeaderSize ≤ header.size)
    (refused : ResponseHeader.parse header op = .error error) : error.isFraming = true := by
  obtain ⟨code, returnCode, sizeWord, countWord, rest, rfl⟩ := exists_responseOctets header long
  rw [parse_responseOctets] at refused
  split at refused
  · cases refused
    rfl
  · split at refused
    · cases refused
      rfl
    · contradiction

/-! ## Acceptance -/

/-- What a reader makes of a response whose sizes are in order. -/
def judge (op : Opcode) (returnCode : Int32) (fields : List ByteArray) :
    Except MessageError Response :=
  if 0 ≤ returnCode then .ok ⟨op, returnCode, fields⟩
  else if op = .getExtendedAttr ∧ ErrorNumber.isMissingAttribute returnCode then
    .ok ⟨op, returnCode, []⟩
  else .error (.remote op returnCode (ErrorNumber.describe returnCode))

theorem judge_error {op : Opcode} {returnCode : Int32} {fields : List ByteArray}
    {error : MessageError} (judged : judge op returnCode fields = .error error) :
    error = .remote op returnCode (ErrorNumber.describe returnCode) := by
  rw [judge] at judged
  split at judged
  · contradiction
  · split at judged
    · contradiction
    · exact (Except.error.inj judged).symm

theorem decodePayload_eq_judge (header : ResponseHeader) (bytes : ByteArray) :
    header.decodePayload bytes =
      match splitFields bytes header.payloadSize header.fieldCount with
      | .error fault => .error (.framing fault)
      | .ok fields => judge header.op header.returnCode fields := by
  rw [ResponseHeader.decodePayload]
  cases splitFields bytes header.payloadSize header.fieldCount with
  | error fault => rfl
  | ok fields => rfl

/-- A whole frame is read as its header and what stands behind it. -/
theorem decodeResponse_append {header : ByteArray} (width : header.size = responseHeaderSize)
    (rest : ByteArray) (op : Opcode) :
    decodeResponse (header ++ rest) op =
      match ResponseHeader.parse header op with
      | .error error => .error error
      | .ok parsed => parsed.decodePayload rest := by
  have long : ¬ (header ++ rest).size < responseHeaderSize := by
    rw [ByteArray.size_append]
    omega
  have front : (header ++ rest).extract 0 responseHeaderSize = header :=
    ByteArray.extract_append_eq_left width.symm
  have behind : (header ++ rest).extract responseHeaderSize (header ++ rest).size = rest :=
    ByteArray.extract_append_eq_right width.symm ByteArray.size_append
  rw [decodeResponse, if_neg long, front, behind]
  cases ResponseHeader.parse header op with
  | error error => rfl
  | ok parsed => rfl

theorem decodeResponse_responseOctets (code returnCode sizeWord countWord : Int32)
    (rest : ByteArray) (op : Opcode) :
    decodeResponse (responseOctets code returnCode sizeWord countWord rest) op =
      if code ≠ op.code then .error (.opcodeMismatch op.code code)
      else match readFields sizeWord countWord rest with
        | .error fault => .error (.framing fault)
        | .ok fields => judge op returnCode fields := by
  rw [responseOctets_split, decodeResponse_append (size_responseOctets_empty ..),
    parse_responseOctets]
  by_cases expected : code = op.code
  · rw [if_neg (not_not.mpr expected), if_neg (not_not.mpr expected), readFields]
    cases declaredSizes sizeWord countWord with
    | error fault => rfl
    | ok sizes => exact decodePayload_eq_judge ⟨op, returnCode, sizes.1, sizes.2⟩ rest
  · rw [if_pos expected, if_pos expected]

/-! ## Writing and reading -/

theorem encodeResponse_eq_ok_iff {op : Opcode} {returnCode : Int32} {fields : List ByteArray}
    {bytes : ByteArray} :
    encodeResponse op returnCode fields = .ok bytes ↔
      payloadSize fields ≤ maxPayload ∧
        bytes = signed32 op.code ++ (signed32 returnCode ++
          (size32 (payloadSize fields) ++ (size32 fields.length ++ payload fields))) := by
  simp only [encodeResponse, checkedPayloadSize]
  by_cases excess : maxPayload < payloadSize fields
  · simp only [if_pos excess, bind, Except.bind]
    constructor
    · intro written
      contradiction
    · intro written
      omega
  · simp only [if_neg excess, bind, Except.bind, pure, Except.pure, Except.ok.injEq,
      ByteArray.append_assoc]
    exact ⟨fun written => ⟨Nat.not_lt.mp excess, written.symm⟩, fun written => written.2.symm⟩

/-- The header words and the fields of a written response are those that it was written from. -/
theorem encodeResponse_eq_responseOctets_iff {op : Opcode} {fields : List ByteArray}
    {code returnCode other sizeWord countWord : Int32} {rest : ByteArray} :
    encodeResponse op other fields =
        .ok (responseOctets code returnCode sizeWord countWord rest) ↔
      code = op.code ∧ returnCode = other ∧ readFields sizeWord countWord rest = .ok fields := by
  rw [encodeResponse_eq_ok_iff, responseOctets, signed32_append_inj, signed32_append_inj,
    readFields_eq_ok_iff]
  constructor
  · rintro ⟨limit, codeEq, returnCodeEq, written⟩
    exact ⟨codeEq, returnCodeEq, limit, written⟩
  · rintro ⟨codeEq, returnCodeEq, limit, written⟩
    exact ⟨limit, codeEq, returnCodeEq, written⟩

theorem size_encodeResponse {op : Opcode} {returnCode : Int32} {fields : List ByteArray}
    {bytes : ByteArray} (written : encodeResponse op returnCode fields = .ok bytes) :
    bytes.size = responseHeaderSize + payloadSize fields := by
  rw [(encodeResponse_eq_ok_iff.mp written).2]
  simp only [ByteArray.size_append, size_signed32, size_size32, size_payload, responseHeaderSize]
  omega

theorem decodeResponse_of_encodeResponse {op : Opcode} {returnCode : Int32}
    {fields : List ByteArray} {bytes : ByteArray}
    (written : encodeResponse op returnCode fields = .ok bytes) :
    decodeResponse bytes op = judge op returnCode fields := by
  have size := size_encodeResponse written
  obtain ⟨code, other, sizeWord, countWord, rest, rfl⟩ :=
    exists_responseOctets bytes (by omega)
  obtain ⟨rfl, rfl, read⟩ := encodeResponse_eq_responseOctets_iff.mp written
  rw [decodeResponse_responseOctets, if_neg (not_not.mpr rfl), read]

/-- A written response is a header, which declares the sizes of its fields, and their payload. -/
theorem exists_header_of_encodeResponse {op : Opcode} {returnCode : Int32}
    {fields : List ByteArray} {bytes : ByteArray}
    (written : encodeResponse op returnCode fields = .ok bytes) :
    ∃ header, header.size = responseHeaderSize ∧ bytes = header ++ payload fields ∧
      ResponseHeader.parse header op =
        .ok ⟨op, returnCode, payloadSize fields, fields.length⟩ := by
  have size := size_encodeResponse written
  obtain ⟨code, other, sizeWord, countWord, rest, rfl⟩ :=
    exists_responseOctets bytes (by omega)
  obtain ⟨rfl, rfl, read⟩ := encodeResponse_eq_responseOctets_iff.mp written
  obtain ⟨declared, rfl⟩ := declaredSizes_of_readFields read
  refine ⟨responseOctets op.code other sizeWord countWord ByteArray.empty,
    size_responseOctets_empty .., responseOctets_split .., ?_⟩
  rw [parse_responseOctets, if_neg (not_not.mpr rfl), declared]

/-- No frame is the writing of two different responses. -/
theorem encodeResponse_inj {op : Opcode} {returnCode other : Int32}
    {fields others : List ByteArray} {bytes : ByteArray}
    (written : encodeResponse op returnCode fields = .ok bytes)
    (again : encodeResponse op other others = .ok bytes) :
    other = returnCode ∧ others = fields := by
  have size := size_encodeResponse written
  obtain ⟨code, word, sizeWord, countWord, rest, rfl⟩ :=
    exists_responseOctets bytes (by omega)
  obtain ⟨_, rfl, read⟩ := encodeResponse_eq_responseOctets_iff.mp written
  obtain ⟨_, rfl, readAgain⟩ := encodeResponse_eq_responseOctets_iff.mp again
  exact ⟨rfl, Except.ok.inj (readAgain.symm.trans read)⟩

/-- Octets that are not the writing of a response are refused as out of step. -/
theorem framing_or_exists_encodeResponse (bytes : ByteArray) (op : Opcode) :
    (∃ error, decodeResponse bytes op = .error error ∧ error.isFraming = true) ∨
      ∃ returnCode fields, encodeResponse op returnCode fields = .ok bytes := by
  by_cases short : bytes.size < responseHeaderSize
  · left
    refine ⟨.framing (.shortResponseHeader bytes.size), ?_, rfl⟩
    rw [decodeResponse, if_pos short]
    rfl
  obtain ⟨code, returnCode, sizeWord, countWord, rest, rfl⟩ :=
    exists_responseOctets bytes (Nat.not_lt.mp short)
  rw [decodeResponse_responseOctets]
  by_cases expected : code = op.code
  · rw [if_neg (not_not.mpr expected)]
    cases read : readFields sizeWord countWord rest with
    | error fault => exact .inl ⟨.framing fault, rfl, rfl⟩
    | ok fields =>
      exact .inr ⟨returnCode, fields,
        encodeResponse_eq_responseOctets_iff.mpr ⟨expected, rfl, read⟩⟩
  · rw [if_pos expected]
    exact .inl ⟨.opcodeMismatch op.code code, rfl, rfl⟩

theorem isFraming_of_judge_error {op : Opcode} {returnCode : Int32} {fields : List ByteArray}
    {error : MessageError} (judged : judge op returnCode fields = .error error) :
    error.isFraming = false := by
  rw [judge_error judged]
  rfl

/-- The reader of responses is exact: it refuses octets as out of step when no response is
written so and at no other time, and a written response is judged by its return code. -/
theorem decodeResponse_exact (bytes : ByteArray) (op : Opcode) :
    ((∃ error, decodeResponse bytes op = .error error ∧ error.isFraming = true) ↔
      ¬ ∃ returnCode fields, encodeResponse op returnCode fields = .ok bytes) ∧
    ∀ returnCode fields, encodeResponse op returnCode fields = .ok bytes →
      (∀ other others, encodeResponse op other others = .ok bytes →
        other = returnCode ∧ others = fields) ∧
      (0 ≤ returnCode → decodeResponse bytes op = .ok ⟨op, returnCode, fields⟩) ∧
      (op = .getExtendedAttr ∧ (returnCode = -61 ∨ returnCode = -93) →
        decodeResponse bytes op = .ok ⟨op, returnCode, []⟩) ∧
      (returnCode < 0 → ¬ (op = .getExtendedAttr ∧ (returnCode = -61 ∨ returnCode = -93)) →
        decodeResponse bytes op =
          .error (.remote op returnCode (ErrorNumber.describe returnCode))) := by
  refine ⟨⟨?_, ?_⟩, ?_⟩
  · rintro ⟨error, refused, framing⟩ ⟨returnCode, fields, written⟩
    rw [decodeResponse_of_encodeResponse written] at refused
    rw [isFraming_of_judge_error refused] at framing
    contradiction
  · intro unwritten
    exact (framing_or_exists_encodeResponse bytes op).resolve_right unwritten
  · intro returnCode fields written
    rw [decodeResponse_of_encodeResponse written, judge]
    refine ⟨fun other others again => encodeResponse_inj written again, ?_, ?_, ?_⟩
    · intro success
      rw [if_pos success]
    · rintro ⟨asked, missing⟩
      have negative : returnCode < 0 := by rcases missing with rfl | rfl <;> decide
      rw [if_neg (Int32.not_le.mpr negative),
        if_pos ⟨asked, (ErrorNumber.isMissingAttribute_iff negative).mpr missing⟩]
    · intro negative other
      rw [if_neg (Int32.not_le.mpr negative), if_neg]
      rintro ⟨asked, missing⟩
      exact other ⟨asked, (ErrorNumber.isMissingAttribute_iff negative).mp missing⟩

/-- The least return code of all, before one empty field. -/
theorem decodeResponse_exact_least_code :
    encodeResponse .flush Int32.minValue [ByteArray.empty] =
        .ok ⟨#[0, 0, 0, 10, 128, 0, 0, 0, 0, 0, 0, 4, 0, 0, 0, 1, 0, 0, 0, 0]⟩ ∧
      decodeResponse ⟨#[0, 0, 0, 10, 128, 0, 0, 0, 0, 0, 0, 4, 0, 0, 0, 1, 0, 0, 0, 0]⟩ .flush =
        .error (.remote .flush Int32.minValue "Unknown error 2147483647") :=
  ⟨rfl, ((decodeResponse_exact _ .flush).2 Int32.minValue [ByteArray.empty] rfl).2.2.2
    (by decide) (by decide)⟩

end FileGateway.Frame
