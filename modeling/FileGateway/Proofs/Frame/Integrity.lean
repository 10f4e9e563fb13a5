import FileGateway.Proofs.Frame.Response

/-! No damage to the frame of a written response goes unnoticed. Octets that are cut off or added
contradict the declared payload size, and in front of one payload only one pair of sizes is
right: fields can be told from the payload alone, however many of them are empty. -/
namespace FileGateway.Frame

/-- The octets with others in the place of those from `offset` on. -/
def overwrite (bytes : ByteArray) (offset : Nat) (octets : ByteArray) : ByteArray :=
  bytes.extract 0 offset ++ octets ++ bytes.extract (offset + octets.size) bytes.size

/-- Whether octets are refused as a response because their sizes are not those declared. -/
def Misframed (bytes : ByteArray) (op : Opcode) : Prop :=
  ∃ fault, decodeResponse bytes op = .error (.framing fault)

theorem overwrite_middle {middle octets : ByteArray} (width : octets.size = middle.size)
    (front back : ByteArray) :
    overwrite (front ++ (middle ++ back)) front.size octets = front ++ (octets ++ back) := by
  have before : (front ++ (middle ++ back)).extract 0 front.size = front :=
    ByteArray.extract_append_eq_left rfl
  have behind : (front ++ (middle ++ back)).extract (front.size + octets.size)
      (front ++ (middle ++ back)).size = back := by
    rw [← ByteArray.append_assoc]
    refine ByteArray.extract_append_eq_right ?_ ByteArray.size_append
    rw [ByteArray.size_append, width]
  rw [overwrite, before, behind, ByteArray.append_assoc]

theorem append_inj {front back other rest : ByteArray} (width : front.size = other.size)
    (same : front ++ back = other ++ rest) : front = other ∧ back = rest := by
  have fronts : front = other := by
    have taken : (front ++ back).extract 0 front.size = front :=
      ByteArray.extract_append_eq_left rfl
    rw [← taken, same]
    exact ByteArray.extract_append_eq_left width
  subst fronts
  exact ⟨rfl, (ByteArray.append_right_inj _).mp same⟩

/-! ## Payloads -/

/-- Fields can be told from their payload alone: their number is where it ends. -/
theorem payload_inj {fields others : List ByteArray} (bound : payloadSize fields < 2 ^ 31)
    (same : payload fields = payload others) : fields = others := by
  have sizes := congrArg ByteArray.size same
  rw [size_payload, size_payload] at sizes
  induction fields generalizing others with
  | nil =>
    cases others with
    | nil => rfl
    | cons other rest =>
      rw [payloadSize_cons] at sizes
      change 0 = _ at sizes
      omega
  | cons field fields ih =>
    cases others with
    | nil =>
      rw [payloadSize_cons] at sizes
      change _ = 0 at sizes
      omega
    | cons other others =>
      rw [payloadSize_cons] at bound
      rw [payloadSize_cons, payloadSize_cons] at sizes
      obtain ⟨word, value⟩ := exists_size_word field.size (by omega)
      obtain ⟨word', value'⟩ := exists_size_word other.size (by omega)
      rw [payload_cons, payload_cons, size32_eq_signed32 value, size32_eq_signed32 value',
        ByteArray.append_assoc, ByteArray.append_assoc, signed32_append_inj] at same
      obtain ⟨rfl, behind⟩ := same
      obtain ⟨rfl, rest⟩ := append_inj (by omega) behind
      rw [ih (by omega) rest (by omega)]

variable {sizeWord countWord otherSize otherCount : Int32} {bytes others : ByteArray}
  {fields fields' : List ByteArray}

/-- One pair of sizes is read in front of octets of one number only. -/
theorem size_eq_of_readFields (read : readFields sizeWord countWord bytes = .ok fields)
    (again : readFields sizeWord countWord others = .ok fields') : bytes.size = others.size := by
  obtain ⟨declared, rfl⟩ := declaredSizes_of_readFields read
  obtain ⟨declared', rfl⟩ := declaredSizes_of_readFields again
  rw [declared] at declared'
  rw [size_payload, size_payload]
  exact congrArg Prod.fst (Except.ok.inj declared')

/-- In front of one payload one pair of sizes is read only. -/
theorem words_eq_of_readFields (read : readFields sizeWord countWord bytes = .ok fields)
    (again : readFields otherSize otherCount bytes = .ok fields') :
    otherSize = sizeWord ∧ otherCount = countWord := by
  obtain ⟨_, rfl⟩ := declaredSizes_of_readFields read
  obtain ⟨limit, written⟩ := readFields_eq_ok_iff.mp read
  obtain ⟨_, written'⟩ := readFields_eq_ok_iff.mp again
  have bound : payloadSize fields < 2 ^ 31 := Nat.lt_of_le_of_lt limit (by decide)
  obtain rfl := payload_inj bound (declaredSizes_of_readFields again).2
  obtain ⟨sizes, counts⟩ := signed32_append_inj.mp (written'.trans written.symm)
  exact ⟨sizes, (signed32_append_inj.mp counts).1⟩

/-! ## Responses -/

/-- A written response in its header words, in front of octets that give its fields. -/
theorem exists_responseOctets_of_encodeResponse {op : Opcode} {returnCode : Int32}
    (written : encodeResponse op returnCode fields = .ok bytes) :
    ∃ sizeWord countWord rest, bytes = responseOctets op.code returnCode sizeWord countWord rest ∧
      readFields sizeWord countWord rest = .ok fields := by
  have size := size_encodeResponse written
  obtain ⟨code, other, sizeWord, countWord, rest, rfl⟩ := exists_responseOctets bytes (by omega)
  obtain ⟨rfl, rfl, read⟩ := encodeResponse_eq_responseOctets_iff.mp written
  exact ⟨sizeWord, countWord, rest, rfl, read⟩

theorem misframed_of_unread {op : Opcode} {returnCode : Int32}
    (unread : ∀ fields, readFields sizeWord countWord bytes ≠ .ok fields) :
    Misframed (responseOctets op.code returnCode sizeWord countWord bytes) op := by
  rw [Misframed, decodeResponse_responseOctets, if_neg (not_not.mpr rfl)]
  cases read : readFields sizeWord countWord bytes with
  | error fault => exact ⟨fault, rfl⟩
  | ok fields => exact absurd read (unread fields)

theorem misframed_of_short {op : Opcode} (short : bytes.size < responseHeaderSize) :
    Misframed bytes op :=
  ⟨.shortResponseHeader bytes.size, by rw [decodeResponse, if_pos short]; rfl⟩

theorem responseOctets_append (code returnCode sizeWord countWord : Int32)
    (rest behind : ByteArray) :
    responseOctets code returnCode sizeWord countWord rest ++ behind =
      responseOctets code returnCode sizeWord countWord (rest ++ behind) := by
  simp only [responseOctets, ByteArray.append_assoc]

/-- The words of the sizes stand behind two other words. -/
theorem responseOctets_eq_append (code returnCode sizeWord countWord : Int32) (rest : ByteArray) :
    responseOctets code returnCode sizeWord countWord rest =
      (signed32 code ++ signed32 returnCode) ++
        ((signed32 sizeWord ++ signed32 countWord) ++ rest) := by
  simp only [responseOctets, ByteArray.append_assoc]

theorem size_two_words (first second : Int32) : (signed32 first ++ signed32 second).size = 8 := by
  rw [ByteArray.size_append, size_signed32, size_signed32]

theorem overwrite_responseOctets_sizes (code returnCode : Int32) (rest : ByteArray) :
    overwrite (responseOctets code returnCode sizeWord countWord rest) 8
        (signed32 otherSize ++ signed32 otherCount) =
      responseOctets code returnCode otherSize otherCount rest := by
  have width : (signed32 otherSize ++ signed32 otherCount).size =
      (signed32 sizeWord ++ signed32 countWord).size := by
    rw [size_two_words, size_two_words]
  have replaced := overwrite_middle width (signed32 code ++ signed32 returnCode) rest
  rwa [size_two_words, ← responseOctets_eq_append, ← responseOctets_eq_append] at replaced

theorem overwrite_responseOctets_code (code other returnCode : Int32) (rest : ByteArray) :
    overwrite (responseOctets code returnCode sizeWord countWord rest) 0 (signed32 other) =
      responseOctets other returnCode sizeWord countWord rest := by
  have width : (signed32 other).size = (signed32 code).size := by
    rw [size_signed32, size_signed32]
  have replaced := overwrite_middle width ByteArray.empty
    (signed32 returnCode ++ (signed32 sizeWord ++ (signed32 countWord ++ rest)))
  rwa [ByteArray.empty_append, ByteArray.empty_append] at replaced

theorem extract_responseOctets_sizes (code returnCode : Int32) (rest : ByteArray) :
    (responseOctets code returnCode sizeWord countWord rest).extract 8 16 =
      signed32 sizeWord ++ signed32 countWord := by
  rw [responseOctets_eq_append, ← ByteArray.append_assoc]
  have front : ((signed32 code ++ signed32 returnCode) ++
      (signed32 sizeWord ++ signed32 countWord)).size = 16 := by
    rw [ByteArray.size_append, size_two_words, size_two_words]
  rw [← front, ByteArray.extract_append_size_left]
  refine ByteArray.extract_append_eq_right (size_two_words ..).symm ?_
  exact ByteArray.size_append

/-- Octets as wide as two words are two words. -/
theorem exists_two_words (octets : ByteArray) (width : octets.size = 8) :
    ∃ first second, octets = signed32 first ++ signed32 second := by
  obtain ⟨first, rest, rfl⟩ := exists_word octets (by omega)
  rw [ByteArray.size_append, size_signed32] at width
  obtain ⟨second, rest, rfl⟩ := exists_word rest (by omega)
  rw [ByteArray.size_append, size_signed32] at width
  have nothing : rest = ByteArray.empty := ByteArray.size_eq_zero_iff.mp (by omega)
  exact ⟨first, second, by rw [nothing, ByteArray.append_empty]⟩

/-- A damaged response is refused. One that was cut off or lengthened, or whose sizes were
overwritten, is out of frame, and a frame with another opcode is refused by that alone. -/
theorem decodeResponse_damaged {op : Opcode} {returnCode : Int32}
    (written : encodeResponse op returnCode fields = .ok bytes) :
    (∀ front back, bytes = front ++ back → back ≠ ByteArray.empty → Misframed front op) ∧
    (∀ behind, behind ≠ ByteArray.empty → Misframed (bytes ++ behind) op) ∧
    (∀ sizes, sizes.size = 8 → sizes ≠ bytes.extract 8 16 →
      Misframed (overwrite bytes 8 sizes) op) ∧
    ∀ (found : Int32) (frame : ByteArray), found ≠ op.code → responseHeaderSize ≤ frame.size →
      decodeResponse (overwrite frame 0 (signed32 found)) op =
        .error (.opcodeMismatch op.code found) := by
  refine ⟨?_, ?_, ?_, ?_⟩
  · rintro front back rfl missing
    by_cases short : front.size < responseHeaderSize
    · exact misframed_of_short short
    obtain ⟨code, other, sizeWord, countWord, rest, rfl⟩ :=
      exists_responseOctets front (Nat.not_lt.mp short)
    rw [responseOctets_append] at written
    obtain ⟨rfl, rfl, read⟩ := encodeResponse_eq_responseOctets_iff.mp written
    refine misframed_of_unread fun fields' again => missing ?_
    have sizes := size_eq_of_readFields read again
    rw [ByteArray.size_append] at sizes
    exact ByteArray.size_eq_zero_iff.mp (by omega)
  · intro behind added
    obtain ⟨sizeWord, countWord, rest, rfl, read⟩ :=
      exists_responseOctets_of_encodeResponse written
    rw [responseOctets_append]
    refine misframed_of_unread fun fields' again => added ?_
    have sizes := size_eq_of_readFields read again
    rw [ByteArray.size_append] at sizes
    exact ByteArray.size_eq_zero_iff.mp (by omega)
  · intro sizes width changed
    obtain ⟨sizeWord, countWord, rest, rfl, read⟩ :=
      exists_responseOctets_of_encodeResponse written
    obtain ⟨otherSize, otherCount, rfl⟩ := exists_two_words sizes width
    rw [extract_responseOctets_sizes] at changed
    rw [overwrite_responseOctets_sizes]
    refine misframed_of_unread fun fields' again => changed ?_
    obtain ⟨rfl, rfl⟩ := words_eq_of_readFields read again
    rfl
  · intro found frame other long
    obtain ⟨code, returnCode, sizeWord, countWord, rest, rfl⟩ := exists_responseOctets frame long
    rw [overwrite_responseOctets_code, decodeResponse_responseOctets, if_pos other]

/-- A field less is declared than the frame holds, and the last field is empty. -/
theorem decodeResponse_damaged_empty_field :
    let bytes : ByteArray :=
      ⟨#[0, 0, 0, 10, 0, 0, 0, 0, 0, 0, 0, 9, 0, 0, 0, 2, 0, 0, 0, 1, 7, 0, 0, 0, 0]⟩
    encodeResponse .flush 0 [⟨#[7]⟩, ByteArray.empty] = .ok bytes ∧
      Misframed (overwrite bytes 8 ⟨#[0, 0, 0, 9, 0, 0, 0, 1]⟩) .flush :=
  have written : encodeResponse .flush 0 [⟨#[7]⟩, ByteArray.empty] =
      .ok ⟨#[0, 0, 0, 10, 0, 0, 0, 0, 0, 0, 0, 9, 0, 0, 0, 2, 0, 0, 0, 1, 7, 0, 0, 0, 0]⟩ := rfl
  ⟨written, (decodeResponse_damaged written).2.2.1 ⟨#[0, 0, 0, 9, 0, 0, 0, 1]⟩ rfl (by decide)⟩

end FileGateway.Frame
