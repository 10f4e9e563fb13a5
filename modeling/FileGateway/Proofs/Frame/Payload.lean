import FileGateway.Bytes.BigEndian.Lemmas
import FileGateway.Frame.Decoding

/-! Reading a payload inverts writing it. `readFields` is the part that requests and
responses share: two words that declare the sizes, and the payload behind them. It
gives fields exactly when the words and the payload are the writing of these fields. -/
namespace FileGateway.Frame
open BigEndian

/-! ## Words -/

theorem size_signed32 (word : Int32) : (signed32 word).size = 4 := size_ofWord32 _

theorem size_size32 (n : Nat) : (size32 n).size = 4 := size_encode 4 n

theorem signedAt_append_right (before rest : ByteArray) (position : Nat) :
    signedAt (before ++ rest) (before.size + position) = signedAt rest position := by
  rw [signedAt, Nat.add_assoc, ByteArray.extract_append_size_add, signedAt]

theorem signedAt_signed32 (word : Int32) (rest : ByteArray) :
    signedAt (signed32 word ++ rest) 0 = word := by
  have here : (signed32 word ++ rest).extract 0 (0 + 4) = signed32 word :=
    ByteArray.extract_append_eq_left (size_signed32 word).symm
  rw [signedAt, here, signed32, toWord32_ofWord32]
  rfl

theorem signedAt_skip (word : Int32) (rest : ByteArray) (position : Nat) :
    signedAt (signed32 word ++ rest) (4 + position) = signedAt rest position := by
  have skipped := signedAt_append_right (signed32 word) rest position
  rwa [size_signed32] at skipped

/-- Octets begin with a word as soon as there are four of them. -/
theorem exists_word (bytes : ByteArray) (enough : 4 ≤ bytes.size) :
    ∃ word rest, bytes = signed32 word ++ rest := by
  refine ⟨signedAt bytes 0, bytes.extract 4 bytes.size, ?_⟩
  have width : (bytes.extract 0 (0 + 4)).size = 4 := by
    rw [ByteArray.size_extract]
    omega
  have word : signed32 (signedAt bytes 0) = bytes.extract 0 (0 + 4) := by
    rw [signed32, signedAt]
    exact ofWord32_toWord32 width
  rw [word, ← ByteArray.extract_eq_extract_append_extract 4 (by omega) enough,
    ByteArray.extract_zero_size]

theorem signed32_append_inj {first second : Int32} {rest other : ByteArray} :
    signed32 first ++ rest = signed32 second ++ other ↔ first = second ∧ rest = other := by
  constructor
  · intro same
    have words : first = second := by
      rw [← signedAt_signed32 first rest, same, signedAt_signed32]
    subst words
    exact ⟨rfl, (ByteArray.append_right_inj _).mp same⟩
  · rintro ⟨rfl, rfl⟩
    rfl

/-- A size is written as the signed word of its value. -/
theorem size32_eq_signed32 {size : Nat} {word : Int32} (value : word.toInt = size) :
    size32 size = signed32 word := by
  have bound := word.toInt_lt
  have same : word = Int32.ofNat size := by
    apply Int32.toInt_inj.mp
    rw [value, Int32.toInt_ofNat_of_lt (by omega)]
  have unsigned : (UInt32.ofNat size).toNat = size := UInt32.toNat_ofNat_of_lt' (by
    change size < 2 ^ 32
    omega)
  rw [same, signed32, ofWord32, Int32.toUInt32_ofNat', unsigned, size32]

theorem exists_size_word (size : Nat) (bound : size < 2 ^ 31) :
    ∃ word : Int32, word.toInt = size :=
  ⟨Int32.ofNat size, Int32.toInt_ofNat_of_lt bound⟩

/-! ## Payloads -/

theorem payload_nil : payload [] = ByteArray.empty := rfl

theorem payload_cons (field : ByteArray) (fields : List ByteArray) :
    payload (field :: fields) = size32 field.size ++ field ++ payload fields := by
  have onto (written : ByteArray) :
      fields.foldl (fun written field => written ++ size32 field.size ++ field) written =
        written ++ payload fields := by
    induction fields generalizing written with
    | nil => exact ByteArray.append_empty.symm
    | cons next rest ih =>
      rw [payload, List.foldl_cons, List.foldl_cons, ih, ih (_ ++ _ ++ _)]
      simp only [ByteArray.append_assoc, ByteArray.empty_append]
  rw [payload, List.foldl_cons, onto, ByteArray.empty_append]

theorem payload_append (fields others : List ByteArray) :
    payload (fields ++ others) = payload fields ++ payload others := by
  induction fields with
  | nil => rw [List.nil_append, payload_nil, ByteArray.empty_append]
  | cons field rest ih =>
    rw [List.cons_append, payload_cons, payload_cons, ih]
    simp only [ByteArray.append_assoc]

theorem payloadSize_cons (field : ByteArray) (fields : List ByteArray) :
    payloadSize (field :: fields) = 4 + field.size + payloadSize fields := rfl

theorem size_payload (fields : List ByteArray) : (payload fields).size = payloadSize fields := by
  induction fields with
  | nil => rfl
  | cons field rest ih =>
    rw [payload_cons, ByteArray.size_append, ByteArray.size_append, size_size32, ih,
      payloadSize_cons]

theorem payloadSize_eq_sum (fields : List ByteArray) :
    payloadSize fields = (fields.map (fun field => 4 + field.size)).sum := by
  induction fields with
  | nil => rfl
  | cons field rest ih => rw [payloadSize_cons, ih, List.map_cons, List.sum_cons]

theorem length_le_payloadSize (fields : List ByteArray) :
    4 * fields.length ≤ payloadSize fields := by
  induction fields with
  | nil => exact Nat.le_refl 0
  | cons field rest ih =>
    rw [payloadSize_cons, List.length_cons]
    omega

theorem size_le_payloadSize {fields : List ByteArray} {field : ByteArray}
    (member : field ∈ fields) : 4 + field.size ≤ payloadSize fields := by
  rw [payloadSize_eq_sum]
  exact List.le_sum_of_mem (List.mem_map.mpr ⟨field, member, rfl⟩)

/-! ## Reading fields -/

/-- The field behind a length word, at the place where reading has come to. -/
theorem takeField_word (before tail : ByteArray) (word : Int32) (index : Nat) :
    takeField (before ++ (signed32 word ++ tail)) index before.size =
      if word < 0 then .error (.negativeFieldLength index word)
      else if tail.size < word.toInt.toNat then
        .error (.fieldPastEnd index word.toInt.toNat (before ++ (signed32 word ++ tail)).size)
      else .ok (tail.extract 0 word.toInt.toNat, before.size + (4 + word.toInt.toNat)) := by
  have declared : signedAt (before ++ (signed32 word ++ tail)) before.size = word := by
    have here := signedAt_append_right before (signed32 word ++ tail) 0
    rwa [Nat.add_zero, signedAt_signed32] at here
  have content (length : Nat) :
      (before ++ (signed32 word ++ tail)).extract (before.size + 4) (before.size + (4 + length)) =
        tail.extract 0 length := by
    rw [ByteArray.extract_append_size_add]
    exact ByteArray.extract_append_size_add' (i := 0) (size_signed32 word).symm
  have size : (before ++ (signed32 word ++ tail)).size = before.size + (4 + tail.size) := by
    simp only [ByteArray.size_append, size_signed32]
  have enough : ¬ (before ++ (signed32 word ++ tail)).size < before.size + 4 := by omega
  have inside : (before ++ (signed32 word ++ tail)).size < before.size + (4 + word.toInt.toNat) ↔
      tail.size < word.toInt.toNat := by omega
  simp only [takeField, lengthSize, if_neg enough, declared, content, inside, Nat.add_assoc]

theorem takeField_short {before rest : ByteArray} (short : rest.size < 4) (index : Nat) :
    takeField (before ++ rest) index before.size = .error (.lengthPastEnd index) := by
  have size : (before ++ rest).size < before.size + 4 := by
    rw [ByteArray.size_append]
    omega
  exact if_pos size

theorem payload_singleton (field : ByteArray) :
    payload [field] = size32 field.size ++ field := by
  rw [payload_cons, payload_nil, ByteArray.append_empty]

/-- A payload is read up to `before`, and `rest` lies ahead. A field is taken exactly when
`rest` begins with the writing of it. -/
theorem takeField_eq_ok_iff {before rest field : ByteArray} {index next : Nat} :
    takeField (before ++ rest) index before.size = .ok (field, next) ↔
      field.size < 2 ^ 31 ∧ next = before.size + payloadSize [field] ∧
        ∃ after, rest = payload [field] ++ after := by
  have size : payloadSize [field] = 4 + field.size := rfl
  constructor
  · intro taken
    by_cases short : rest.size < 4
    · rw [takeField_short short] at taken
      contradiction
    obtain ⟨word, tail, rfl⟩ := exists_word rest (Nat.le_of_not_lt short)
    rw [takeField_word] at taken
    split at taken
    · contradiction
    split at taken
    · contradiction
    rename_i nonnegative inside
    simp only [Except.ok.injEq, Prod.mk.injEq] at taken
    obtain ⟨rfl, rfl⟩ := taken
    have length : (tail.extract 0 word.toInt.toNat).size = word.toInt.toNat := by
      rw [ByteArray.size_extract]
      omega
    have value : word.toInt = word.toInt.toNat := by
      rw [Int32.lt_iff_toInt_lt, Int32.toInt_zero] at nonnegative
      omega
    have bound := word.toInt_lt
    refine ⟨by omega, by rw [size, length], tail.extract word.toInt.toNat tail.size, ?_⟩
    rw [payload_singleton, length, size32_eq_signed32 value, ByteArray.append_assoc,
      ← ByteArray.extract_eq_extract_append_extract _ (Nat.zero_le _) (by omega),
      ByteArray.extract_zero_size]
  · rintro ⟨bound, rfl, after, rfl⟩
    obtain ⟨word, value⟩ := exists_size_word _ bound
    have length : word.toInt.toNat = field.size := by omega
    have nonnegative : ¬ word < 0 := by
      rw [Int32.lt_iff_toInt_lt, Int32.toInt_zero]
      omega
    have inside : ¬ (field ++ after).size < field.size := by
      rw [ByteArray.size_append]
      omega
    rw [payload_singleton, size32_eq_signed32 value, ByteArray.append_assoc, takeField_word,
      if_neg nonnegative, length, if_neg inside, ByteArray.extract_append_size_left,
      ByteArray.extract_zero_size, size]

/-- Taking fields consumes exactly the writing of the fields that are taken. -/
theorem takeFields_eq_ok_iff {before rest : ByteArray} {taken fields : List ByteArray}
    {count index stop : Nat} :
    takeFields (before ++ rest) taken count index before.size = .ok (fields, stop) ↔
      ∃ read after, fields = taken.reverse ++ read ∧ read.length = count ∧
        (∀ field ∈ read, field.size < 2 ^ 31) ∧ rest = payload read ++ after ∧
        stop = before.size + payloadSize read := by
  induction count generalizing before rest taken index with
  | zero =>
    simp only [takeFields, Except.ok.injEq, Prod.mk.injEq, List.length_eq_zero_iff]
    constructor
    · rintro ⟨rfl, rfl⟩
      exact ⟨[], rest, by simp, rfl, by simp, ByteArray.empty_append.symm, rfl⟩
    · rintro ⟨read, after, rfl, rfl, _, _, rfl⟩
      exact ⟨by simp, rfl⟩
  | succ count ih =>
    -- The place that reading has come to moves behind the field that is taken.
    have moved (field after : ByteArray) :
        takeFields (before ++ (payload [field] ++ after)) (field :: taken) count (index + 1)
            (before.size + payloadSize [field]) = .ok (fields, stop) ↔
          ∃ read behind, fields = taken.reverse ++ field :: read ∧ read.length = count ∧
            (∀ field ∈ read, field.size < 2 ^ 31) ∧ after = payload read ++ behind ∧
            stop = before.size + payloadSize (field :: read) := by
      have place : before.size + payloadSize [field] = (before ++ payload [field]).size := by
        rw [ByteArray.size_append, size_payload]
      have total (read : List ByteArray) :
          (before ++ payload [field]).size + payloadSize read =
            before.size + payloadSize (field :: read) := by
        rw [← place, Nat.add_assoc]
        rfl
      rw [← ByteArray.append_assoc, place, ih]
      simp only [List.reverse_cons, List.append_assoc, List.singleton_append, total]
    constructor
    · intro done
      rw [takeFields] at done
      split at done
      · contradiction
      rename_i field next first
      obtain ⟨bound, rfl, after, rfl⟩ := takeField_eq_ok_iff.mp first
      obtain ⟨read, behind, all, length, bounds, rfl, last⟩ := (moved field after).mp done
      refine ⟨field :: read, behind, all, by rw [List.length_cons, length], ?_, ?_, last⟩
      · simpa only [List.forall_mem_cons] using And.intro bound bounds
      · rw [show field :: read = [field] ++ read from rfl, payload_append,
          ByteArray.append_assoc]
    · rintro ⟨read, behind, all, length, bounds, rfl, last⟩
      cases read with
      | nil => contradiction
      | cons field read =>
        simp only [List.forall_mem_cons, List.length_cons, Nat.add_right_cancel_iff]
          at bounds length
        have split : payload (field :: read) ++ behind =
            payload [field] ++ (payload read ++ behind) := by
          rw [show field :: read = [field] ++ read from rfl, payload_append,
          ByteArray.append_assoc]
        have first : takeField (before ++ (payload [field] ++ (payload read ++ behind))) index
            before.size = .ok (field, before.size + payloadSize [field]) :=
          takeField_eq_ok_iff.mpr ⟨bounds.1, rfl, _, rfl⟩
        rw [split, takeFields, first]
        exact (moved field _).mpr ⟨read, behind, all, length, bounds.2, rfl, last⟩

/-- A payload is split into fields exactly when it is the writing of them and the declared
numbers are theirs. The bound keeps every length within a signed word. -/
theorem splitFields_eq_ok_iff {bytes : ByteArray} {size count : Nat} {fields : List ByteArray}
    (bound : size < 2 ^ 31) :
    splitFields bytes size count = .ok fields ↔
      bytes = payload fields ∧ size = payloadSize fields ∧ count = fields.length := by
  have reads (stop : Nat) :
      takeFields (ByteArray.empty ++ bytes) [] count 0 ByteArray.empty.size =
        .ok (fields, stop) ↔ _ := takeFields_eq_ok_iff
  simp only [ByteArray.empty_append, ByteArray.size_empty, List.reverse_nil, List.nil_append,
    Nat.zero_add] at reads
  constructor
  · intro done
    simp only [splitFields, bind, Except.bind, pure, Except.pure, throw, throwThe,
      MonadExceptOf.throw] at done
    split at done
    · contradiction
    rename_i declared
    have declared : bytes.size = size := by simpa using declared
    split at done
    · contradiction
    rename_i result taken
    obtain ⟨read, consumed⟩ := result
    split at done
    · contradiction
    rename_i all
    have all : consumed = size := by simpa using all
    cases done
    obtain ⟨_, after, rfl, length, _, bytesEq, stop⟩ := (reads consumed).mp taken
    have empty : after = ByteArray.empty := by
      apply ByteArray.size_eq_zero_iff.mp
      have sizes := congrArg ByteArray.size bytesEq
      rw [ByteArray.size_append, size_payload] at sizes
      omega
    subst empty
    exact ⟨by rw [bytesEq, ByteArray.append_empty], by rw [← all, stop], length.symm⟩
  · rintro ⟨rfl, rfl, rfl⟩
    have bounds : ∀ field ∈ fields, field.size < 2 ^ 31 := by
      intro field member
      have := size_le_payloadSize member
      omega
    have taken := (reads (payloadSize fields)).mpr
      ⟨fields, ByteArray.empty, rfl, rfl, bounds, ByteArray.append_empty.symm, rfl⟩
    simp [splitFields, taken, size_payload, bind, Except.bind, pure, Except.pure]

/-! ## Declared sizes -/

theorem declaredSizes_eq_ok_iff {sizeWord countWord : Int32} {size count : Nat} :
    declaredSizes sizeWord countWord = .ok (size, count) ↔
      sizeWord.toInt = size ∧ countWord.toInt = count ∧ size ≤ maxPayload ∧ 4 * count ≤ size := by
  have word : lengthSize = 4 := rfl
  simp only [declaredSizes, Int32.lt_iff_toInt_lt, Int32.toInt_zero]
  constructor
  · intro declared
    split at declared
    · contradiction
    split at declared
    · contradiction
    split at declared
    · contradiction
    split at declared
    · contradiction
    rename_i fit
    simp only [Except.ok.injEq, Prod.mk.injEq] at declared
    rw [word] at fit
    omega
  · rintro ⟨sizeEq, countEq, limit, fit⟩
    have notMore : ¬ size / lengthSize < count := by
      rw [word]
      omega
    simp only [sizeEq, countEq, Int.toNat_natCast, if_neg (Int.not_lt.mpr (Int.natCast_nonneg _)),
      if_neg (Nat.not_lt.mpr limit), if_neg notMore]

/-- The part that the two kinds of message share: the words of the sizes, and the payload. -/
def readFields (sizeWord countWord : Int32) (bytes : ByteArray) :
    Except FramingFault (List ByteArray) := do
  let (size, count) ← declaredSizes sizeWord countWord
  splitFields bytes size count

/-- The sizes that are declared in front of fields are those of the fields. -/
theorem declaredSizes_of_readFields {sizeWord countWord : Int32} {bytes : ByteArray}
    {fields : List ByteArray} (read : readFields sizeWord countWord bytes = .ok fields) :
    declaredSizes sizeWord countWord = .ok (payloadSize fields, fields.length) ∧
      bytes = payload fields := by
  simp only [readFields, bind, Except.bind] at read
  split at read
  · contradiction
  rename_i sizes declared
  obtain ⟨sizeEq, _, _, _⟩ := declaredSizes_eq_ok_iff.mp declared
  have bound := sizeWord.toInt_lt
  obtain ⟨rfl, size, count⟩ := (splitFields_eq_ok_iff (by omega)).mp read
  rw [declared, ← size, ← count]
  exact ⟨rfl, rfl⟩

/-- Fields are read exactly from their own writing, and only within the limit. -/
theorem readFields_eq_ok_iff {sizeWord countWord : Int32} {bytes : ByteArray}
    {fields : List ByteArray} :
    readFields sizeWord countWord bytes = .ok fields ↔
      payloadSize fields ≤ maxPayload ∧
        signed32 sizeWord ++ (signed32 countWord ++ bytes) =
          size32 (payloadSize fields) ++ (size32 fields.length ++ payload fields) := by
  constructor
  · intro done
    obtain ⟨declared, rfl⟩ := declaredSizes_of_readFields done
    obtain ⟨sizeEq, countEq, limit, _⟩ := declaredSizes_eq_ok_iff.mp declared
    exact ⟨limit, by rw [size32_eq_signed32 sizeEq, size32_eq_signed32 countEq]⟩
  · rintro ⟨limit, written⟩
    have fit := length_le_payloadSize fields
    have bound : payloadSize fields < 2 ^ 31 := Nat.lt_of_le_of_lt limit (by decide)
    obtain ⟨otherSize, sizeEq⟩ := exists_size_word _ bound
    obtain ⟨otherCount, countEq⟩ := exists_size_word fields.length (by omega)
    rw [size32_eq_signed32 sizeEq, size32_eq_signed32 countEq] at written
    obtain ⟨rfl, behind⟩ := signed32_append_inj.mp written
    obtain ⟨rfl, rfl⟩ := signed32_append_inj.mp behind
    have declared := declaredSizes_eq_ok_iff.mpr ⟨sizeEq, countEq, limit, fit⟩
    simp only [readFields, declared, bind, Except.bind]
    exact (splitFields_eq_ok_iff bound).mpr ⟨rfl, rfl, rfl⟩

end FileGateway.Frame
