import FileGateway.FileStat
import FileGateway.Proofs.Frame.Field

/-! Records and fields of eighty octets are in bijection: `encode` and `decode` undo each other. The
words of a field follow one another from its start to its end, and none reaches past it. -/
namespace FileGateway.FileStat
open BigEndian

variable {field : ByteArray} {offset : Nat}

/-! ## Widths -/

theorem size_encode (stat : FileStat) : stat.encode.size = width := by
  simp only [encode, ByteArray.size_append, size_ofWord64, size_ofWord32, width]

theorem decode_of_size (size : field.size = width) :
    decode field = .ok {
      dev := word64At field 0
      ino := word64At field 8
      mode := word32At field 16
      nlink := word32At field 20
      uid := word32At field 24
      gid := word32At field 28
      size := (word64At field 32).toInt64
      atime := (word64At field 40).toInt64
      mtime := (word64At field 48).toInt64
      ctime := (word64At field 56).toInt64
      blksize := (word64At field 64).toInt64
      blocks := (word64At field 72).toInt64 } := by
  rw [decode, Field.checkWidth_of_size size]
  rfl

theorem exists_decode (size : field.size = width) : ∃ stat, decode field = .ok stat :=
  ⟨_, decode_of_size size⟩

theorem decode_of_ne (size : field.size ≠ width) :
    decode field = .error (.fieldWidth width field.size) := by
  rw [decode, Field.checkWidth_of_ne size]
  rfl

/-! ## Writing, then reading -/

theorem word64At_zero (word : UInt64) (rest : ByteArray) :
    word64At (ofWord64 word ++ rest) 0 = word := by
  rw [word64At, ByteArray.extract_append_eq_left (size_ofWord64 word).symm, toWord64_ofWord64]

theorem word32At_zero (word : UInt32) (rest : ByteArray) :
    word32At (ofWord32 word ++ rest) 0 = word := by
  rw [word32At, ByteArray.extract_append_eq_left (size_ofWord32 word).symm, toWord32_ofWord32]

theorem word64At_append {before : ByteArray} (past : before.size ≤ offset) (rest : ByteArray) :
    word64At (before ++ rest) offset = word64At rest (offset - before.size) := by
  obtain ⟨offset, rfl⟩ := Nat.exists_eq_add_of_le past
  rw [word64At, Nat.add_assoc, ByteArray.extract_append_size_add, Nat.add_sub_cancel_left,
    word64At]

theorem word32At_append {before : ByteArray} (past : before.size ≤ offset) (rest : ByteArray) :
    word32At (before ++ rest) offset = word32At rest (offset - before.size) := by
  obtain ⟨offset, rfl⟩ := Nat.exists_eq_add_of_le past
  rw [word32At, Nat.add_assoc, ByteArray.extract_append_size_add, Nat.add_sub_cancel_left,
    word32At]

theorem decode_encode (stat : FileStat) : decode stat.encode = .ok stat := by
  have last (word : UInt64) : word64At (ofWord64 word) 0 = word := by
    simpa only [ByteArray.append_empty] using word64At_zero word ByteArray.empty
  rw [decode_of_size stat.size_encode]
  -- every offset loses the widths of the words before it, and comes to zero at its own word
  simp [encode, ByteArray.append_assoc, word64At_append, word32At_append, word64At_zero,
    word32At_zero, size_ofWord64, size_ofWord32, last]

/-! ## Reading, then writing -/

theorem ofWord64_word64At (within : offset + 8 ≤ field.size) :
    ofWord64 (word64At field offset) = field.extract offset (offset + 8) := by
  apply ofWord64_toWord64
  rw [ByteArray.size_extract]
  omega

theorem ofWord32_word32At (within : offset + 4 ≤ field.size) :
    ofWord32 (word32At field offset) = field.extract offset (offset + 4) := by
  apply ofWord32_toWord32
  rw [ByteArray.size_extract]
  omega

theorem encode_of_decode {stat : FileStat} (read : decode field = .ok stat) :
    stat.encode = field := by
  by_cases size : field.size = width
  · have whole : field.extract 0 80 = field := by
      rw [← show field.size = 80 from size, ByteArray.extract_zero_size]
    rw [decode_of_size size] at read
    cases read
    rw [width] at size
    -- each word is written as the piece it was read from, and neighbouring pieces join
    simp (disch := omega) only [encode, UInt64.toUInt64_toInt64, ofWord64_word64At,
      ofWord32_word32At, Nat.reduceAdd, ← ByteArray.extract_eq_extract_append_extract, whole]
  · rw [decode_of_ne size] at read
    contradiction

/-! ## Reading within bounds -/

/-- The octets that follow in a field, and the position behind them. There are none past its end. -/
def take? (field : ByteArray) (count : Nat) : StateT Nat Option ByteArray := fun position =>
  if position + count ≤ field.size then
    some (field.extract position (position + count), position + count)
  else none

def next32? (field : ByteArray) : StateT Nat Option UInt32 := toWord32 <$> take? field 4

def next64? (field : ByteArray) : StateT Nat Option UInt64 := toWord64 <$> take? field 8

/-- The record whose words are the next in a field. -/
def next? (field : ByteArray) : StateT Nat Option FileStat := do
  return {
    dev := ← next64? field
    ino := ← next64? field
    mode := ← next32? field
    nlink := ← next32? field
    uid := ← next32? field
    gid := ← next32? field
    size := (← next64? field).toInt64
    atime := (← next64? field).toInt64
    mtime := (← next64? field).toInt64
    ctime := (← next64? field).toInt64
    blksize := (← next64? field).toInt64
    blocks := (← next64? field).toInt64 }

/-- What a field is read as. There is nothing if a word is read past the end of the field. -/
def decode? (field : ByteArray) : Option (Except MessageError FileStat) :=
  match Field.checkWidth width field with
  | .error error => some (.error error)
  | .ok () => (next? field 0).map (fun (stat, _) => .ok stat)

theorem take?_bind {α β : Type} {count : Nat} (within : offset + count ≤ field.size)
    (read : ByteArray → α) (following : α → StateT Nat Option β) :
    (read <$> take? field count >>= following) offset =
      following (read (field.extract offset (offset + count))) (offset + count) := by
  rw [← bind_pure_comp, bind_assoc]
  simp only [bind, StateT.bind, take?, if_pos within, Option.bind_some, pure, StateT.pure]

theorem next64?_bind {β : Type} (within : offset + 8 ≤ field.size)
    (following : UInt64 → StateT Nat Option β) :
    (next64? field >>= following) offset = following (word64At field offset) (offset + 8) :=
  take?_bind within toWord64 following

theorem next32?_bind {β : Type} (within : offset + 4 ≤ field.size)
    (following : UInt32 → StateT Nat Option β) :
    (next32? field >>= following) offset = following (word32At field offset) (offset + 4) :=
  take?_bind within toWord32 following

/-- Each word begins where the one before it ends, which is the offset that `decode` reads it at. -/
theorem decode?_eq (field : ByteArray) : decode? field = some (decode field) := by
  by_cases size : field.size = width
  · rw [decode?, decode_of_size size, Field.checkWidth_of_size size]
    rw [width] at size
    simp (disch := omega) only [next?, next64?_bind, next32?_bind]
    rfl
  · rw [decode?, decode_of_ne size, Field.checkWidth_of_ne size]

/-- A record is written in eighty octets and read back from them. A field of that width is read as
the record that is written so, and any other is refused for its width. No word is read past the end
of a field. -/
theorem encode_decode_exact :
    (∀ stat : FileStat, stat.encode.size = width ∧ decode stat.encode = .ok stat) ∧
    (∀ field : ByteArray,
      (field.size = width ∧ ∃ stat, decode field = .ok stat ∧ stat.encode = field) ∨
      (field.size ≠ width ∧ decode field = .error (.fieldWidth width field.size))) ∧
    ∀ field, decode? field = some (decode field) := by
  refine ⟨fun stat => ⟨stat.size_encode, decode_encode stat⟩, ?_, decode?_eq⟩
  intro field
  by_cases size : field.size = width
  · obtain ⟨stat, read⟩ := exists_decode size
    exact .inl ⟨size, stat, read, encode_of_decode read⟩
  · exact .inr ⟨size, decode_of_ne size⟩

end FileGateway.FileStat
