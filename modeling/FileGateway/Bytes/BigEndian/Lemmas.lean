import FileGateway.Bytes.BigEndian
import Mathlib

/-! A number below `256 ^ width` is read back from its octets (`decode_encode`), and octets
are the writing of the number that they denote (`encode_decode`). -/
namespace FileGateway.BigEndian

theorem length_octets (width n : Nat) : (octets width n).length = width := by
  induction width generalizing n with
  | zero => rfl
  | succ width ih => simp only [octets, List.length_append, ih, List.length_singleton]

theorem number_concat (start : List UInt8) (last : UInt8) :
    number (start ++ [last]) = number start * 256 + last.toNat := by
  simp only [number, List.foldl_append, List.foldl_cons, List.foldl_nil]

theorem number_octets (width n : Nat) : number (octets width n) = n % 256 ^ width := by
  induction width generalizing n with
  | zero => simp only [octets, number, List.foldl_nil, Nat.pow_zero, Nat.mod_one]
  | succ width ih =>
    have last : (UInt8.ofNat n).toNat = n % 256 := UInt8.toNat_ofNat'
    rw [octets, number_concat, ih, last, Nat.pow_succ', Nat.mod_mul]
    omega

theorem size_encode (width n : Nat) : (encode width n).size = width := by
  simp only [encode, ByteArray.size, List.size_toArray, length_octets]

/-- Reading a number of known width gives back what was written. -/
theorem decode_encode {width n : Nat} (fits : n < 256 ^ width) :
    decode (encode width n) = n := by
  simp only [decode, encode, number_octets, Nat.mod_eq_of_lt fits]

theorem octets_number (bytes : List UInt8) : octets bytes.length (number bytes) = bytes := by
  generalize length : bytes.length = width
  induction width generalizing bytes with
  | zero => simp only [octets, List.length_eq_zero_iff.mp length]
  | succ width ih =>
    rcases List.eq_nil_or_concat bytes with empty | ⟨start, last, rfl⟩
    · subst empty
      contradiction
    · have length : start.length = width := by simpa using length
      have quotient : (number start * 256 + last.toNat) / 256 = number start := by
        have := last.toNat_lt
        omega
      have remainder : UInt8.ofNat (number start * 256 + last.toNat) = last := by
        apply UInt8.toNat_inj.mp
        have := last.toNat_lt
        rw [UInt8.toNat_ofNat']
        omega
      rw [octets, List.concat_eq_append, number_concat, quotient, remainder, ih start length]

/-- Octets are the writing, at their own width, of the number they denote. -/
theorem encode_decode (bytes : ByteArray) : encode bytes.size (decode bytes) = bytes := by
  apply ByteArray.ext
  simp only [encode, decode, ByteArray.size, ← Array.length_toList, octets_number]

/-! ## Words -/

theorem toWord32_ofWord32 (word : UInt32) : toWord32 (ofWord32 word) = word := by
  rw [toWord32, ofWord32, decode_encode word.toNat_lt, UInt32.ofNat_toNat]

theorem toWord64_ofWord64 (word : UInt64) : toWord64 (ofWord64 word) = word := by
  rw [toWord64, ofWord64, decode_encode word.toNat_lt, UInt64.ofNat_toNat]

theorem size_ofWord32 (word : UInt32) : (ofWord32 word).size = 4 := size_encode 4 _

theorem size_ofWord64 (word : UInt64) : (ofWord64 word).size = 8 := size_encode 8 _

theorem number_lt (bytes : List UInt8) : number bytes < 256 ^ bytes.length := by
  have modulo := number_octets bytes.length (number bytes)
  rw [octets_number] at modulo
  rw [modulo]
  exact Nat.mod_lt _ (Nat.pow_pos (by decide))

theorem decode_lt (bytes : ByteArray) : decode bytes < 256 ^ bytes.size := by
  have below := number_lt bytes.data.toList
  rwa [Array.length_toList, ByteArray.size_data] at below

theorem ofWord32_toWord32 {bytes : ByteArray} (width : bytes.size = 4) :
    ofWord32 (toWord32 bytes) = bytes := by
  have bound := decode_lt bytes
  rw [width] at bound
  rw [ofWord32, toWord32, UInt32.toNat_ofNat_of_lt' bound, ← width, encode_decode]

theorem ofWord64_toWord64 {bytes : ByteArray} (width : bytes.size = 8) :
    ofWord64 (toWord64 bytes) = bytes := by
  have bound := decode_lt bytes
  rw [width] at bound
  rw [ofWord64, toWord64, UInt64.toNat_ofNat_of_lt' bound, ← width, encode_decode]

end FileGateway.BigEndian
