import FileGateway.Proofs.Block.Arithmetic

/-! The index of an offset is its quotient by the block size. The blocks up to that index are those
that start at or before the offset, and their starts are words. -/
namespace FileGateway

/-- A product that stays at or below a word does not wrap. -/
theorem Checked.mul?_of_toNat_mul_le {a b bound : UInt64}
    (below : a.toNat * b.toNat ≤ bound.toNat) :
    mul? a b = some (a * b) ∧ a * b ≤ bound := by
  have fits := Nat.le_trans below (toNat_le_maxOffset bound)
  constructor
  · exact if_pos fits
  · rwa [UInt64.le_iff_toNat_le, toNat_mul_of_le fits]

theorem Checked.toNat_of_mul? {a b product : UInt64} (multiplied : mul? a b = some product) :
    product.toNat = a.toNat * b.toNat := by
  rw [mul?, Option.ite_none_right_eq_some] at multiplied
  obtain ⟨fits, same⟩ := multiplied
  rw [← Option.some.inj same, toNat_mul_of_le fits]

namespace Block
variable {blockSize : UInt64}

theorem index_eq_div (positive : 0 < blockSize) (offset : UInt64) :
    index offset blockSize = offset / blockSize := by
  have size : max blockSize.toNat 1 = blockSize.toNat :=
    Nat.max_eq_left (UInt64.lt_iff_toNat_lt.mp positive)
  apply UInt64.toNat_inj.mp
  rw [toNat_index, size, UInt64.toNat_div]

theorem le_index_iff (positive : 0 < blockSize) {offset block : UInt64} :
    block ≤ index offset blockSize ↔ block.toNat * blockSize.toNat ≤ offset.toNat := by
  rw [index_eq_div positive, UInt64.le_iff_toNat_le, UInt64.toNat_div,
    Nat.le_div_iff_mul_le (UInt64.lt_iff_toNat_lt.mp positive)]

/-- The index counts from the octet before an offset, and yet it is the quotient: no step of the
count wraps, and the index is that of the last block which starts at or before the offset. -/
theorem index_is_quotient (positive : 0 < blockSize) (offset : UInt64) :
    index offset blockSize = offset / blockSize ∧
    index? offset blockSize = some (offset / blockSize) ∧
    (Checked.mul? (index offset blockSize) blockSize =
        some (index offset blockSize * blockSize) ∧
      index offset blockSize * blockSize ≤ offset) ∧
    ∀ block, block ≤ index offset blockSize ↔
      ∃ start, Checked.mul? block blockSize = some start ∧ start ≤ offset := by
  refine ⟨index_eq_div positive offset, ?counted, ?start, ?blocks⟩
  case counted => rw [index?_eq, index_eq_div positive]
  case start =>
    exact Checked.mul?_of_toNat_mul_le ((le_index_iff positive).mp (UInt64.le_refl _))
  case blocks =>
    intro block
    rw [le_index_iff positive]
    constructor
    · intro below
      exact ⟨_, Checked.mul?_of_toNat_mul_le below⟩
    · rintro ⟨start, multiplied, below⟩
      rw [← Checked.toNat_of_mul? multiplied]
      exact UInt64.le_iff_toNat_le.mp below

/-- The greatest offset opens the last of the blocks of three octets. -/
theorem index_is_quotient_topmost :
    index maxOffset 3 = 6148914691236517205 ∧
      Checked.mul? 6148914691236517205 3 = some maxOffset := by
  have positive : (0 : UInt64) < 3 := by decide
  obtain ⟨quotient, -, ⟨start, -⟩, -⟩ := index_is_quotient positive maxOffset
  have index_eq : index maxOffset 3 = 6148914691236517205 := quotient.trans (by decide)
  rw [index_eq] at start
  exact ⟨index_eq, start⟩

end Block
end FileGateway
