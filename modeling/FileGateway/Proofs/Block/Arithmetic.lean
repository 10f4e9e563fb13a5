import Mathlib
import FileGateway.Block.Placement

/-! The block arithmetic on 64-bit words is that of the natural numbers. Each word operation
has a checked form, which gives nothing in place of a wrapped result, and a placement of a
range inside its file goes through in the checked form. -/
namespace FileGateway

namespace Checked

def add? (a b : UInt64) : Option UInt64 :=
  if a.toNat + b.toNat ≤ maxOffset.toNat then some (a + b) else none

def sub? (a b : UInt64) : Option UInt64 :=
  if b.toNat ≤ a.toNat then some (a - b) else none

def mul? (a b : UInt64) : Option UInt64 :=
  if a.toNat * b.toNat ≤ maxOffset.toNat then some (a * b) else none

def div? (a b : UInt64) : Option UInt64 :=
  if b.toNat = 0 then none else some (a / b)

def mod? (a b : UInt64) : Option UInt64 :=
  if b.toNat = 0 then none else some (a % b)

end Checked

theorem toNat_maxOffset : maxOffset.toNat = 2 ^ 64 - 1 := rfl

theorem toNat_le_maxOffset (a : UInt64) : a.toNat ≤ maxOffset.toNat :=
  Nat.le_sub_one_of_lt a.toNat_lt

theorem toNat_min (a b : UInt64) : (min a b).toNat = min a.toNat b.toNat := by
  change (if a ≤ b then a else b).toNat = _
  split
  · rename_i below
    exact (Nat.min_eq_left (UInt64.le_iff_toNat_le.mp below)).symm
  · rename_i above
    exact (Nat.min_eq_right (Nat.le_of_not_le (mt UInt64.le_iff_toNat_le.mpr above))).symm

theorem toNat_max (a b : UInt64) : (max a b).toNat = max a.toNat b.toNat := by
  change (if a ≤ b then b else a).toNat = _
  split
  · rename_i below
    exact (Nat.max_eq_right (UInt64.le_iff_toNat_le.mp below)).symm
  · rename_i above
    exact (Nat.max_eq_left (Nat.le_of_not_le (mt UInt64.le_iff_toNat_le.mpr above))).symm

theorem toNat_add_of_le {a b : UInt64} (fits : a.toNat + b.toNat ≤ maxOffset.toNat) :
    (a + b).toNat = a.toNat + b.toNat := by
  rw [toNat_maxOffset] at fits
  rw [UInt64.toNat_add]
  omega

theorem toNat_mul_of_le {a b : UInt64} (fits : a.toNat * b.toNat ≤ maxOffset.toNat) :
    (a * b).toNat = a.toNat * b.toNat := by
  rw [toNat_maxOffset] at fits
  rw [UInt64.toNat_mul]
  exact Nat.mod_eq_of_lt (by omega)

theorem toNat_sub_of_toNat_le {a b : UInt64} (below : b.toNat ≤ a.toNat) :
    (a - b).toNat = a.toNat - b.toNat :=
  UInt64.toNat_sub_of_le _ _ (UInt64.le_iff_toNat_le.mpr below)

theorem toNat_saturatingAdd (a b : UInt64) :
    (saturatingAdd a b).toNat = min (a.toNat + b.toNat) maxOffset.toNat := by
  rw [saturatingAdd]
  split
  · rename_i fits
    rw [toNat_add_of_le fits, Nat.min_eq_left fits]
  · rename_i excess
    rw [Nat.min_eq_right (Nat.le_of_not_le excess)]

namespace Block

theorem toNat_pos_of_ne_zero {offset : UInt64} (nonzero : offset ≠ 0) : 0 < offset.toNat := by
  apply Nat.pos_of_ne_zero
  intro zero
  exact nonzero (UInt64.toNat_inj.mp zero)

/-- A block size of zero counts as one. -/
theorem toNat_index (offset blockSize : UInt64) :
    (index offset blockSize).toNat = offset.toNat / max blockSize.toNat 1 := by
  have size : (max blockSize 1).toNat = max blockSize.toNat 1 := toNat_max blockSize 1
  by_cases zero : offset = 0
  · simp [index, zero]
  have positive := toNat_pos_of_ne_zero zero
  have previous : (offset - 1).toNat = offset.toNat - 1 := toNat_sub_of_toNat_le positive
  obtain ⟨before, following⟩ := Nat.exists_eq_add_of_le' positive
  have quotient : ((offset - 1) / max blockSize 1).toNat = before / max blockSize.toNat 1 := by
    rw [UInt64.toNat_div, previous, size, following, Nat.add_sub_cancel]
  have opens : offset % max blockSize 1 = 0 ↔ max blockSize.toNat 1 ∣ before + 1 := by
    rw [← UInt64.toNat_inj, UInt64.toNat_mod, size, following, Nat.dvd_iff_mod_eq_zero]
    rfl
  simp only [index, if_neg zero]
  rw [following, Nat.succ_div, ← quotient]
  split
  · rename_i multiple
    rw [if_pos (opens.mp multiple)]
    refine toNat_add_of_le ?_
    have bound := Nat.div_le_self before (max blockSize.toNat 1)
    have limit := toNat_le_maxOffset offset
    rw [quotient]
    exact Nat.le_trans (Nat.add_le_add_right bound 1) (following ▸ limit)
  · rename_i inside
    rw [if_neg (mt opens.mpr inside), Nat.add_zero]

/-- The index of the block of an offset, in checked arithmetic. -/
def index? (offset blockSize : UInt64) : Option UInt64 := do
  let size := max blockSize 1
  if offset = 0 then
    return 0
  let before ← Checked.div? (← Checked.sub? offset 1) size
  if (← Checked.mod? offset size) = 0 then Checked.add? before 1 else return before

theorem index?_eq (offset blockSize : UInt64) :
    index? offset blockSize = some (index offset blockSize) := by
  have size : (max blockSize 1).toNat = max blockSize.toNat 1 := toNat_max blockSize 1
  by_cases zero : offset = 0
  · simp [index, index?, zero]
  have positive : 1 ≤ offset.toNat := toNat_pos_of_ne_zero zero
  have divisor : (max blockSize 1).toNat ≠ 0 := by omega
  have fits : ((offset - 1) / max blockSize 1).toNat + 1 ≤ maxOffset.toNat := by
    have bound := Nat.div_le_self (offset - 1).toNat (max blockSize 1).toNat
    have limit := toNat_le_maxOffset offset
    have previous : (offset - 1).toNat = offset.toNat - 1 := toNat_sub_of_toNat_le positive
    rw [UInt64.toNat_div]
    omega
  simp only [index?, index, if_neg zero, Checked.sub?, Checked.div?, Checked.mod?, Checked.add?,
    UInt64.toNat_one, if_pos positive, Option.bind_eq_bind, Option.bind_some, if_neg divisor,
    if_pos fits]
  split <;> rfl

end Block
end FileGateway
