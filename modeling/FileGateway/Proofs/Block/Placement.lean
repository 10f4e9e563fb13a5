import FileGateway.Proofs.Block.Arithmetic

/-! A range inside its file is placed exactly: the locations are those of the blocks from the
one of its first byte to the one of its last, whole but for the end of the file, and no word
operation on the way wraps. -/
namespace FileGateway.Placement

/-- The location of a block, in checked arithmetic. -/
def location? (placement : Placement) (block : UInt64) : Option BlockLocation := do
  let offset ← Checked.mul? block placement.blockSize
  let blockEnd := min (saturatingAdd offset placement.blockSize) placement.fileEnd
  return ⟨offset, ← Checked.sub? blockEnd offset,
    placement.holders.hostsOf block placement.placeholder⟩

/-- The locations of a range, in checked arithmetic. -/
def locations? (placement : Placement) : Option (List BlockLocation) := do
  if placement.isEmpty then
    return []
  let first ← Block.index? placement.start placement.blockSize
  let last ← Block.index? (← Checked.sub? placement.stop 1) placement.blockSize
  (List.range' first.toNat (last.toNat + 1 - first.toNat)).mapM
    (fun block => placement.location? (UInt64.ofNat block))

/-- The number of blocks of a size between two offsets, where the last block counts if any
byte of it does. -/
def spanned (blockSize start stop : Nat) : Nat :=
  if stop ≤ start then 0 else (stop - 1) / blockSize + 1 - start / blockSize

/-- A range of a file that ends no later than the file, in blocks of some size. -/
structure Inside (placement : Placement) : Prop where
  positive : 0 < placement.blockSize.toNat
  within : placement.stop.toNat ≤ placement.fileEnd.toNat

variable {placement : Placement}

theorem isEmpty_iff : placement.isEmpty = true ↔ placement.stop.toNat ≤ placement.start.toNat := by
  rw [isEmpty, decide_eq_true_eq, UInt64.le_iff_toNat_le]

theorem locations_of_isEmpty (nothing : placement.isEmpty = true) : placement.locations = [] := by
  rw [locations, blockCount, if_pos nothing]
  rfl

theorem Inside.toNat_firstBlock (inside : placement.Inside) :
    placement.firstBlock.toNat = placement.start.toNat / placement.blockSize.toNat := by
  rw [firstBlock, Block.toNat_index, Nat.max_eq_left inside.positive]

theorem Inside.toNat_lastBlock (inside : placement.Inside)
    (nonempty : placement.start.toNat < placement.stop.toNat) :
    placement.lastBlock.toNat = (placement.stop.toNat - 1) / placement.blockSize.toNat := by
  have positive : (1 : UInt64).toNat ≤ placement.stop.toNat := Nat.one_le_of_lt nonempty
  rw [lastBlock, Block.toNat_index, Nat.max_eq_left inside.positive,
    toNat_sub_of_toNat_le positive]
  rfl

theorem Inside.blockCount_eq (inside : placement.Inside) :
    placement.blockCount =
      spanned placement.blockSize.toNat placement.start.toNat placement.stop.toNat := by
  rw [blockCount, spanned]
  by_cases nothing : placement.stop.toNat ≤ placement.start.toNat
  · rw [if_pos (isEmpty_iff.mpr nothing), if_pos nothing]
  · rw [if_neg (mt isEmpty_iff.mp nothing), if_neg nothing,
      inside.toNat_lastBlock (Nat.not_le.mp nothing), inside.toNat_firstBlock]

/-- A block that begins inside the range has a location, computed without wrapping. -/
theorem Inside.location_eq (inside : placement.Inside) {block : UInt64}
    (begins : block.toNat * placement.blockSize.toNat < placement.stop.toNat) :
    placement.location? block = some (placement.location block) ∧
      (placement.location block).offset.toNat = block.toNat * placement.blockSize.toNat ∧
      (placement.location block).length.toNat =
        min ((block.toNat + 1) * placement.blockSize.toNat) placement.fileEnd.toNat
          - block.toNat * placement.blockSize.toNat := by
  have within := inside.within
  have limit := toNat_le_maxOffset placement.fileEnd
  have fits : block.toNat * placement.blockSize.toNat ≤ maxOffset.toNat := by omega
  have offset := toNat_mul_of_le fits
  have stop : (min (saturatingAdd (block * placement.blockSize) placement.blockSize)
      placement.fileEnd).toNat =
        min ((block.toNat + 1) * placement.blockSize.toNat) placement.fileEnd.toNat := by
    rw [toNat_min, toNat_saturatingAdd, offset, Nat.add_mul, Nat.one_mul]
    omega
  have positive := inside.positive
  have below : (block * placement.blockSize).toNat ≤
      (min (saturatingAdd (block * placement.blockSize) placement.blockSize)
        placement.fileEnd).toNat := by
    rw [stop, offset, Nat.add_mul, Nat.one_mul]
    omega
  refine ⟨?_, offset, ?_⟩
  · simp only [location?, location, Checked.mul?, if_pos fits, Checked.sub?, Option.bind_eq_bind,
      Option.bind_some, if_pos below]
    rfl
  · simp only [location]
    rw [toNat_sub_of_toNat_le below, stop, offset]

/-- A block that the range touches begins inside it. -/
theorem Inside.begins_of_mem (inside : placement.Inside) {block : Nat}
    (touched : block ∈ List.range' placement.firstBlock.toNat placement.blockCount) :
    (UInt64.ofNat block).toNat = block ∧
      block * placement.blockSize.toNat < placement.stop.toNat := by
  rw [inside.blockCount_eq, inside.toNat_firstBlock, List.mem_range'_1, spanned] at touched
  by_cases nothing : placement.stop.toNat ≤ placement.start.toNat
  · rw [if_pos nothing] at touched
    omega
  rw [if_neg nothing] at touched
  have last : block ≤ (placement.stop.toNat - 1) / placement.blockSize.toNat := by omega
  have start := (Nat.le_div_iff_mul_le inside.positive).mp last
  have small := Nat.div_le_self (placement.stop.toNat - 1) placement.blockSize.toNat
  have limit := placement.stop.toNat_lt
  have word : block < 2 ^ 64 := by omega
  exact ⟨UInt64.toNat_ofNat_of_lt' word, by omega⟩

theorem Inside.location_eq_of_mem (inside : placement.Inside) {block : Nat}
    (touched : block ∈ List.range' placement.firstBlock.toNat placement.blockCount) :
    placement.location? (UInt64.ofNat block) = some (placement.location (UInt64.ofNat block)) ∧
      (placement.location (UInt64.ofNat block)).offset.toNat =
        block * placement.blockSize.toNat ∧
      (placement.location (UInt64.ofNat block)).length.toNat =
        min ((block + 1) * placement.blockSize.toNat) placement.fileEnd.toNat
          - block * placement.blockSize.toNat := by
  obtain ⟨word, begins⟩ := inside.begins_of_mem touched
  rw [← word] at begins
  simpa only [word] using inside.location_eq begins

theorem mapM_eq_some_map {α β : Type} {compute : α → Option β} {result : α → β} {inputs : List α}
    (each : ∀ input ∈ inputs, compute input = some (result input)) :
    inputs.mapM compute = some (inputs.map result) := by
  induction inputs with
  | nil => rfl
  | cons input rest ih =>
    have others := ih (fun other member => each other (List.mem_cons_of_mem _ member))
    rw [List.mapM_cons, each input List.mem_cons_self, others]
    rfl

/-- No step of the placement wraps. -/
theorem Inside.locations?_eq (inside : placement.Inside) :
    placement.locations? = some placement.locations := by
  rw [locations?]
  by_cases nothing : placement.isEmpty = true
  · rw [locations_of_isEmpty nothing, if_pos nothing]
    rfl
  rw [locations]
  have positive : 1 ≤ placement.stop.toNat := by
    have nonempty := mt isEmpty_iff.mpr nothing
    omega
  rw [if_neg nothing]
  simp only [Checked.sub?, UInt64.toNat_one, if_pos positive, Block.index?_eq,
    Option.bind_eq_bind, Option.bind_some]
  have count : (Block.index (placement.stop - 1) placement.blockSize).toNat + 1 -
      (Block.index placement.start placement.blockSize).toNat = placement.blockCount := by
    rw [blockCount, if_neg nothing]
    rfl
  rw [count]
  apply mapM_eq_some_map
  intro block touched
  exact (inside.location_eq_of_mem touched).1

/-- The list of the locations comes about if there is room for all of them. -/
theorem Inside.collect_eq (inside : placement.Inside) (memory : Nat) :
    placement.collect memory =
      let octets := spanned placement.blockSize.toNat placement.start.toNat placement.stop.toNat *
        locationSize
      if maxListSize < octets then .error .capacityOverflow
      else if memory < octets then .error (.outOfMemory octets)
      else .ok placement.locations := by
  rw [collect, listSize, inside.blockCount_eq]

/-- The locations of a range in natural numbers. -/
theorem Inside.locations_eq (inside : placement.Inside) :
    placement.locations.map (fun location =>
        (location.offset.toNat, location.length.toNat, location.hosts)) =
      (List.range' (placement.start.toNat / placement.blockSize.toNat)
        (spanned placement.blockSize.toNat placement.start.toNat placement.stop.toNat)).map
        (fun block => (block * placement.blockSize.toNat,
          min ((block + 1) * placement.blockSize.toNat) placement.fileEnd.toNat
            - block * placement.blockSize.toNat,
          placement.holders.hostsOf (UInt64.ofNat block) placement.placeholder)) := by
  rw [locations, List.map_map, ← inside.toNat_firstBlock, ← inside.blockCount_eq]
  refine List.map_congr_left ?_
  intro block touched
  obtain ⟨_, offset, length⟩ := inside.location_eq_of_mem touched
  simp only [Function.comp_apply, offset, length]
  rfl

end FileGateway.Placement
