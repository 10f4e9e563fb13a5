import FileGateway.Proofs.Block.Placement

/-! The locations of a range tile it. No byte of the range is left out or lies in two of them, no
location lies beside the range, and one ends where the next begins. -/
namespace FileGateway

namespace BlockLocation

/-- The offset behind the last byte. -/
def stop (location : BlockLocation) : Nat := location.offset.toNat + location.length.toNat

def covers (location : BlockLocation) (byte : Nat) : Bool :=
  location.offset.toNat ≤ byte ∧ byte < location.stop

end BlockLocation

namespace Placement

/-- The indices of the blocks that the range touches. -/
def blocks (placement : Placement) : List Nat :=
  List.range' placement.firstBlock.toNat placement.blockCount

/-- What the location of a block occupies of the file, which is some of the range. -/
structure Places (placement : Placement) (block : Nat) (location : BlockLocation) : Prop where
  offset : location.offset.toNat = block * placement.blockSize.toNat
  stop : location.stop = min ((block + 1) * placement.blockSize.toNat) placement.fileEnd.toNat
  begins : block * placement.blockSize.toNat < placement.stop.toNat
  ends : placement.start.toNat < (block + 1) * placement.blockSize.toNat

variable {placement : Placement}

theorem Inside.mem_blocks_iff (inside : placement.Inside)
    (nonempty : placement.start.toNat < placement.stop.toNat) {block : Nat} :
    block ∈ placement.blocks ↔
      placement.start.toNat / placement.blockSize.toNat ≤ block ∧
        block ≤ (placement.stop.toNat - 1) / placement.blockSize.toNat := by
  have ordered : placement.start.toNat / placement.blockSize.toNat ≤
      (placement.stop.toNat - 1) / placement.blockSize.toNat :=
    Nat.div_le_div_right (by omega)
  rw [blocks, inside.blockCount_eq, inside.toNat_firstBlock, List.mem_range'_1, spanned,
    if_neg (Nat.not_le.mpr nonempty)]
  omega

theorem nonempty_of_mem_blocks {block : Nat} (touched : block ∈ placement.blocks) :
    placement.start.toNat < placement.stop.toNat := by
  by_contra nothing
  rw [blocks, blockCount, if_pos (isEmpty_iff.mpr (Nat.le_of_not_lt nothing))] at touched
  contradiction

theorem Inside.places_of_mem (inside : placement.Inside) {block : Nat}
    (touched : block ∈ placement.blocks) :
    placement.Places block (placement.location (UInt64.ofNat block)) := by
  obtain ⟨_, begins⟩ := inside.begins_of_mem touched
  obtain ⟨_, offset, length⟩ := inside.location_eq_of_mem touched
  refine ⟨offset, ?_, begins, ?_⟩
  · have within := inside.within
    rw [BlockLocation.stop, offset, length, Nat.add_mul, Nat.one_mul]
    omega
  · have nonempty := nonempty_of_mem_blocks touched
    have first := ((inside.mem_blocks_iff nonempty).mp touched).1
    exact (Nat.div_lt_iff_lt_mul inside.positive).mp (Nat.lt_succ_of_le first)

theorem Inside.covers_iff (inside : placement.Inside) {block byte : Nat}
    {location : BlockLocation} (places : placement.Places block location)
    (before : byte < placement.stop.toNat) :
    location.covers byte = true ↔ block = byte / placement.blockSize.toNat := by
  have within := inside.within
  rw [BlockLocation.covers, decide_eq_true_eq, places.offset, places.stop, Nat.lt_min,
    ← Nat.le_div_iff_mul_le inside.positive, ← Nat.div_lt_iff_lt_mul inside.positive]
  omega

theorem Inside.mem_blocks_of_between (inside : placement.Inside) {byte : Nat}
    (after : placement.start.toNat ≤ byte) (before : byte < placement.stop.toNat) :
    byte / placement.blockSize.toNat ∈ placement.blocks := by
  rw [inside.mem_blocks_iff (Nat.lt_of_le_of_lt after before)]
  exact ⟨Nat.div_le_div_right after, Nat.div_le_div_right (by omega)⟩

/-- A byte of the range lies in the location of its block and in no other. -/
theorem Inside.filter_covers (inside : placement.Inside) {byte : Nat}
    (after : placement.start.toNat ≤ byte) (before : byte < placement.stop.toNat) :
    placement.locations.filter (·.covers byte) =
      [placement.location (UInt64.ofNat (byte / placement.blockSize.toNat))] := by
  have once : placement.blocks.count (byte / placement.blockSize.toNat) = 1 :=
    List.count_eq_one_of_mem List.nodup_range' (inside.mem_blocks_of_between after before)
  have covering : placement.blocks.filter
      (fun block => (placement.location (UInt64.ofNat block)).covers byte) =
        placement.blocks.filter (· == byte / placement.blockSize.toNat) := by
    apply List.filter_congr
    intro block member
    rw [Bool.eq_iff_iff, inside.covers_iff (inside.places_of_mem member) before, beq_iff_eq]
  have mapped : placement.locations =
      placement.blocks.map (fun block => placement.location (UInt64.ofNat block)) := rfl
  rw [mapped, List.filter_map, Function.comp_def, covering, List.filter_beq, once]
  rfl

/-- A location lies in one block and in the file, and holds some of the range. -/
theorem Inside.bounds (inside : placement.Inside) {location : BlockLocation}
    (located : location ∈ placement.locations) :
    (∃ byte, placement.start.toNat ≤ byte ∧ byte < placement.stop.toNat ∧
      location.covers byte = true) ∧
    1 ≤ location.length.toNat ∧ location.length.toNat ≤ placement.blockSize.toNat ∧
    placement.blockSize.toNat ∣ location.offset.toNat ∧
    location.stop ≤ placement.fileEnd.toNat := by
  obtain ⟨block, touched, rfl⟩ := List.mem_map.mp located
  have nonempty := nonempty_of_mem_blocks touched
  have places := inside.places_of_mem touched
  have offset := places.offset
  have stop := places.stop
  have begins := places.begins
  have ends := places.ends
  have positive := inside.positive
  have within := inside.within
  rw [BlockLocation.stop] at stop ⊢
  rw [Nat.add_mul, Nat.one_mul] at stop ends
  refine ⟨?_, by omega, by omega, ?_, by omega⟩
  · refine ⟨max placement.start.toNat (block * placement.blockSize.toNat), Nat.le_max_left ..,
      by omega, ?_⟩
    rw [BlockLocation.covers, BlockLocation.stop, decide_eq_true_eq]
    omega
  · rw [offset]
    exact Nat.dvd_mul_left ..

/-- One location ends where the next begins, and is as long as a block. -/
theorem Inside.adjoining (inside : placement.Inside) :
    placement.locations.IsChain (fun location next =>
      location.length = placement.blockSize ∧ location.stop = next.offset.toNat) := by
  have within := inside.within
  rw [locations, List.isChain_map]
  refine (List.isChain_range' ..).imp_of_mem_imp ?_
  intro block next touched touched' follows
  subst follows
  have places := inside.places_of_mem touched
  have begins := (inside.places_of_mem touched').begins
  have offset := places.offset
  have stop := places.stop
  have whole : (placement.location (UInt64.ofNat block)).stop =
      (block + 1) * placement.blockSize.toNat := by omega
  refine ⟨UInt64.toNat_inj.mp ?_, whole.trans (inside.places_of_mem touched').offset.symm⟩
  rw [BlockLocation.stop, offset, Nat.add_mul, Nat.one_mul] at whole
  omega

/-- A range of a file is tiled by its locations. Every byte of the range lies in exactly one, that
of its block. Each of them holds some of the range, lies in the file, begins at a multiple of the
block size and is no longer than a block. Each but the last is as long as a block and ends where the
next begins. No word operation wraps, also where the last block goes beyond the greatest offset. The
list of them comes back unless it would be larger than lists may be or than the machine has room
for. -/
theorem locations_tile (placement : Placement) (positive : 0 < placement.blockSize)
    (within : placement.stop ≤ placement.fileEnd) :
    (placement.stop ≤ placement.start → placement.locations = []) ∧
    (∀ byte, placement.start.toNat ≤ byte → byte < placement.stop.toNat →
      ∃ location, placement.locations.filter (·.covers byte) = [location] ∧
        location.offset.toNat = byte / placement.blockSize.toNat * placement.blockSize.toNat) ∧
    (∀ location ∈ placement.locations,
      (∃ byte, placement.start.toNat ≤ byte ∧ byte < placement.stop.toNat ∧
        location.covers byte = true) ∧
      1 ≤ location.length.toNat ∧ location.length.toNat ≤ placement.blockSize.toNat ∧
      placement.blockSize.toNat ∣ location.offset.toNat ∧
      location.stop ≤ placement.fileEnd.toNat) ∧
    placement.locations.IsChain (fun location next =>
      location.length = placement.blockSize ∧ location.stop = next.offset.toNat) ∧
    placement.locations? = some placement.locations ∧
    ∀ memory,
      let octets := spanned placement.blockSize.toNat placement.start.toNat placement.stop.toNat *
        locationSize
      placement.collect memory =
        if maxListSize < octets then .error .capacityOverflow
        else if memory < octets then .error (.outOfMemory octets)
        else .ok placement.locations := by
  have inside : placement.Inside :=
    ⟨UInt64.lt_iff_toNat_lt.mp positive, UInt64.le_iff_toNat_le.mp within⟩
  refine ⟨?_, ?_, fun _ => inside.bounds, inside.adjoining, inside.locations?_eq,
    inside.collect_eq⟩
  · intro nothing
    exact locations_of_isEmpty (decide_eq_true nothing)
  · intro byte after before
    have touched := inside.mem_blocks_of_between after before
    exact ⟨_, inside.filter_covers after before, (inside.places_of_mem touched).offset⟩

/-- The last blocks of four bytes that there are, of which the very last is cut short. -/
def topmost : Placement where
  holders := {}
  start := 0xFFFFFFFFFFFFFFF9
  stop := 0xFFFFFFFFFFFFFFFF
  fileEnd := 0xFFFFFFFFFFFFFFFF
  blockSize := 4
  placeholder := "localhost"

theorem locations_tile_topmost :
    topmost.locations? = some topmost.locations ∧
      topmost.collect 80 = .ok topmost.locations ∧
      ∃ location, topmost.locations.filter (·.covers 0xFFFFFFFFFFFFFFFE) = [location] ∧
        location.offset.toNat = 0xFFFFFFFFFFFFFFFC := by
  obtain ⟨-, covered, -, -, unwrapped, collected⟩ := locations_tile topmost (by decide) (by decide)
  exact ⟨unwrapped, collected 80, covered 0xFFFFFFFFFFFFFFFE (by decide) (by decide)⟩

end Placement
end FileGateway
