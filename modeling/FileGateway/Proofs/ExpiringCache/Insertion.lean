import FileGateway.Proofs.ExpiringCache.Course
import FileGateway.Proofs.ExpiringCache.Lookup

/-! An insert changes what one key holds and removes at most one other entry. That happens only in
a full cache without the key, and to an expired entry if there is one and to an oldest one if there
is none. Where several entries may go, nothing is said about which of them does. -/
namespace FileGateway.ExpiringCache
variable {κ ν : Type} [DecidableEq κ]

variable {state : Timed κ ν} {cache : ExpiringCache κ ν} {key : κ}

omit [DecidableEq κ] in
theorem Consistent.later (consistent : Consistent state) {now : Nat} (later : state.now ≤ now) :
    Consistent ⟨now, state.cache⟩ where
  positive := consistent.positive
  bounded := consistent.bounded
  distinct := consistent.distinct
  past entry stored := Nat.le_trans (consistent.past entry stored) later

/-- What an insert into a full cache does for a key that it does not hold. -/
theorem Consistent.exists_evicted (consistent : Consistent state) (full : ¬ state.cache.HasRoom key)
    (value : ν) :
    ∃ victim, state.cache.IsVictim state.now victim ∧
      state.cache.find? victim.key = some victim ∧ victim.key ≠ key ∧
      ∀ other, (state.cache.insert state.now key value).find? other =
        if other = key then some ⟨key, value, state.now⟩
        else if other = victim.key then none
        else state.cache.find? other := by
  obtain ⟨absent, _, victim, chosen, entries⟩ := consistent.insert_full full value
  refine ⟨victim, chosen, ?_, absent victim chosen.stored, ?_⟩
  · exact (find?_eq_some_iff consistent.distinct).mpr ⟨chosen.stored, rfl⟩
  intro other
  have erased : ∀ entry ∈ (state.cache.erase victim.key).entries, entry.key ≠ key :=
    fun entry kept => absent entry (mem_erase.mp kept).1
  rw [find?_erase_concat erased entries]
  by_cases gone : other = victim.key
  · rw [gone, find?_erase_self, if_pos rfl]
  · rw [find?_erase_of_ne _ gone, if_neg gone]

theorem Consistent.find?_insert_self (consistent : Consistent state) (key : κ) (value : ν) :
    (state.cache.insert state.now key value).find? key = some ⟨key, value, state.now⟩ :=
  (find?_eq_some_iff (consistent_insert consistent key value).distinct).mpr
    ⟨mem_insert_self .., rfl⟩

/-- From one cache to the next at most one other key loses its entry, and only to make room for the
key where it had no entry and every place was taken. -/
def SparesOthers (before after : ExpiringCache κ ν) (key : κ) : Prop :=
  (∀ other, other ≠ key → after.find? other = before.find? other) ∨
    before.find? key = none ∧ before.isFull = true ∧
      ∃ lost, lost ≠ key ∧ after.find? lost = none ∧
        ∀ other, other ≠ key → other ≠ lost → after.find? other = before.find? other

theorem Consistent.sparesOthers {state : Timed κ ν} (consistent : Consistent state) (key : κ)
    (value : ν) :
    SparesOthers state.cache ((state.cache.erase key).insert state.now key value) key := by
  have erased : Consistent ⟨state.now, state.cache.erase key⟩ :=
    consistent.of_sublist rfl List.filter_sublist
  by_cases room : (state.cache.erase key).HasRoom key
  · left
    intro other apart
    rw [find?_insert_of_ne room apart, find?_erase_of_ne _ apart]
  -- an entry of the key would have left its place
  have absent : state.cache.find? key = none := by
    cases found : state.cache.find? key with
    | none => rfl
    | some entry =>
      obtain ⟨stored, rfl⟩ := mem_of_find? found
      have filled : state.cache.capacity = some (state.cache.erase entry.key).entries.length :=
        (erased.insert_full room value).2.1
      have most := consistent.bounded _ filled
      have fewer := length_erase_lt_of_mem stored
      omega
  obtain ⟨victim, _, _, apart, others⟩ := erased.exists_evicted room value
  have full := (not_not.mp (mt hasRoom_iff.mpr room)).2
  rw [erase_of_find?_eq_none absent] at others full
  refine .inr ⟨absent, full, victim.key, apart, ?_, ?_⟩
  · rw [erase_of_find?_eq_none absent, others, if_neg apart, if_pos rfl]
  · intro other new kept
    rw [erase_of_find?_eq_none absent, others, if_neg new, if_neg kept]

/-- After an insert at any later time there are no more entries than places, and the key has the
value and the time. A cache that has the key or a free place keeps all other entries as they are.
Any other cache loses one entry and keeps the rest: a stale one if there is any, and otherwise one
of the oldest. -/
theorem insert_evicts_one {capacity lifetime start : Nat} (positive : 0 < capacity)
    (reachable : Reachable ⟨start, ofLimits capacity lifetime⟩ state) {now : Nat}
    (later : state.now ≤ now) (key : κ) (value : ν) :
    let before := state.cache
    let after := before.insert now key value
    let roomy := (before.find? key).isSome = true ∨ before.entries.length < capacity
    (after.entries.map Entry.key).Nodup ∧ after.entries.length ≤ capacity ∧
    after.find? key = some ⟨key, value, now⟩ ∧
    (roomy → ∀ other, other ≠ key → after.find? other = before.find? other) ∧
    (¬ roomy → ∃ victim, victim.key ≠ key ∧ before.find? victim.key = some victim ∧
      after.find? victim.key = none ∧
      (∀ other, other ≠ key → other ≠ victim.key → after.find? other = before.find? other) ∧
      ((∃ entry ∈ before.entries, before.isStale now entry = true) →
        before.isStale now victim = true) ∧
      ((∀ entry ∈ before.entries, before.isStale now entry = false) →
        ∀ entry ∈ before.entries, victim.inserted ≤ entry.inserted)) := by
  intro before after roomy
  have consistent : Consistent ⟨now, before⟩ :=
    (reachable.consistent (consistent_ofLimits start capacity lifetime)).later later
  have inserted := consistent_insert consistent key value
  have limit : before.capacity = some capacity :=
    reachable.capacity_eq.trans (if_neg (Nat.ne_of_gt positive))
  have room : before.HasRoom key ↔ roomy := by
    simp only [HasRoom, roomy, Option.isSome_iff_exists, find?_eq_some_iff consistent.distinct,
      limit, Option.some.injEq, forall_eq']
  refine ⟨inserted.distinct, ?_, consistent.find?_insert_self key value, ?_, ?_⟩
  · exact inserted.bounded capacity ((insert_limits ..).1.trans limit)
  · intro roomy other apart
    exact find?_insert_of_ne (room.mpr roomy) apart now value
  · intro full
    obtain ⟨victim, chosen, found, apart, others⟩ :=
      consistent.exists_evicted (mt room.mp full) value
    refine ⟨victim, apart, found, ?_, ?_, ?_, ?_⟩
    · rw [others, if_neg apart, if_pos rfl]
    · intro other new kept
      rw [others, if_neg new, if_neg kept]
    · rintro ⟨entry, stored, stale⟩
      by_contra fresh
      have all := (chosen.fresh (Bool.eq_false_iff.mpr fresh) entry stored).1
      rw [stale] at all
      contradiction
    · intro fresh entry stored
      exact (chosen.fresh (fresh victim chosen.stored) entry stored).2

/-- A full cache with one expired entry, after a renewal and a removal. -/
theorem insert_evicts_one_expired :
    let state := (run ⟨0, ofLimits 2 10⟩ [.insert 1 10, .advance 3, .insert 2 20, .insert 1 11,
      .advance 5, .invalidate 1, .insert 3 30]).2
    ∃ victim, state.cache.find? victim.key = some victim ∧
      state.cache.isStale 14 victim = true ∧
      (state.cache.insert 14 4 40).find? victim.key = none ∧
      (state.cache.insert 14 4 40).find? 4 = some ⟨4, 40, 14⟩ := by
  intro state
  have reachable : Reachable ⟨0, ofLimits 2 10⟩ state := reachable_run _ _
  obtain ⟨-, -, stored, -, evicts⟩ :=
    insert_evicts_one (by decide) reachable (show state.now ≤ 14 by decide) 4 40
  obtain ⟨victim, -, found, gone, -, stale, -⟩ := evicts (by decide)
  exact ⟨victim, found, stale (by decide), gone, stored⟩

end FileGateway.ExpiringCache
