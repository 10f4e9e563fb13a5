import FileGateway.Proofs.ExpiringCache.Entries

/-! Every state that a run reaches is consistent: no key is stored twice, no entry comes from
the future, and there are at most as many entries as there are places. -/
namespace FileGateway.ExpiringCache
variable {κ ν : Type}

structure Consistent (state : Timed κ ν) : Prop where
  positive : ∀ capacity, state.cache.capacity = some capacity → 0 < capacity
  bounded : ∀ capacity, state.cache.capacity = some capacity →
    state.cache.entries.length ≤ capacity
  distinct : (state.cache.entries.map Entry.key).Nodup
  past : ∀ entry ∈ state.cache.entries, entry.inserted ≤ state.now

theorem consistent_ofLimits (now capacity lifetime : Nat) :
    Consistent (κ := κ) (ν := ν) ⟨now, ofLimits capacity lifetime⟩ := by
  refine ⟨?_, fun _ _ => Nat.zero_le _, .nil, fun _ stored => nomatch stored⟩
  intro places limit
  simp only [ofLimits, Option.ite_none_left_eq_some, Option.some.injEq] at limit
  omega

theorem Consistent.of_sublist {state : Timed κ ν} (consistent : Consistent state)
    {next : ExpiringCache κ ν} (capacity : next.capacity = state.cache.capacity)
    (sublist : next.entries.Sublist state.cache.entries) : Consistent ⟨state.now, next⟩ where
  positive places limit := consistent.positive places (capacity ▸ limit)
  bounded places limit :=
    Nat.le_trans sublist.length_le (consistent.bounded places (capacity ▸ limit))
  distinct := consistent.distinct.sublist (sublist.map _)
  past entry stored := consistent.past entry (sublist.subset stored)

variable [DecidableEq κ]

theorem length_erase_lt_of_mem {cache : ExpiringCache κ ν} {entry : Entry κ ν}
    (stored : entry ∈ cache.entries) :
    (cache.erase entry.key).entries.length < cache.entries.length :=
  List.length_filter_lt_length_iff_exists.mpr ⟨entry, stored, by simp⟩

theorem distinct_erase_concat {cache : ExpiringCache κ ν}
    (distinct : (cache.entries.map Entry.key).Nodup) (removed : κ) {entry : Entry κ ν}
    (absent : ∀ other ∈ (cache.erase removed).entries, other.key ≠ entry.key) :
    (((cache.erase removed).entries ++ [entry]).map Entry.key).Nodup := by
  rw [List.map_append, List.map_singleton]
  refine List.Nodup.append ?_ (List.nodup_singleton _) ?_
  · exact distinct.sublist (List.filter_sublist.map _)
  · rw [List.disjoint_singleton]
    intro stored
    obtain ⟨other, member, same⟩ := List.mem_map.mp stored
    exact absent other member same

/-- An insert keeps the limits. -/
theorem insert_limits (cache : ExpiringCache κ ν) (now : Nat) (key : κ) (value : ν) :
    (cache.insert now key value).capacity = cache.capacity ∧
      (cache.insert now key value).lifetime = cache.lifetime := by
  simp only [insert]
  split
  · rw [evict]
    split <;> exact ⟨rfl, rfl⟩
  · exact ⟨rfl, rfl⟩

theorem isStale_insert (cache : ExpiringCache κ ν) (now instant : Nat) (key : κ) (value : ν)
    (entry : Entry κ ν) :
    (cache.insert now key value).isStale instant entry = cache.isStale instant entry := by
  rw [isStale, isStale, (cache.insert_limits now key value).2]

/-- A key without room is new, every place is taken, and one victim makes room. -/
theorem Consistent.insert_full {state : Timed κ ν} (consistent : Consistent state) {key : κ}
    (full : ¬ state.cache.HasRoom key) (value : ν) :
    (∀ entry ∈ state.cache.entries, entry.key ≠ key) ∧
      state.cache.capacity = some state.cache.entries.length ∧
      ∃ victim, state.cache.IsVictim state.now victim ∧
        (state.cache.insert state.now key value).entries =
          (state.cache.erase victim.key).entries ++ [⟨key, value, state.now⟩] := by
  have absent : ∀ entry ∈ state.cache.entries, entry.key ≠ key := by
    intro entry member same
    exact full (.inl ⟨entry, member, same⟩)
  have taken := mt Or.inr full
  simp only [not_forall, Nat.not_lt, exists_prop] at taken
  obtain ⟨capacity, limit, least⟩ := taken
  have most := consistent.bounded capacity limit
  have positive := consistent.positive capacity limit
  have fills : state.cache.entries.length = capacity := Nat.le_antisymm most least
  have stored : state.cache.entries ≠ [] := List.ne_nil_of_length_pos (by omega)
  exact ⟨absent, fills ▸ limit, insert_of_not_hasRoom stored full⟩

theorem HasRoom.length_erase_lt {state : Timed κ ν} (consistent : Consistent state) {key : κ}
    (room : state.cache.HasRoom key) {capacity : Nat}
    (limit : state.cache.capacity = some capacity) :
    (state.cache.erase key).entries.length < capacity := by
  rcases room with ⟨entry, stored, rfl⟩ | free
  · exact Nat.lt_of_lt_of_le (length_erase_lt_of_mem stored) (consistent.bounded capacity limit)
  · exact Nat.lt_of_le_of_lt (List.length_filter_le ..) (free capacity limit)

theorem Consistent.replace {state : Timed κ ν} (consistent : Consistent state) {removed key : κ}
    {value : ν} (absent : ∀ entry ∈ (state.cache.erase removed).entries, entry.key ≠ key)
    (room : ∀ capacity, state.cache.capacity = some capacity →
      (state.cache.erase removed).entries.length < capacity)
    {next : ExpiringCache κ ν} (capacity : next.capacity = state.cache.capacity)
    (entries : next.entries = (state.cache.erase removed).entries ++ [⟨key, value, state.now⟩]) :
    Consistent ⟨state.now, next⟩ where
  positive places limit := consistent.positive places (capacity ▸ limit)
  bounded places limit := by
    have fewer := room places (capacity ▸ limit)
    simp only [entries, List.length_append, List.length_singleton]
    omega
  distinct := by
    rw [entries]
    exact distinct_erase_concat consistent.distinct removed absent
  past := by
    intro entry stored
    rw [entries] at stored
    rcases List.mem_append.mp stored with kept | new
    · exact consistent.past entry (mem_erase.mp kept).1
    · exact Nat.le_of_eq (congrArg Entry.inserted (List.mem_singleton.mp new))

theorem consistent_insert {state : Timed κ ν} (consistent : Consistent state) (key : κ)
    (value : ν) : Consistent ⟨state.now, state.cache.insert state.now key value⟩ := by
  by_cases room : state.cache.HasRoom key
  · refine consistent.replace ?_ ?_ (insert_limits ..).1 (insert_of_hasRoom room)
    · exact fun entry kept => (mem_erase.mp kept).2
    · exact fun capacity limit => room.length_erase_lt consistent limit
  · obtain ⟨absent, limit, victim, chosen, entries⟩ := consistent.insert_full room value
    refine consistent.replace ?_ ?_ (insert_limits ..).1 entries
    · exact fun entry kept => absent entry (mem_erase.mp kept).1
    · intro capacity same
      rw [← Option.some.inj (limit.symm.trans same)]
      exact length_erase_lt_of_mem chosen.stored

theorem consistent_step {state : Timed κ ν} (consistent : Consistent state)
    (operation : Operation κ ν) : Consistent (step state operation).2 := by
  cases operation with
  | insert key value => exact consistent_insert consistent key value
  | get key =>
    have sheds := sheds_get consistent.distinct state.now key
    exact consistent.of_sublist sheds.capacity sheds.sublist
  | contains key =>
    have sheds := sheds_get consistent.distinct state.now key
    rw [← contains_snd] at sheds
    exact consistent.of_sublist sheds.capacity sheds.sublist
  | invalidate key => exact consistent.of_sublist rfl List.filter_sublist
  | clear => exact consistent.of_sublist rfl (List.nil_sublist _)
  | size => exact consistent.of_sublist rfl List.filter_sublist
  | isEmpty => exact consistent.of_sublist rfl List.filter_sublist
  | advance duration =>
    refine ⟨consistent.positive, consistent.bounded, consistent.distinct, ?_⟩
    intro entry stored
    exact Nat.le_trans (consistent.past entry stored) (Nat.le_add_right _ _)

theorem now_step (state : Timed κ ν) (operation : Operation κ ν) :
    (step state operation).2.now = state.now + operation.duration := by
  cases operation <;> rfl

/-- A lookup keeps the limits. -/
theorem get_limits (cache : ExpiringCache κ ν) (now : Nat) (key : κ) :
    (cache.get now key).2.capacity = cache.capacity ∧
      (cache.get now key).2.lifetime = cache.lifetime := by
  rw [get]
  split
  · split <;> exact ⟨rfl, rfl⟩
  · exact ⟨rfl, rfl⟩

theorem capacity_step (state : Timed κ ν) (operation : Operation κ ν) :
    (step state operation).2.cache.capacity = state.cache.capacity := by
  cases operation with
  | insert key value => exact (insert_limits ..).1
  | get key => exact (get_limits ..).1
  | contains key => exact (congrArg capacity (contains_snd ..)).trans (get_limits ..).1
  | _ => rfl

theorem lifetime_step (state : Timed κ ν) (operation : Operation κ ν) :
    (step state operation).2.cache.lifetime = state.cache.lifetime := by
  cases operation with
  | insert key value => exact (insert_limits ..).2
  | get key => exact (get_limits ..).2
  | contains key => exact (congrArg lifetime (contains_snd ..)).trans (get_limits ..).2
  | invalidate key => rfl
  | clear => rfl
  | size => rfl
  | isEmpty => rfl
  | advance duration => rfl

end FileGateway.ExpiringCache
