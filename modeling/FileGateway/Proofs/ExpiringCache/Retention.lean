import FileGateway.Proofs.ExpiringCache.Course
import FileGateway.Proofs.ExpiringCache.History

/-! What a bounded cache has kept is told by the history of inserts alone. Of the last inserts
of all keys, those that are fresh and have fewer other keys inserted after them than there
are places are stored, in spite of the stale entries that take places as well. -/
namespace FileGateway.ExpiringCache
variable {κ ν : Type} [DecidableEq κ] {history : List (Entry κ ν)} {entry other : Entry κ ν}

/-- The entries that are stored are last inserts, and of the fresh last inserts those with
too many keys after them are missing. -/
structure Retained (capacity : Nat) (history : List (Entry κ ν)) (state : Timed κ ν) : Prop where
  consistent : Consistent state
  limit : state.cache.capacity = some capacity
  past : ∀ entry ∈ history, entry.inserted ≤ state.now
  last : ∀ entry ∈ state.cache.entries, IsLast history entry
  kept : ∀ entry, IsLast history entry → state.cache.isStale state.now entry = false →
    (entry ∈ state.cache.entries ↔ (newerKeys history entry).card < capacity)

theorem retained_ofLimits (now lifetime : Nat) {capacity : Nat} (positive : 0 < capacity) :
    Retained (κ := κ) (ν := ν) capacity [] ⟨now, ofLimits capacity lifetime⟩ where
  consistent := consistent_ofLimits now capacity lifetime
  limit := if_neg (Nat.ne_of_gt positive)
  past _ inserted := nomatch inserted
  last _ stored := nomatch stored
  kept _ last := nomatch last.inserted

/-- Keys that are stored fit into the places. -/
theorem card_le_length {cache : ExpiringCache κ ν} {keys : Finset κ}
    (stored : ∀ key ∈ keys, ∃ entry ∈ cache.entries, entry.key = key) :
    keys.card ≤ cache.entries.length := by
  have subset : keys ⊆ (cache.entries.map Entry.key).toFinset := by
    intro key member
    exact List.mem_toFinset.mpr (List.mem_map.mpr (stored key member))
  calc keys.card ≤ (cache.entries.map Entry.key).toFinset.card := Finset.card_le_card subset
    _ ≤ (cache.entries.map Entry.key).length := List.toFinset_card_le _
    _ = cache.entries.length := List.length_map _

namespace Retained
variable {capacity : Nat} {state : Timed κ ν}

/-- All that was inserted after a fresh stored entry is stored. -/
theorem newer_stored (retained : Retained capacity history state)
    (stored : entry ∈ state.cache.entries)
    (fresh : state.cache.isStale state.now entry = false) :
    ∀ key ∈ newerKeys history entry, ∃ newer ∈ state.cache.entries, newer.key = key := by
  intro key member
  obtain ⟨newer, inserted, later, same⟩ := mem_newerKeys.mp member
  obtain ⟨last, isLast, lastSame, bound⟩ := exists_isLast inserted
  -- The last insert of the key is fresher than the entry and has fewer keys after it.
  have after : entry.inserted ≤ last.inserted := by omega
  have fewer : (newerKeys history last).card ≤ (newerKeys history entry).card :=
    Finset.card_le_card (newerKeys_subset after)
  have small := (retained.kept entry (retained.last entry stored) fresh).mp stored
  refine ⟨last, ?_, lastSame.trans same⟩
  exact (retained.kept last isLast (isStale_eq_false_of_le fresh after)).mpr (by omega)

theorem card_newerKeys_lt (retained : Retained capacity history state)
    (stored : entry ∈ state.cache.entries)
    (fresh : state.cache.isStale state.now entry = false) :
    (newerKeys history entry).card < state.cache.entries.length := by
  have own := (retained.last entry stored).key_notMem_newerKeys (Nat.le_refl _)
  rw [← Nat.add_one_le_iff, ← Finset.card_insert_of_notMem own]
  apply card_le_length
  intro key member
  rcases Finset.mem_insert.mp member with rfl | newer
  · exact ⟨entry, stored, rfl⟩
  · exact retained.newer_stored stored fresh key newer

/-- A stored entry that is not newer takes one place more. -/
theorem card_newerKeys_beside (retained : Retained capacity history state)
    (stored : entry ∈ state.cache.entries)
    (fresh : state.cache.isStale state.now entry = false)
    (beside : other ∈ state.cache.entries) (distinct : other.key ≠ entry.key)
    (notNewer : other.key ∉ newerKeys history entry) :
    (newerKeys history entry).card + 1 < state.cache.entries.length := by
  have own := (retained.last entry stored).key_notMem_newerKeys (Nat.le_refl _)
  have another : other.key ∉ Insert.insert entry.key (newerKeys history entry) :=
    mt Finset.mem_insert.mp (not_or.mpr ⟨distinct, notNewer⟩)
  rw [← Nat.add_one_le_iff, ← Finset.card_insert_of_notMem own,
    ← Finset.card_insert_of_notMem another]
  apply card_le_length
  intro key member
  rcases Finset.mem_insert.mp member with rfl | member
  · exact ⟨other, beside, rfl⟩
  rcases Finset.mem_insert.mp member with rfl | newer
  · exact ⟨entry, stored, rfl⟩
  · exact retained.newer_stored stored fresh key newer

theorem length_le_of_oldest (retained : Retained capacity history state)
    (instants : (history.map Entry.inserted).Nodup) (stored : entry ∈ state.cache.entries)
    (oldest : ∀ other ∈ state.cache.entries, entry.inserted ≤ other.inserted) :
    state.cache.entries.length ≤ (newerKeys history entry).card + 1 := by
  have subset : (state.cache.entries.map Entry.key).toFinset ⊆
      Insert.insert entry.key (newerKeys history entry) := by
    intro key member
    obtain ⟨other, present, rfl⟩ := List.mem_map.mp (List.mem_toFinset.mp member)
    have inserted := (retained.last other present).inserted
    rcases Nat.eq_or_lt_of_le (oldest other present) with same | later
    · rw [List.inj_on_of_nodup_map instants (retained.last entry stored).inserted inserted same]
      exact Finset.mem_insert_self _ _
    · exact Finset.mem_insert_of_mem (mem_newerKeys.mpr ⟨other, inserted, later, rfl⟩)
  calc state.cache.entries.length
      = (state.cache.entries.map Entry.key).toFinset.card := by
        rw [List.toFinset_card_of_nodup retained.consistent.distinct, List.length_map]
    _ ≤ (Insert.insert entry.key (newerKeys history entry)).card := Finset.card_le_card subset
    _ ≤ (newerKeys history entry).card + 1 := Finset.card_insert_le _ _

theorem victim_notMem_newerKeys (retained : Retained capacity history state)
    {victim : Entry κ ν} (chosen : state.cache.IsVictim state.now victim)
    (stored : entry ∈ state.cache.entries)
    (fresh : state.cache.isStale state.now entry = false) :
    victim.key ∉ newerKeys history entry := by
  apply (retained.last victim chosen.stored).key_notMem_newerKeys
  by_contra newer
  have victimFresh := isStale_eq_false_of_le fresh (Nat.le_of_lt (Nat.not_le.mp newer))
  exact newer (chosen.fresh victimFresh entry stored).2

/-- With room for a key, the entries of the others stay, and they had a place to spare. -/
theorem kept_of_hasRoom (retained : Retained capacity history state) (last : IsLast history entry)
    (fresh : state.cache.isStale state.now entry = false) {key : κ}
    (distinct : entry.key ≠ key) (room : state.cache.HasRoom key) :
    entry ∈ state.cache.entries ↔
      (Insert.insert key (newerKeys history entry)).card < capacity := by
  by_cases newer : key ∈ newerKeys history entry
  · rw [Finset.insert_eq_of_mem newer]
    exact retained.kept entry last fresh
  rw [Finset.card_insert_of_notMem newer]
  constructor
  · intro stored
    rcases room with ⟨other, present, rfl⟩ | free
    · have places := retained.consistent.bounded capacity retained.limit
      have beside := retained.card_newerKeys_beside stored fresh present distinct.symm newer
      omega
    · have places := free capacity retained.limit
      have taken := retained.card_newerKeys_lt stored fresh
      omega
  · intro fewer
    exact (retained.kept entry last fresh).mpr (by omega)

/-- Without room for a key, the victim is a stale entry or the one that has to go. -/
theorem kept_of_victim (retained : Retained capacity history state)
    (instants : (history.map Entry.inserted).Nodup) (last : IsLast history entry)
    (fresh : state.cache.isStale state.now entry = false) {key : κ}
    (absent : ∀ entry ∈ state.cache.entries, entry.key ≠ key)
    (fills : state.cache.entries.length = capacity) {victim : Entry κ ν}
    (chosen : state.cache.IsVictim state.now victim) :
    entry ∈ state.cache.entries ∧ entry.key ≠ victim.key ↔
      (Insert.insert key (newerKeys history entry)).card < capacity := by
  by_cases newer : key ∈ newerKeys history entry
  · rw [Finset.insert_eq_of_mem newer, ← retained.kept entry last fresh]
    have missing : entry ∉ state.cache.entries := by
      intro stored
      obtain ⟨other, present, same⟩ := retained.newer_stored stored fresh key newer
      exact absent other present same
    exact ⟨fun remains => remains.1, fun stored => absurd stored missing⟩
  rw [Finset.card_insert_of_notMem newer]
  constructor
  · rintro ⟨stored, distinct⟩
    have notNewer := retained.victim_notMem_newerKeys chosen stored fresh
    have beside := retained.card_newerKeys_beside stored fresh chosen.stored distinct.symm notNewer
    omega
  · intro fewer
    have stored := (retained.kept entry last fresh).mpr (by omega)
    refine ⟨stored, ?_⟩
    intro same
    -- A fresh victim is the oldest of a full cache, which leaves no place to spare.
    have own : entry = victim :=
      List.inj_on_of_nodup_map retained.consistent.distinct stored chosen.stored same
    subst own
    have oldest : ∀ other ∈ state.cache.entries, entry.inserted ≤ other.inserted :=
      fun other present => (chosen.fresh fresh other present).2
    have few := retained.length_le_of_oldest instants stored oldest
    omega

/-- In both cases an insert removes one key, and the entries of the others stand in front of
the new one. -/
theorem exists_removed (retained : Retained capacity history state)
    (instants : (history.map Entry.inserted).Nodup) (key : κ) (value : ν) :
    ∃ removed : κ,
      (state.cache.insert state.now key value).entries =
        (state.cache.erase removed).entries ++ [⟨key, value, state.now⟩] ∧
      (∀ entry ∈ state.cache.entries, entry.key ≠ removed → entry.key ≠ key) ∧
      ∀ entry, IsLast history entry → state.cache.isStale state.now entry = false →
        entry.key ≠ key → (entry ∈ state.cache.entries ∧ entry.key ≠ removed ↔
          (Insert.insert key (newerKeys history entry)).card < capacity) := by
  by_cases room : state.cache.HasRoom key
  · refine ⟨key, insert_of_hasRoom room, fun _ _ distinct => distinct, ?_⟩
    intro entry last fresh distinct
    rw [← retained.kept_of_hasRoom last fresh distinct room]
    exact and_iff_left distinct
  · obtain ⟨absent, limit, victim, chosen, entries⟩ := retained.consistent.insert_full room value
    have fills := Option.some.inj (limit.symm.trans retained.limit)
    refine ⟨victim.key, entries, fun entry stored _ => absent entry stored, ?_⟩
    intro entry last fresh _
    exact retained.kept_of_victim instants last fresh absent fills chosen

end Retained

variable {capacity : Nat} {state : Timed κ ν}

theorem retained_insert (retained : Retained capacity history state) {key : κ} {value : ν}
    (instants :
      ((history ++ [(⟨key, value, state.now⟩ : Entry κ ν)]).map Entry.inserted).Nodup) :
    Retained capacity (history ++ [⟨key, value, state.now⟩])
      ⟨state.now, state.cache.insert state.now key value⟩ := by
  have strict := inserted_lt_of_nodup retained.past instants rfl
  have former : (history.map Entry.inserted).Nodup :=
    instants.sublist ((List.sublist_append_left ..).map _)
  obtain ⟨removed, entries, renewed, others⟩ := retained.exists_removed former key value
  refine ⟨consistent_insert retained.consistent key value,
    (insert_limits ..).1.trans retained.limit, ?_, ?_, ?_⟩
  · intro entry inserted
    rcases List.mem_append.mp inserted with earlier | new
    · exact retained.past entry earlier
    · exact Nat.le_of_eq (congrArg Entry.inserted (List.mem_singleton.mp new))
  · intro entry stored
    rw [entries, mem_erase_concat] at stored
    rw [isLast_concat_iff strict]
    rcases stored with ⟨present, distinct⟩ | new
    · exact .inr ⟨retained.last entry present, renewed entry present distinct⟩
    · exact .inl new
  · intro entry last fresh
    rw [isStale_insert] at fresh
    rw [entries, mem_erase_concat]
    rcases (isLast_concat_iff strict).mp last with rfl | ⟨earlier, distinct⟩
    · rw [newerKeys_concat_self strict]
      exact iff_of_true (.inr rfl) (retained.consistent.positive capacity retained.limit)
    · -- An older entry of another key has one more key after it, unless that key was there.
      rw [newerKeys_concat (strict entry earlier.inserted), ← others entry earlier fresh distinct]
      exact or_iff_left (fun same => distinct (congrArg Entry.key same))

theorem retained_sheds (retained : Retained capacity history state) {next : ExpiringCache κ ν}
    (sheds : Sheds state.now state.cache next) : Retained capacity history ⟨state.now, next⟩ := by
  refine ⟨retained.consistent.of_sublist sheds.capacity sheds.sublist,
    sheds.capacity.trans retained.limit, retained.past, ?_, ?_⟩
  · exact fun entry stored => retained.last entry (sheds.sublist.subset stored)
  · intro entry last fresh
    have same : state.cache.isStale state.now entry = false := by
      rwa [isStale, sheds.lifetime, ← isStale] at fresh
    rw [← retained.kept entry last same]
    exact ⟨fun stored => sheds.sublist.subset stored, fun stored => sheds.fresh entry stored same⟩

theorem retained_advance (retained : Retained capacity history state) (duration : Nat) :
    Retained capacity history { state with now := state.now + duration } where
  consistent := consistent_step retained.consistent (.advance duration)
  limit := retained.limit
  past entry inserted := Nat.le_trans (retained.past entry inserted) (Nat.le_add_right ..)
  last := retained.last
  kept entry last fresh :=
    retained.kept entry last (isStale_eq_false_before fresh (Nat.le_add_right ..))

theorem retained_step (retained : Retained capacity history state) {operation : Operation κ ν}
    (keeps : operation.removes = false)
    (instants : ((history ++ operation.inserted state.now).map Entry.inserted).Nodup) :
    Retained capacity (history ++ operation.inserted state.now) (step state operation).2 := by
  cases operation with
  | insert key value => exact retained_insert retained instants
  | get key =>
    rw [Operation.inserted, List.append_nil]
    exact retained_sheds retained (sheds_get retained.consistent.distinct state.now key)
  | contains key =>
    have sheds := sheds_get retained.consistent.distinct state.now key
    rw [← contains_snd] at sheds
    rw [Operation.inserted, List.append_nil]
    exact retained_sheds retained sheds
  | invalidate key => contradiction
  | clear => contradiction
  | size =>
    rw [Operation.inserted, List.append_nil]
    exact retained_sheds retained (sheds_compact state.cache state.now)
  | isEmpty =>
    rw [Operation.inserted, List.append_nil]
    exact retained_sheds retained (sheds_compact state.cache state.now)
  | advance duration =>
    rw [Operation.inserted, List.append_nil]
    exact retained_advance retained duration

theorem Retained.relist (retained : Retained capacity history state)
    {entries : List (Entry κ ν)} (same : entries.Perm state.cache.entries) :
    Retained capacity history { state with cache := { state.cache with entries } } where
  consistent := retained.consistent.relist same
  limit := retained.limit
  past := retained.past
  last entry stored := retained.last entry (same.subset stored)
  kept entry last fresh := same.mem_iff.trans (retained.kept entry last fresh)

theorem retained_course {operations : List (Operation κ ν)} {answers : List (Answer ν)}
    {reached : Timed κ ν} (course : Course state operations answers reached)
    (retained : Retained capacity history state)
    (keeps : ∀ operation ∈ operations, operation.removes = false)
    (instants : ((history ++ inserts state.now operations).map Entry.inserted).Nodup) :
    Retained capacity (history ++ inserts state.now operations) reached := by
  induction course generalizing history with
  | refl state =>
    rw [inserts, List.append_nil]
    exact retained
  | @step state _ operation rest _ _ ih =>
    rw [inserts, ← List.append_assoc, ← now_step state operation] at instants ⊢
    have next := retained_step retained (keeps operation List.mem_cons_self)
      (instants.sublist ((List.sublist_append_left ..).map _))
    exact ih next (fun other member => keeps other (List.mem_cons_of_mem _ member)) instants
  | relist same _ ih => exact ih (retained.relist same) keeps instants

/-- Whichever entries had to go where several could, a key has a value exactly when it was
inserted, the last insert has not expired, and fewer different keys were inserted after it than
there are places. -/
theorem get_run_eq_some_iff {capacity : Nat} (positive : 0 < capacity) {lifetime start : Nat}
    {operations : List (Operation κ ν)} {answers : List (Answer ν)} {reached : Timed κ ν}
    (course : Course ⟨start, ofLimits capacity lifetime⟩ operations answers reached)
    (keeps : ∀ operation ∈ operations, operation.removes = false)
    (instants : ((inserts start operations).map Entry.inserted).Nodup) (key : κ) (value : ν) :
    (reached.cache.get reached.now key).1 = some value ↔
      ∃ before instant after,
        inserts start operations = before ++ ⟨key, value, instant⟩ :: after ∧
        (∀ entry ∈ after, entry.key ≠ key) ∧
        (lifetime = 0 ∨ reached.now - instant < lifetime) ∧
        (after.map Entry.key).toFinset.card < capacity := by
  have retained : Retained capacity (inserts start operations) reached :=
    retained_course course (retained_ofLimits start lifetime positive) keeps instants
  have order := chronological_inserts instants
  have expiry : ∀ entry, reached.cache.isStale reached.now entry = false ↔
      lifetime = 0 ∨ reached.now - entry.inserted < lifetime :=
    fun _ => isStale_ofLimits_iff course.lifetime_eq
  rw [get_eq_some_iff retained.consistent.distinct]
  constructor
  · rintro ⟨⟨_, _, instant⟩, stored, rfl, rfl, fresh⟩
    have last := retained.last _ stored
    obtain ⟨before, after, split, others⟩ := last.exists_split order
    have few := (retained.kept _ last fresh).mp stored
    rw [split] at order few
    rw [newerKeys_split order] at few
    exact ⟨before, instant, after, split, others, (expiry _).mp fresh, few⟩
  · rintro ⟨before, instant, after, split, others, young, few⟩
    rw [split] at order retained
    have fresh : reached.cache.isStale reached.now ⟨key, value, instant⟩ = false :=
      (expiry _).mpr young
    refine ⟨⟨key, value, instant⟩, ?_, rfl, rfl, fresh⟩
    rw [retained.kept _ (isLast_of_split order others) fresh, newerKeys_split order]
    exact few

/-- The renewed key outlasts the one that was first inserted after it. -/
theorem get_run_eq_some_iff_renewed :
    let reached := (run ⟨0, ofLimits 2 10⟩ [.insert 1 10, .advance 3, .insert 2 20, .advance 3,
      .insert 1 11, .advance 3, .insert 3 30, .contains 2, .size]).2
    (reached.cache.get reached.now 1).1 = some 11 :=
  (get_run_eq_some_iff (by decide) (course_run ⟨0, ofLimits 2 10⟩ _) (by decide) (by decide) 1
    11).mpr
    ⟨[⟨1, 10, 0⟩, ⟨2, 20, 3⟩], 6, [⟨3, 30, 9⟩], rfl, by decide, .inr (by decide), by decide⟩

end FileGateway.ExpiringCache
