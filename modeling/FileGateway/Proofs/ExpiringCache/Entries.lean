import Mathlib.Data.List.Induction
import Mathlib.Data.List.Nodup
import FileGateway.ExpiringCache.Run

/-! What each operation does to the entries of a cache. Lookups and counts shed expired
entries only, and an insert into a full cache removes one victim. -/
namespace FileGateway.ExpiringCache
variable {κ ν : Type}

theorem isStale_eq_false_iff {cache : ExpiringCache κ ν} {now : Nat} {entry : Entry κ ν} :
    cache.isStale now entry = false ↔
      ∀ lifetime, cache.lifetime = some lifetime → now - entry.inserted < lifetime := by
  cases limit : cache.lifetime with
  | none => simp [isStale, limit]
  | some lifetime => simp [isStale, limit]

theorem isStale_eq_false_of_le {cache : ExpiringCache κ ν} {now : Nat} {entry other : Entry κ ν}
    (fresh : cache.isStale now entry = false) (older : entry.inserted ≤ other.inserted) :
    cache.isStale now other = false := by
  rw [isStale_eq_false_iff] at fresh ⊢
  intro lifetime limit
  have young := fresh lifetime limit
  omega

theorem isStale_eq_false_before {cache : ExpiringCache κ ν} {now later : Nat} {entry : Entry κ ν}
    (fresh : cache.isStale later entry = false) (passed : now ≤ later) :
    cache.isStale now entry = false := by
  rw [isStale_eq_false_iff] at fresh ⊢
  intro lifetime limit
  have young := fresh lifetime limit
  omega

theorem isStale_ofLimits_iff {cache : ExpiringCache κ ν} {lifetime now : Nat}
    {entry : Entry κ ν}
    (limit : cache.lifetime = if lifetime = 0 then none else some lifetime) :
    cache.isStale now entry = false ↔ lifetime = 0 ∨ now - entry.inserted < lifetime := by
  rw [isStale_eq_false_iff, limit]
  by_cases unlimited : lifetime = 0
  · simp [unlimited]
  · simp [unlimited]

theorem oldest?_concat (entries : List (Entry κ ν)) (last : Entry κ ν) :
    oldest? (entries ++ [last]) =
      match oldest? entries with
      | none => some last
      | some found => if last.inserted < found.inserted then some last else some found :=
  List.foldl_concat ..

theorem eq_nil_of_oldest? {entries : List (Entry κ ν)} (absent : oldest? entries = none) :
    entries = [] := by
  induction entries using List.reverseRecOn with
  | nil => rfl
  | append_singleton entries last ih =>
    rw [oldest?_concat] at absent
    split at absent
    · contradiction
    · split at absent <;> contradiction

theorem oldest?_spec {entries : List (Entry κ ν)} {oldest : Entry κ ν}
    (found : oldest? entries = some oldest) :
    oldest ∈ entries ∧ ∀ entry ∈ entries, oldest.inserted ≤ entry.inserted := by
  induction entries using List.reverseRecOn generalizing oldest with
  | nil => contradiction
  | append_singleton entries last ih =>
    rw [oldest?_concat] at found
    split at found
    · rename_i absent
      cases found
      rw [eq_nil_of_oldest? absent]
      simp
    · rename_i former present
      obtain ⟨stored, least⟩ := ih present
      split at found
      · rename_i earlier
        cases found
        refine ⟨List.mem_concat_self, ?_⟩
        intro entry stored
        rcases List.mem_append.mp stored with stored | same
        · exact Nat.le_trans (Nat.le_of_lt earlier) (least entry stored)
        · exact Nat.le_of_eq (congrArg Entry.inserted (List.mem_singleton.mp same).symm)
      · rename_i notEarlier
        cases found
        refine ⟨List.mem_append_left _ stored, ?_⟩
        intro entry stored
        rcases List.mem_append.mp stored with stored | same
        · exact least entry stored
        · rw [List.mem_singleton.mp same]
          exact Nat.not_lt.mp notEarlier

/-- An entry that may be removed to make room: a fresh one only if it is the oldest and no
entry is stale. -/
structure IsVictim (cache : ExpiringCache κ ν) (now : Nat) (victim : Entry κ ν) : Prop where
  stored : victim ∈ cache.entries
  fresh : cache.isStale now victim = false → ∀ entry ∈ cache.entries,
    cache.isStale now entry = false ∧ victim.inserted ≤ entry.inserted

theorem isVictim_of_victim? {cache : ExpiringCache κ ν} {now : Nat} {victim : Entry κ ν}
    (chosen : cache.victim? now = some victim) : cache.IsVictim now victim := by
  rw [victim?, Option.or_eq_some_iff] at chosen
  rcases chosen with stale | ⟨noStale, oldest⟩
  · refine ⟨List.mem_of_find?_eq_some stale, ?_⟩
    intro fresh
    have expired : cache.isStale now victim = true := List.find?_some stale
    rw [fresh] at expired
    contradiction
  · obtain ⟨stored, least⟩ := oldest?_spec oldest
    refine ⟨stored, fun _ entry member => ⟨?_, least entry member⟩⟩
    exact Bool.eq_false_iff.mpr (List.find?_eq_none.mp noStale entry member)

theorem eq_nil_of_victim? {cache : ExpiringCache κ ν} {now : Nat}
    (absent : cache.victim? now = none) : cache.entries = [] :=
  eq_nil_of_oldest? (Option.or_eq_none_iff.mp absent).2

variable [DecidableEq κ]

theorem mem_erase {cache : ExpiringCache κ ν} {key : κ} {entry : Entry κ ν} :
    entry ∈ (cache.erase key).entries ↔ entry ∈ cache.entries ∧ entry.key ≠ key := by
  simp only [erase, List.mem_filter, decide_eq_true_eq]

theorem mem_erase_concat {cache : ExpiringCache κ ν} {removed : κ}
    {entry other : Entry κ ν} :
    entry ∈ (cache.erase removed).entries ++ [other] ↔
      entry ∈ cache.entries ∧ entry.key ≠ removed ∨ entry = other := by
  rw [List.mem_append, mem_erase, List.mem_singleton]

theorem find?_eq_none_iff {cache : ExpiringCache κ ν} {key : κ} :
    cache.find? key = none ↔ ∀ entry ∈ cache.entries, entry.key ≠ key := by
  simp only [find?, List.find?_eq_none, decide_eq_true_eq, ne_eq]

theorem find?_eq_some_iff {cache : ExpiringCache κ ν}
    (distinct : (cache.entries.map Entry.key).Nodup) {key : κ} {entry : Entry κ ν} :
    cache.find? key = some entry ↔ entry ∈ cache.entries ∧ entry.key = key := by
  constructor
  · intro found
    exact ⟨List.mem_of_find?_eq_some found, of_decide_eq_true (List.find?_some found :)⟩
  · rintro ⟨stored, same⟩
    cases found : cache.find? key with
    | none => exact absurd same (find?_eq_none_iff.mp found entry stored)
    | some other =>
      have otherSame : other.key = key := of_decide_eq_true (List.find?_some found :)
      rw [List.inj_on_of_nodup_map distinct (List.mem_of_find?_eq_some found) stored
        (otherSame.trans same.symm)]

theorem get_eq_some_iff {cache : ExpiringCache κ ν}
    (distinct : (cache.entries.map Entry.key).Nodup) {now : Nat} {key : κ} {value : ν} :
    (cache.get now key).1 = some value ↔
      ∃ entry ∈ cache.entries, entry.key = key ∧ entry.value = value ∧
        cache.isStale now entry = false := by
  cases found : cache.find? key with
  | none =>
    simp only [get, found, reduceCtorEq, false_iff]
    rintro ⟨entry, stored, same, _⟩
    exact find?_eq_none_iff.mp found entry stored same
  | some entry =>
    have unique : ∀ other ∈ cache.entries, other.key = key → other = entry := by
      intro other stored same
      exact Option.some.inj (((find?_eq_some_iff distinct).mpr ⟨stored, same⟩).symm.trans found)
    obtain ⟨stored, same⟩ := (find?_eq_some_iff distinct).mp found
    simp only [get, found]
    split
    · rename_i stale
      simp only [reduceCtorEq, false_iff]
      rintro ⟨other, otherStored, otherSame, _, fresh⟩
      rw [unique other otherStored otherSame, stale] at fresh
      contradiction
    · rename_i fresh
      simp only [Option.some.injEq]
      constructor
      · rintro rfl
        exact ⟨entry, stored, same, rfl, Bool.eq_false_iff.mpr fresh⟩
      · rintro ⟨other, otherStored, otherSame, sameValue, _⟩
        rw [← sameValue, unique other otherStored otherSame]

/-- Whether an insert of a key needs no victim. -/
def HasRoom (cache : ExpiringCache κ ν) (key : κ) : Prop :=
  (∃ entry ∈ cache.entries, entry.key = key) ∨
    ∀ capacity, cache.capacity = some capacity → cache.entries.length < capacity

omit [DecidableEq κ] in
theorem isFull_eq_false_iff {cache : ExpiringCache κ ν} :
    cache.isFull = false ↔
      ∀ capacity, cache.capacity = some capacity → cache.entries.length < capacity := by
  cases limit : cache.capacity with
  | none => simp [isFull, limit]
  | some capacity => simp [isFull, limit]

theorem hasRoom_iff {cache : ExpiringCache κ ν} {key : κ} :
    cache.HasRoom key ↔ ¬ ((cache.find? key).isNone ∧ cache.isFull) := by
  rw [HasRoom, not_and_or, Option.isNone_iff_eq_none, find?_eq_none_iff, ← isFull_eq_false_iff,
    Bool.not_eq_true]
  simp only [ne_eq, not_forall, not_not, exists_prop]

theorem insert_of_hasRoom {cache : ExpiringCache κ ν} {now : Nat} {key : κ} {value : ν}
    (room : cache.HasRoom key) :
    (cache.insert now key value).entries = (cache.erase key).entries ++ [⟨key, value, now⟩] := by
  simp only [insert, if_neg (hasRoom_iff.mp room)]

/-- A new key in a full cache takes the place of one victim. -/
theorem insert_of_not_hasRoom {cache : ExpiringCache κ ν} {now : Nat} {key : κ} {value : ν}
    (stored : cache.entries ≠ []) (full : ¬ cache.HasRoom key) :
    ∃ victim, cache.IsVictim now victim ∧
      (cache.insert now key value).entries =
        (cache.erase victim.key).entries ++ [⟨key, value, now⟩] := by
  have absent : ∀ entry ∈ cache.entries, entry.key ≠ key := by
    intro entry member same
    exact full (.inl ⟨entry, member, same⟩)
  cases chosen : cache.victim? now with
  | none => exact absurd (eq_nil_of_victim? chosen) stored
  | some victim =>
    refine ⟨victim, isVictim_of_victim? chosen, ?_⟩
    have others : ((cache.erase victim.key).erase key).entries =
        (cache.erase victim.key).entries := by
      refine List.filter_eq_self.mpr ?_
      intro entry member
      exact decide_eq_true (absent entry (mem_erase.mp member).1)
    simp only [insert, if_pos (not_not.mp (mt hasRoom_iff.mpr full)), evict, chosen, others]

omit [DecidableEq κ] in
/-- What is left of a cache when some of its stale entries are dropped. -/
structure Sheds (now : Nat) (cache next : ExpiringCache κ ν) : Prop where
  capacity : next.capacity = cache.capacity
  lifetime : next.lifetime = cache.lifetime
  sublist : next.entries.Sublist cache.entries
  fresh : ∀ entry ∈ cache.entries, cache.isStale now entry = false → entry ∈ next.entries

omit [DecidableEq κ] in
theorem Sheds.refl (now : Nat) (cache : ExpiringCache κ ν) : Sheds now cache cache :=
  ⟨rfl, rfl, .refl _, fun _ stored _ => stored⟩

theorem sheds_erase {cache : ExpiringCache κ ν}
    (distinct : (cache.entries.map Entry.key).Nodup) {now : Nat} {key : κ} {entry : Entry κ ν}
    (found : cache.find? key = some entry) (stale : cache.isStale now entry = true) :
    Sheds now cache (cache.erase key) := by
  refine ⟨rfl, rfl, List.filter_sublist, ?_⟩
  intro other stored fresh
  refine mem_erase.mpr ⟨stored, ?_⟩
  intro same
  have again := (find?_eq_some_iff distinct).mpr ⟨stored, same⟩
  rw [Option.some.inj (found.symm.trans again), fresh] at stale
  contradiction

theorem sheds_get {cache : ExpiringCache κ ν} (distinct : (cache.entries.map Entry.key).Nodup)
    (now : Nat) (key : κ) : Sheds now cache (cache.get now key).2 := by
  rw [get]
  split
  · rename_i entry found
    split
    · rename_i stale
      exact sheds_erase distinct found stale
    · exact Sheds.refl now cache
  · exact Sheds.refl now cache

theorem contains_snd (cache : ExpiringCache κ ν) (now : Nat) (key : κ) :
    (cache.contains now key).2 = (cache.get now key).2 := by
  cases found : cache.find? key with
  | none => simp only [contains, get, found]
  | some entry =>
    simp only [contains, get, found]
    split <;> rfl

omit [DecidableEq κ] in
theorem sheds_compact (cache : ExpiringCache κ ν) (now : Nat) :
    Sheds now cache (cache.compact now) := by
  refine ⟨rfl, rfl, List.filter_sublist, ?_⟩
  intro entry stored fresh
  exact List.mem_filter.mpr ⟨stored, by rw [fresh]; rfl⟩

end FileGateway.ExpiringCache
