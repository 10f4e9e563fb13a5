import FileGateway.Proofs.ExpiringCache.Consistent

/-! What a lookup finds after an entry was erased or inserted: an operation on one key leaves the
entries of all others alone. -/
namespace FileGateway.ExpiringCache
variable {κ ν : Type} [DecidableEq κ]

theorem mem_of_find? {cache : ExpiringCache κ ν} {key : κ} {entry : Entry κ ν}
    (found : cache.find? key = some entry) : entry ∈ cache.entries ∧ entry.key = key :=
  ⟨List.mem_of_find?_eq_some found, of_decide_eq_true (List.find?_some found :)⟩

@[simp]
theorem find?_erase_self (cache : ExpiringCache κ ν) (key : κ) :
    (cache.erase key).find? key = none :=
  find?_eq_none_iff.mpr (fun _ kept => (mem_erase.mp kept).2)

theorem find?_erase_of_ne (cache : ExpiringCache κ ν) {removed key : κ} (other : key ≠ removed) :
    (cache.erase removed).find? key = cache.find? key := by
  rw [find?, erase, List.find?_filter]
  congr 1
  funext entry
  by_cases same : entry.key = key
  · simp [same, other]
  · simp [same]

/-- Without an entry there is nothing to erase. -/
theorem erase_of_find?_eq_none {cache : ExpiringCache κ ν} {key : κ}
    (absent : cache.find? key = none) : cache.erase key = cache := by
  have kept : cache.entries.filter (fun entry => entry.key ≠ key) = cache.entries :=
    List.filter_eq_self.mpr
      (fun entry stored => decide_eq_true (find?_eq_none_iff.mp absent entry stored))
  rw [erase, kept]

@[simp]
theorem erase_erase (cache : ExpiringCache κ ν) (key : κ) :
    (cache.erase key).erase key = cache.erase key :=
  erase_of_find?_eq_none (find?_erase_self cache key)

/-- An entry that takes the place of another is found by its key, and the rest by theirs. -/
theorem find?_erase_concat {cache : ExpiringCache κ ν} {removed : κ} {entry : Entry κ ν}
    (absent : ∀ other ∈ (cache.erase removed).entries, other.key ≠ entry.key)
    {next : ExpiringCache κ ν} (entries : next.entries = (cache.erase removed).entries ++ [entry])
    (key : κ) :
    next.find? key = if key = entry.key then some entry else (cache.erase removed).find? key := by
  have kept : (cache.erase removed).entries.find? (fun entry => entry.key = key) =
      (cache.erase removed).find? key := rfl
  rw [find?, entries, List.find?_append, kept]
  by_cases same : key = entry.key
  · rw [find?_eq_none_iff.mpr (same ▸ absent)]
    simp [same]
  · have other : ¬ entry.key = key := fun here => same here.symm
    simp [same, other]

theorem find?_insert_self {cache : ExpiringCache κ ν} {key : κ} (room : cache.HasRoom key)
    (now : Nat) (value : ν) :
    (cache.insert now key value).find? key = some ⟨key, value, now⟩ := by
  have absent : ∀ entry ∈ (cache.erase key).entries, entry.key ≠ key :=
    fun _ kept => (mem_erase.mp kept).2
  rw [find?_erase_concat absent (insert_of_hasRoom room), if_pos rfl]

theorem find?_insert_of_ne {cache : ExpiringCache κ ν} {added key : κ}
    (room : cache.HasRoom added) (other : key ≠ added) (now : Nat) (value : ν) :
    (cache.insert now added value).find? key = cache.find? key := by
  have absent : ∀ entry ∈ (cache.erase added).entries, entry.key ≠ added :=
    fun _ kept => (mem_erase.mp kept).2
  rw [find?_erase_concat absent (insert_of_hasRoom room), if_neg other,
    find?_erase_of_ne _ other]

theorem mem_of_mem_insert {cache : ExpiringCache κ ν} {now : Nat} {key : κ} {value : ν}
    {entry : Entry κ ν} (stored : entry ∈ (cache.insert now key value).entries) :
    entry ∈ cache.entries ∧ entry.key ≠ key ∨ entry = ⟨key, value, now⟩ := by
  simp only [insert, mem_erase_concat] at stored
  refine stored.imp_left (fun former => ⟨?_, former.2⟩)
  have kept := former.1
  split at kept
  · rw [evict] at kept
    split at kept
    · exact (mem_erase.mp kept).1
    · exact kept
  · exact kept

theorem mem_insert_self (cache : ExpiringCache κ ν) (now : Nat) (key : κ) (value : ν) :
    ⟨key, value, now⟩ ∈ (cache.insert now key value).entries :=
  List.mem_concat_self

theorem mem_of_mem_get {cache : ExpiringCache κ ν} {now : Nat} {key : κ} {entry : Entry κ ν}
    (stored : entry ∈ (cache.get now key).2.entries) : entry ∈ cache.entries := by
  rw [get] at stored
  split at stored
  · split at stored
    · exact (mem_erase.mp stored).1
    · exact stored
  · exact stored

/-- A lookup that gives nothing leaves nothing. -/
theorem find?_get_of_none (cache : ExpiringCache κ ν) {now : Nat} {key : κ}
    (missed : (cache.get now key).1 = none) : (cache.get now key).2.find? key = none := by
  rw [get] at missed ⊢
  split
  · rename_i entry found
    rw [found] at missed
    split
    · exact find?_erase_self cache key
    · rename_i fresh
      simp only [fresh] at missed
      contradiction
  · rename_i absent
    exact absent

/-- What a lookup gives is stored and has not expired. -/
theorem exists_fresh_of_get {cache : ExpiringCache κ ν} {now : Nat} {key : κ} {value : ν}
    (given : (cache.get now key).1 = some value) :
    ∃ instant, ⟨key, value, instant⟩ ∈ cache.entries ∧
      cache.isStale now ⟨key, value, instant⟩ = false := by
  rw [get] at given
  split at given
  · rename_i entry found
    split at given
    · contradiction
    · rename_i fresh
      cases given
      obtain ⟨stored, rfl⟩ := mem_of_find? found
      exact ⟨entry.inserted, stored, Bool.eq_false_iff.mpr fresh⟩
  · contradiction

end FileGateway.ExpiringCache
