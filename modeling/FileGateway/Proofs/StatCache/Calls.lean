import FileGateway.Proofs.ExpiringCache.Lookup
import FileGateway.StatCache.Run

/-! What each call does to a cache of metadata. A request stores its answer, a mutation forgets the
paths that it names, and neither touches any other path. -/
namespace FileGateway.StatCache
variable {cache : StatCache} {network : Network} {now : Nat} {id : ClientId} {path : String}
  {entry : ExpiringCache.Entry String FileStat}

/-- A call of `stat` gives what a lookup finds. -/
theorem stat_of_cached {found : FileStat} (held : (cache.cached now path).1 = some found)
    (network : Network) (id : ClientId) :
    cache.stat network now id path = (.ok found, (cache.cached now path).2, network) := by
  simp only [cached, stat] at held ⊢
  generalize cache.stats.get now path = looked at held ⊢
  obtain ⟨known, stats⟩ := looked
  cases held
  rfl

/-- It makes a request if the lookup finds nothing. -/
theorem stat_of_not_cached (missed : (cache.cached now path).1 = none) (network : Network)
    (id : ClientId) :
    cache.stat network now id path = (cache.cached now path).2.fetch network now id path := by
  simp only [cached, stat] at missed ⊢
  generalize cache.stats.get now path = looked at missed ⊢
  obtain ⟨known, stats⟩ := looked
  cases missed
  rfl

/-- A lookup that finds something changes nothing. -/
theorem cached_snd_of_some {found : FileStat} (held : (cache.cached now path).1 = some found) :
    (cache.cached now path).2 = cache := by
  rw [cached, ExpiringCache.get] at held ⊢
  cases stored : cache.stats.find? path with
  | none => rfl
  | some entry =>
    simp only [stored] at held ⊢
    split
    · rename_i stale
      simp [stale] at held
    · rfl

/-- A lookup that finds nothing leaves nothing of the path. -/
theorem find?_cached_of_none (missed : (cache.cached now path).1 = none) :
    (cache.cached now path).2.stats.find? path = none :=
  cache.stats.find?_get_of_none missed

theorem cached_of_find?_eq_none (absent : cache.stats.find? path = none) (now : Nat) :
    (cache.cached now path).1 = none := by
  rw [cached, ExpiringCache.get, absent]

/-- What is not found at an instant is not found later. -/
theorem cached_eq_none_of_le {later : Nat} (missed : (cache.cached now path).1 = none)
    (passed : now ≤ later) : (cache.cached later path).1 = none := by
  rw [cached, ExpiringCache.get] at missed ⊢
  cases stored : cache.stats.find? path with
  | none => rfl
  | some entry =>
    simp only [stored] at missed ⊢
    split
    · rfl
    · rename_i fresh
      have before := ExpiringCache.isStale_eq_false_before (Bool.eq_false_iff.mpr fresh) passed
      simp [before] at missed

/-- A request stores what it was answered with, and a failure stores nothing. -/
theorem fetch_cases (cache : StatCache) (network : Network) (now : Nat) (id : ClientId)
    (path : String) :
    let performed := network.perform id (.getStat path)
    (∃ found, performed.1 = .ok found ∧ cache.fetch network now id path =
      (.ok found, ⟨cache.stats.insert now path found⟩, performed.2)) ∨
    ∃ failure, performed.1 = .error failure ∧ cache.fetch network now id path =
      (.error failure, cache, performed.2) := by
  rw [fetch]
  generalize network.perform id (.getStat path) = performed
  match performed with
  | (.ok found, next) => exact .inl ⟨found, rfl, rfl⟩
  | (.error failure, next) => exact .inr ⟨failure, rfl, rfl⟩

/-- A request gives what comes of it at the gateway, and changes the network accordingly. -/
theorem fetch_performs (cache : StatCache) (network : Network) (now : Nat) (id : ClientId)
    (path : String) :
    (cache.fetch network now id path).1 = (network.perform id (.getStat path)).1 ∧
      (cache.fetch network now id path).2.2 = (network.perform id (.getStat path)).2 := by
  rcases cache.fetch_cases network now id path with ⟨found, told, given⟩ | ⟨failure, told, given⟩
  · rw [given]
    exact ⟨told.symm, rfl⟩
  · rw [given]
    exact ⟨told.symm, rfl⟩

theorem fetch_of_error {failure : Failure}
    (failed : (cache.fetch network now id path).1 = .error failure) :
    (cache.fetch network now id path).2.1 = cache := by
  rcases cache.fetch_cases network now id path with ⟨found, _, given⟩ | ⟨cause, _, given⟩
  · rw [given] at failed
    contradiction
  · rw [given]

/-- A mutation that comes to an end forgets its paths. One that is given up does not. -/
theorem mutate_cases (cache : StatCache) (network : Network) (id : ClientId)
    (mutation : Mutation) :
    let performed := mutation.perform network id
    performed.1 = .error .cancelled ∧
        cache.mutate network id mutation = (performed.1, cache, performed.2) ∨
      performed.1 ≠ .error .cancelled ∧ cache.mutate network id mutation =
        (performed.1, mutation.paths.foldl invalidate cache, performed.2) := by
  rw [mutate]
  generalize mutation.perform network id = performed
  match performed with
  | (.ok _, next) => exact .inr ⟨nofun, rfl⟩
  | (.error .cancelled, next) => exact .inl ⟨rfl, rfl⟩
  | (.error (.error cause), next) => exact .inr ⟨nofun, rfl⟩

theorem mem_foldl_invalidate {paths : List String} :
    entry ∈ (paths.foldl invalidate cache).stats.entries ↔
      entry ∈ cache.stats.entries ∧ entry.key ∉ paths := by
  induction paths generalizing cache with
  | nil => simp
  | cons path rest ih =>
    have erased : entry ∈ (cache.invalidate path).stats.entries ↔
        entry ∈ cache.stats.entries ∧ entry.key ≠ path := ExpiringCache.mem_erase
    rw [List.foldl_cons, ih, erased, List.mem_cons, not_or, and_assoc]

theorem find?_foldl_invalidate_of_not_mem {paths : List String} (other : path ∉ paths) :
    (paths.foldl invalidate cache).stats.find? path = cache.stats.find? path := by
  induction paths generalizing cache with
  | nil => rfl
  | cons removed rest ih =>
    rw [List.mem_cons, not_or] at other
    rw [List.foldl_cons, ih other.2]
    exact cache.stats.find?_erase_of_ne other.1

theorem find?_mutate_of_not_mem (cache : StatCache) (network : Network) (id : ClientId)
    {mutation : Mutation} (other : path ∉ mutation.paths) :
    (cache.mutate network id mutation).2.1.stats.find? path = cache.stats.find? path := by
  rcases cache.mutate_cases network id mutation with ⟨_, given⟩ | ⟨_, given⟩
  · rw [given]
  · rw [given]
    exact find?_foldl_invalidate_of_not_mem other

theorem mem_of_mem_fetch
    (stored : entry ∈ (cache.fetch network now id path).2.1.stats.entries) :
    entry ∈ cache.stats.entries ∧
        (entry.key = path → ∀ found, (network.perform id (.getStat path)).1 ≠ .ok found) ∨
      entry.key = path ∧ (network.perform id (.getStat path)).1 = .ok entry.value ∧
        entry.inserted = now := by
  rcases cache.fetch_cases network now id path with ⟨found, told, given⟩ | ⟨failure, told, given⟩
  · rw [given] at stored
    rcases ExpiringCache.mem_of_mem_insert stored with ⟨former, other⟩ | rfl
    · exact .inl ⟨former, fun same => absurd same other⟩
    · exact .inr ⟨rfl, told, rfl⟩
  · rw [given] at stored
    refine .inl ⟨stored, fun _ found answered => ?_⟩
    rw [told] at answered
    contradiction

theorem mem_of_mem_cached (stored : entry ∈ (cache.cached now path).2.stats.entries) :
    entry ∈ cache.stats.entries :=
  ExpiringCache.mem_of_mem_get stored

/-- Of the calls of `stat`, only those that ask store anything. -/
theorem mem_of_mem_stat (stored : entry ∈ (cache.stat network now id path).2.1.stats.entries) :
    entry ∈ cache.stats.entries ∧
        ((cache.cached now path).1 = none → entry.key = path →
          ∀ found, (network.perform id (.getStat path)).1 ≠ .ok found) ∨
      (cache.cached now path).1 = none ∧ entry.key = path ∧
        (network.perform id (.getStat path)).1 = .ok entry.value ∧ entry.inserted = now := by
  cases held : (cache.cached now path).1 with
  | some found =>
    rw [stat_of_cached held] at stored
    exact .inl ⟨mem_of_mem_cached stored, nofun⟩
  | none =>
    rw [stat_of_not_cached held] at stored
    refine (mem_of_mem_fetch stored).imp ?_ (fun told => ⟨rfl, told⟩)
    exact fun ⟨former, untold⟩ => ⟨mem_of_mem_cached former, fun _ => untold⟩

/-- Of the paths that a mutation names, something is left only if the call was given up. -/
theorem mem_of_mem_mutate {mutation : Mutation}
    (stored : entry ∈ (cache.mutate network id mutation).2.1.stats.entries) :
    entry ∈ cache.stats.entries ∧
      (entry.key ∈ mutation.paths → (mutation.perform network id).1 = .error .cancelled) := by
  rcases cache.mutate_cases network id mutation with ⟨cancelled, given⟩ | ⟨_, given⟩
  · rw [given] at stored
    exact ⟨stored, fun _ => cancelled⟩
  · rw [given] at stored
    obtain ⟨former, other⟩ := mem_foldl_invalidate.mp stored
    exact ⟨former, fun named => absurd named other⟩

theorem lifetime_fetch (cache : StatCache) (network : Network) (now : Nat) (id : ClientId)
    (path : String) :
    (cache.fetch network now id path).2.1.stats.lifetime = cache.stats.lifetime := by
  rcases cache.fetch_cases network now id path with ⟨found, _, given⟩ | ⟨failure, _, given⟩
  · rw [given]
    exact (cache.stats.insert_limits now path found).2
  · rw [given]

theorem lifetime_cached (cache : StatCache) (now : Nat) (path : String) :
    (cache.cached now path).2.stats.lifetime = cache.stats.lifetime :=
  (cache.stats.get_limits now path).2

theorem lifetime_stat (cache : StatCache) (network : Network) (now : Nat) (id : ClientId)
    (path : String) :
    (cache.stat network now id path).2.1.stats.lifetime = cache.stats.lifetime := by
  have looked := cache.lifetime_cached now path
  cases held : (cache.cached now path).1 with
  | some found => rwa [stat_of_cached held]
  | none =>
    rw [stat_of_not_cached held, lifetime_fetch]
    exact looked

theorem lifetime_foldl_invalidate (cache : StatCache) (paths : List String) :
    (paths.foldl invalidate cache).stats.lifetime = cache.stats.lifetime := by
  induction paths generalizing cache with
  | nil => rfl
  | cons path rest ih => exact ih (cache.invalidate path)

theorem lifetime_mutate (cache : StatCache) (network : Network) (id : ClientId)
    (mutation : Mutation) :
    (cache.mutate network id mutation).2.1.stats.lifetime = cache.stats.lifetime := by
  rcases cache.mutate_cases network id mutation with ⟨_, given⟩ | ⟨_, given⟩
  · rw [given]
  · rw [given]
    exact cache.lifetime_foldl_invalidate mutation.paths

/-- A call that fails has looked in vain, and leaves nothing stored for its path. -/
theorem find?_stat_of_error {failure : Failure}
    (failed : (cache.stat network now id path).1 = .error failure) :
    (cache.stat network now id path).2.1.stats.find? path = none := by
  cases held : (cache.cached now path).1 with
  | some found =>
    rw [stat_of_cached held] at failed
    contradiction
  | none =>
    rw [stat_of_not_cached held] at failed ⊢
    rw [fetch_of_error failed]
    exact cache.stats.find?_get_of_none held

end FileGateway.StatCache
