import FileGateway.Proofs.ExpiringCache.Compaction
import FileGateway.Proofs.ExpiringCache.Course
import FileGateway.Proofs.ExpiringCache.Lookup

/-! A cache never gives a value that was replaced, removed or has expired, whatever was evicted or
dropped in between, and a cache without a greatest size gives every other. -/
namespace FileGateway.ExpiringCache
variable {κ ν : Type} [DecidableEq κ]

/-- Whether an operation decides anew what a key holds. Lookups and counts never do. -/
def Operation.supersedes (key : κ) : Operation κ ν → Bool
  | insert other _ | invalidate other => other = key
  | clear => true
  | get _ | contains _ | size | isEmpty | advance _ => false

/-- The last insert of a key gave it the value, the key was not removed since, and the insert has
not expired. -/
def IsCurrent (initial : Timed κ ν) (lifetime : Nat) (operations : List (Operation κ ν)) (key : κ)
    (value : ν) : Prop :=
  ∃ before after, operations = before ++ .insert key value :: after ∧
    (∀ operation ∈ after, operation.supersedes key = false) ∧
    (lifetime = 0 ∨
      (run initial operations).2.now - (run initial before).2.now < lifetime)

/-- An entry that is stored after an operation was stored before it and is not superseded, or the
operation inserted it. -/
theorem mem_of_mem_step {state : Timed κ ν} {operation : Operation κ ν} {entry : Entry κ ν}
    (stored : entry ∈ (step state operation).2.cache.entries) :
    entry ∈ state.cache.entries ∧ ¬ operation.supersedes entry.key = true ∨
      operation = .insert entry.key entry.value ∧ entry.inserted = state.now := by
  cases operation with
  | insert key value =>
    rcases mem_of_mem_insert stored with ⟨former, other⟩ | rfl
    · exact .inl ⟨former, by simpa [Operation.supersedes] using other.symm⟩
    · exact .inr ⟨rfl, rfl⟩
  | get key => exact .inl ⟨mem_of_mem_get stored, Bool.false_ne_true⟩
  | contains key =>
    have looked : entry ∈ (state.cache.contains state.now key).2.entries := stored
    rw [contains_snd] at looked
    exact .inl ⟨mem_of_mem_get looked, Bool.false_ne_true⟩
  | invalidate key =>
    obtain ⟨former, other⟩ := mem_erase.mp stored
    exact .inl ⟨former, by simpa [Operation.supersedes] using other.symm⟩
  | clear => exact absurd stored List.not_mem_nil
  | size => exact .inl ⟨(mem_compact.mp stored).1, Bool.false_ne_true⟩
  | isEmpty => exact .inl ⟨(mem_compact.mp stored).1, Bool.false_ne_true⟩
  | advance duration => exact .inl ⟨stored, Bool.false_ne_true⟩

/-- Without a greatest size, an entry stays until it is superseded or expires. -/
theorem mem_step_of_mem {state : Timed κ ν} (consistent : Consistent state)
    (unlimited : state.cache.capacity = none) {operation : Operation κ ν} {entry : Entry κ ν}
    (stored : entry ∈ state.cache.entries) (kept : operation.supersedes entry.key = false)
    (fresh : state.cache.isStale state.now entry = false) :
    entry ∈ (step state operation).2.cache.entries := by
  have looked := sheds_get consistent.distinct state.now
  cases operation with
  | insert key value =>
    have room : state.cache.HasRoom key := .inr (fun _ limit => by simp [unlimited] at limit)
    have other : ¬ key = entry.key := by simpa [Operation.supersedes] using kept
    have entries : (step state (.insert key value)).2.cache.entries =
        (state.cache.erase key).entries ++ [⟨key, value, state.now⟩] := insert_of_hasRoom room
    rw [entries, mem_erase_concat]
    exact .inl ⟨stored, Ne.symm other⟩
  | get key => exact (looked key).fresh entry stored fresh
  | contains key =>
    have shed := looked key
    rw [← contains_snd] at shed
    exact shed.fresh entry stored fresh
  | invalidate key =>
    have other : ¬ key = entry.key := by simpa [Operation.supersedes] using kept
    exact mem_erase.mpr ⟨stored, Ne.symm other⟩
  | clear => contradiction
  | size => exact mem_compact.mpr ⟨stored, fresh⟩
  | isEmpty => exact mem_compact.mpr ⟨stored, fresh⟩
  | advance duration => exact stored

namespace Course
variable {state last : Timed κ ν} {operations : List (Operation κ ν)} {answers : List (Answer ν)}
  {entry : Entry κ ν} {key : κ} {value : ν}

/-- Without a greatest size, an entry that has not expired in the end is there if nothing has
superseded it. -/
theorem mem_of_mem (course : Course state operations answers last) (consistent : Consistent state)
    (unlimited : state.cache.capacity = none) (stored : entry ∈ state.cache.entries)
    (kept : ∀ operation ∈ operations, operation.supersedes entry.key = false)
    (fresh : state.cache.isStale last.now entry = false) : entry ∈ last.cache.entries := by
  induction course with
  | refl => exact stored
  | @step state last operation rest answers course ih =>
    rw [List.forall_mem_cons] at kept
    have passed : state.now ≤ last.now := by
      rw [course.now_eq]
      exact now_le_run state (operation :: rest)
    have next := mem_step_of_mem consistent unlimited stored kept.1
      (isStale_eq_false_before fresh passed)
    have same : (ExpiringCache.step state operation).2.cache.isStale = state.cache.isStale :=
      isStale_congr (lifetime_step state operation)
    refine ih (consistent_step consistent operation)
      ((capacity_step state operation).trans unlimited) next kept.2 ?_
    exact (congrFun (congrFun same _) entry).trans fresh
  | relist same _ ih =>
    exact ih (consistent.relist same) unlimited (same.symm.subset stored) kept fresh

/-- An insert that nothing has superseded is there in the end unless it has expired. -/
theorem mem_of_insert {after : List (Operation κ ν)}
    (course : Course state (.insert key value :: after) answers last)
    (consistent : Consistent state) (unlimited : state.cache.capacity = none)
    (kept : ∀ operation ∈ after, operation.supersedes key = false)
    (fresh : state.cache.isStale last.now ⟨key, value, state.now⟩ = false) :
    ⟨key, value, state.now⟩ ∈ last.cache.entries := by
  generalize begun : Operation.insert key value :: after = operations at course
  induction course with
  | refl => contradiction
  | @step state last operation rest answers course ih =>
    cases begun
    refine course.mem_of_mem (consistent_step consistent _)
      ((capacity_step ..).trans unlimited) (mem_insert_self ..) kept ?_
    rwa [isStale_congr (lifetime_step state (.insert key value))]
  | relist same _ ih => exact ih (consistent.relist same) unlimited fresh begun

/-- A course of two lists of operations is two courses. -/
theorem split {before after : List (Operation κ ν)}
    (course : Course state (before ++ after) answers last) :
    ∃ given later middle, Course state before given middle ∧ Course middle after later last := by
  generalize whole : before ++ after = operations at course
  induction course generalizing before with
  | refl state =>
    obtain ⟨rfl, rfl⟩ := List.append_eq_nil_iff.mp whole
    exact ⟨[], [], state, .refl state, .refl state⟩
  | @step state last operation rest answers course ih =>
    cases before with
    | nil => exact ⟨[], _, state, .refl state, whole ▸ course.step operation⟩
    | cons first before =>
      rw [List.cons_append, List.cons.injEq] at whole
      obtain ⟨rfl, whole⟩ := whole
      obtain ⟨given, later, middle, former, latter⟩ := ih whole
      exact ⟨_, later, middle, former.step first, latter⟩
  | relist same _ ih =>
    obtain ⟨given, later, middle, former, latter⟩ := ih whole
    exact ⟨given, later, middle, former.relist same, latter⟩

/-- What is stored in the end was stored in the beginning and is not superseded, or it was inserted
on the way, at the time that it is stored with, and was not superseded since. -/
theorem exists_insert_of_mem (course : Course state operations answers last)
    (stored : entry ∈ last.cache.entries) :
    entry ∈ state.cache.entries ∧
        (∀ operation ∈ operations, operation.supersedes entry.key = false) ∨
      ∃ before after, operations = before ++ .insert entry.key entry.value :: after ∧
        (∀ operation ∈ after, operation.supersedes entry.key = false) ∧
        entry.inserted = (run state before).2.now := by
  induction course with
  | refl => exact .inl ⟨stored, nofun⟩
  | step operation _ ih =>
    rcases ih stored with ⟨former, untouched⟩ | ⟨before, after, rfl, untouched, instant⟩
    · rcases mem_of_mem_step former with ⟨earlier, kept⟩ | ⟨rfl, instant⟩
      · exact .inl ⟨earlier, List.forall_mem_cons.mpr ⟨Bool.eq_false_iff.mpr kept, untouched⟩⟩
      · exact .inr ⟨[], _, rfl, untouched, instant⟩
    · exact .inr ⟨operation :: before, after, rfl, untouched, instant⟩
  | relist same _ ih =>
    rcases ih stored with ⟨former, untouched⟩ | ⟨before, after, rfl, untouched, instant⟩
    · exact .inl ⟨same.subset former, untouched⟩
    · refine .inr ⟨before, after, rfl, untouched, instant.trans (now_run_congr ?_ before)⟩
      rfl

end Course

variable {operations : List (Operation κ ν)} {answers : List (Answer ν)} {reached : Timed κ ν}

theorem get_of_isCurrent {start lifetime : Nat}
    (course : Course ⟨start, ofLimits 0 lifetime⟩ operations answers reached) {key : κ} {value : ν}
    (current : IsCurrent ⟨start, ofLimits 0 lifetime⟩ lifetime operations key value) :
    (reached.cache.get reached.now key).1 = some value := by
  obtain ⟨before, after, rfl, untouched, young⟩ := current
  have lawful : Consistent (κ := κ) (ν := ν) ⟨start, ofLimits 0 lifetime⟩ :=
    consistent_ofLimits start 0 lifetime
  obtain ⟨given, later, middle, former, latter⟩ := course.split
  have limit : middle.cache.lifetime = if lifetime = 0 then none else some lifetime :=
    former.lifetime_eq
  have fresh : middle.cache.isStale reached.now ⟨key, value, middle.now⟩ = false := by
    rw [isStale_ofLimits_iff limit, course.now_eq, former.now_eq]
    exact young
  have stored := latter.mem_of_insert (former.consistent lawful) former.capacity_eq untouched fresh
  rw [get_eq_some_iff (course.consistent lawful).distinct]
  refine ⟨_, stored, rfl, rfl, ?_⟩
  rwa [isStale_congr latter.lifetime_eq]

/-- A lookup gives a value only if it is current. Without a greatest size it gives every current
value. Asking whether a key has a value comes to the same, in its answer and in what it drops. All
this holds whichever entries had to go where several could. -/
theorem get_run_isCurrent {capacity lifetime start : Nat}
    (course : Course ⟨start, ofLimits capacity lifetime⟩ operations answers reached) (key : κ) :
    let initial : Timed κ ν := ⟨start, ofLimits capacity lifetime⟩
    (∀ value, (reached.cache.get reached.now key).1 = some value →
      IsCurrent initial lifetime operations key value) ∧
    (capacity = 0 → ∀ value, (reached.cache.get reached.now key).1 = some value ↔
      IsCurrent initial lifetime operations key value) ∧
    reached.cache.contains reached.now key =
      ((reached.cache.get reached.now key).1.isSome, (reached.cache.get reached.now key).2) := by
  intro initial
  have expiry : ∀ entry, reached.cache.isStale reached.now entry = false ↔
      lifetime = 0 ∨ reached.now - entry.inserted < lifetime :=
    fun _ => isStale_ofLimits_iff course.lifetime_eq
  have sound : ∀ value, (reached.cache.get reached.now key).1 = some value →
      IsCurrent initial lifetime operations key value := by
    intro value given
    obtain ⟨instant, stored, fresh⟩ := exists_fresh_of_get given
    rcases course.exists_insert_of_mem stored with ⟨none, _⟩ | ⟨before, after, split, untouched, rfl⟩
    · exact absurd none List.not_mem_nil
    · exact ⟨before, after, split, untouched, course.now_eq ▸ (expiry _).mp fresh⟩
  refine ⟨sound, ?_, Prod.ext (contains_fst ..) (contains_snd ..)⟩
  intro unlimited value
  refine ⟨sound value, ?_⟩
  subst unlimited
  exact get_of_isCurrent course

/-- A value that was removed and inserted again counts its age from the second insert. -/
theorem get_run_isCurrent_reinserted :
    let reached := (run ⟨0, ofLimits 0 10⟩ [.insert 1 10, .advance 3, .invalidate 1, .insert 1 11,
      .contains 1, .advance 9]).2
    (reached.cache.get reached.now 1).1 = some 11 :=
  ((get_run_isCurrent (course_run ⟨0, ofLimits 0 10⟩ _) 1).2.1 rfl 11).mpr
    ⟨[.insert 1 10, .advance 3, .invalidate 1], [.contains 1, .advance 9], rfl, by decide,
      .inr (by decide)⟩

end FileGateway.ExpiringCache
