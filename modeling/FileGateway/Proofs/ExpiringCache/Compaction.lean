import Mathlib.Data.Finset.Card
import FileGateway.Proofs.ExpiringCache.Course

/-! Expired entries cannot be noticed. Compaction, which drops them all, commutes with every
operation, so that two caches with the same fresh entries give the same answers for ever,
although they are full at different times and make room by different victims. Nor can the order
of the entries be noticed as long as no two of them were inserted at one instant. -/
namespace FileGateway.ExpiringCache
variable {κ ν : Type}

/-- The cache without those expired entries whose keys are `dropped`. -/
def dropStale (cache : ExpiringCache κ ν) (now : Nat) (dropped : κ → Bool) :
    ExpiringCache κ ν :=
  { cache with entries :=
      cache.entries.filter (fun entry => !(cache.isStale now entry && dropped entry.key)) }

/-- The state without its expired entries. -/
def Timed.compacted (state : Timed κ ν) : Timed κ ν :=
  { state with cache := state.cache.compact state.now }

/-- Whether an operation asks what the cache holds. An invalidation is no query: it gives
the removed value even if that has expired. -/
def Operation.isQuery : Operation κ ν → Bool
  | get _ | contains _ | size | isEmpty => true
  | insert .. | invalidate _ | clear | advance _ => false

theorem mem_compact {cache : ExpiringCache κ ν} {now : Nat} {entry : Entry κ ν} :
    entry ∈ (cache.compact now).entries ↔
      entry ∈ cache.entries ∧ cache.isStale now entry = false := by
  simp only [compact, List.mem_filter, Bool.not_eq_true']

theorem isStale_congr {left right : ExpiringCache κ ν} (lifetime : left.lifetime = right.lifetime) :
    left.isStale = right.isStale := by
  funext now entry
  rw [isStale, lifetime, ← isStale]

theorem compact_eq_compact {left right : ExpiringCache κ ν} {now : Nat}
    (capacity : left.capacity = right.capacity) (lifetime : left.lifetime = right.lifetime)
    (entries : left.entries.filter (fun entry => !right.isStale now entry) =
      right.entries.filter (fun entry => !right.isStale now entry)) :
    left.compact now = right.compact now := by
  simp only [compact, isStale_congr lifetime, entries, capacity, lifetime]

theorem compact_compact (cache : ExpiringCache κ ν) {now later : Nat} (passed : now ≤ later) :
    (cache.compact now).compact later = cache.compact later := by
  refine compact_eq_compact rfl rfl ?_
  simp only [compact, List.filter_filter]
  refine List.filter_congr ?_
  intro entry _
  -- What is fresh later was fresh before.
  cases fresh : cache.isStale later entry with
  | true => rfl
  | false => rw [isStale_eq_false_before fresh passed]; rfl

/-- Dropping expired entries does not change what is fresh. -/
theorem Sheds.compact_eq {cache next : ExpiringCache κ ν} {now : Nat}
    (sheds : Sheds now cache next) (distinct : (cache.entries.map Entry.key).Nodup) :
    next.compact now = cache.compact now := by
  refine compact_eq_compact sheds.capacity sheds.lifetime ?_
  refine (sheds.sublist.filter _).eq_of_length_le ?_
  have unique : (cache.entries.filter (fun entry => !cache.isStale now entry)).Nodup :=
    distinct.of_map.filter _
  refine (List.subperm_of_subset unique ?_).length_le
  intro entry member
  obtain ⟨stored, fresh⟩ := List.mem_filter.mp member
  exact List.mem_filter.mpr ⟨sheds.fresh entry stored (by simpa using fresh), fresh⟩

theorem sheds_dropStale (cache : ExpiringCache κ ν) (now : Nat) (dropped : κ → Bool) :
    Sheds now cache (cache.dropStale now dropped) := by
  refine ⟨rfl, rfl, List.filter_sublist, ?_⟩
  intro entry stored fresh
  exact List.mem_filter.mpr ⟨stored, by rw [fresh]; rfl⟩

theorem dropStale_eq_self {cache : ExpiringCache κ ν} {now : Nat} {dropped : κ → Bool}
    (kept : ∀ entry ∈ cache.entries, (cache.isStale now entry && dropped entry.key) = false) :
    cache.dropStale now dropped = cache := by
  have entries : cache.entries.filter
      (fun entry => !(cache.isStale now entry && dropped entry.key)) = cache.entries := by
    refine List.filter_eq_self.mpr ?_
    intro entry stored
    rw [kept entry stored]
    rfl
  exact congrArg (fun entries => { cache with entries }) entries

theorem dropStale_dropStale (cache : ExpiringCache κ ν) (now : Nat) (first second : κ → Bool) :
    (cache.dropStale now first).dropStale now second =
      cache.dropStale now (fun key => first key || second key) := by
  have entries : (((cache.dropStale now first).dropStale now second).entries) =
      (cache.dropStale now (fun key => first key || second key)).entries := by
    simp only [dropStale, List.filter_filter]
    refine List.filter_congr ?_
    intro entry _
    change (!(cache.isStale now entry && second entry.key) &&
      !(cache.isStale now entry && first entry.key)) =
        !(cache.isStale now entry && (first entry.key || second entry.key))
    cases cache.isStale now entry <;> cases first entry.key <;> cases second entry.key <;> rfl
  exact congrArg (fun entries => { cache with entries }) entries

theorem Consistent.of_sheds {state : Timed κ ν} (consistent : Consistent state)
    {next : ExpiringCache κ ν} (sheds : Sheds state.now state.cache next) :
    Consistent ⟨state.now, next⟩ :=
  consistent.of_sublist sheds.capacity sheds.sublist

theorem Consistent.compacted {state : Timed κ ν} (consistent : Consistent state) :
    Consistent state.compacted :=
  consistent.of_sheds (sheds_compact state.cache state.now)

/-- If the fresh entries alone take every place, there are no others. -/
theorem Consistent.compact_eq_self {state : Timed κ ν} (consistent : Consistent state) {key : κ}
    (full : ¬ (state.cache.compact state.now).HasRoom key) :
    state.cache.compact state.now = state.cache := by
  have taken := mt Or.inr full
  simp only [not_forall, Nat.not_lt, exists_prop] at taken
  obtain ⟨capacity, limit, least⟩ := taken
  have most := consistent.bounded capacity limit
  have entries : (state.cache.compact state.now).entries = state.cache.entries :=
    List.filter_sublist.eq_of_length_le (Nat.le_trans most least)
  exact congrArg (fun entries => { state.cache with entries }) entries

variable [DecidableEq κ]

theorem get_fst_compact {cache : ExpiringCache κ ν}
    (distinct : (cache.entries.map Entry.key).Nodup) (now : Nat) (key : κ) :
    ((cache.compact now).get now key).1 = (cache.get now key).1 := by
  have distinctFresh : ((cache.compact now).entries.map Entry.key).Nodup :=
    distinct.sublist (List.filter_sublist.map _)
  ext value
  rw [get_eq_some_iff distinct, get_eq_some_iff distinctFresh]
  constructor
  · rintro ⟨entry, stored, same⟩
    exact ⟨entry, (mem_compact.mp stored).1, same⟩
  · rintro ⟨entry, stored, sameKey, sameValue, fresh⟩
    exact ⟨entry, mem_compact.mpr ⟨stored, fresh⟩, sameKey, sameValue, fresh⟩

theorem contains_fst (cache : ExpiringCache κ ν) (now : Nat) (key : κ) :
    (cache.contains now key).1 = (cache.get now key).1.isSome := by
  cases found : cache.find? key with
  | none => simp only [contains, get, found, Option.isSome_none]
  | some entry =>
    simp only [contains, get, found]
    split <;> rfl

theorem compact_erase (cache : ExpiringCache κ ν) (now : Nat) (key : κ) :
    (cache.compact now).erase key = (cache.erase key).compact now := by
  have entries := List.filter_comm (fun entry => !cache.isStale now entry)
    (fun entry => decide (entry.key ≠ key)) cache.entries
  exact congrArg (fun entries => { cache with entries }) entries.symm

/-- As long as the fresh entries leave room for a key, an insert of it costs no fresh entry of
another key, be the cache full or not. -/
theorem Consistent.exists_removed_stale {state : Timed κ ν} (consistent : Consistent state)
    {key : κ} (room : (state.cache.compact state.now).HasRoom key) (value : ν) :
    ∃ removed, (state.cache.insert state.now key value).entries =
        (state.cache.erase removed).entries ++ [⟨key, value, state.now⟩] ∧
      ∀ entry ∈ state.cache.entries, state.cache.isStale state.now entry = false →
        (entry.key ≠ removed ↔ entry.key ≠ key) := by
  by_cases whole : state.cache.HasRoom key
  · exact ⟨key, insert_of_hasRoom whole, fun _ _ _ => Iff.rfl⟩
  obtain ⟨absent, _, victim, chosen, entries⟩ := consistent.insert_full whole value
  refine ⟨victim.key, entries, ?_⟩
  intro entry stored fresh
  refine iff_of_true ?_ (absent entry stored)
  intro same
  have own : entry = victim :=
    List.inj_on_of_nodup_map consistent.distinct stored chosen.stored same
  subst own
  -- A fresh victim means that every entry is fresh, and then the room is the same.
  have all : state.cache.compact state.now = state.cache := by
    refine congrArg (fun entries => { state.cache with entries }) (List.filter_eq_self.mpr ?_)
    intro other present
    rw [(chosen.fresh fresh other present).1]
    rfl
  exact whole (all ▸ room)

theorem Consistent.compact_insert {state : Timed κ ν} (consistent : Consistent state) (key : κ)
    (value : ν) :
    ((state.cache.compact state.now).insert state.now key value).compact state.now =
      (state.cache.insert state.now key value).compact state.now := by
  by_cases room : (state.cache.compact state.now).HasRoom key
  · obtain ⟨removed, entries, others⟩ := consistent.exists_removed_stale room value
    have limits := state.cache.insert_limits state.now key value
    have compactLimits := (state.cache.compact state.now).insert_limits state.now key value
    refine compact_eq_compact (compactLimits.1.trans limits.1.symm)
      (compactLimits.2.trans limits.2.symm) ?_
    rw [insert_of_hasRoom room, entries, isStale_congr limits.2]
    simp only [List.filter_append, erase, compact, List.filter_filter]
    congr 1
    refine List.filter_congr ?_
    intro entry stored
    cases fresh : state.cache.isStale state.now entry with
    | true => rfl
    | false => simp [others entry stored fresh]
  · rw [consistent.compact_eq_self room]

theorem sheds_query {state : Timed κ ν} (consistent : Consistent state)
    {operation : Operation κ ν} (query : operation.isQuery = true) :
    Sheds state.now state.cache (step state operation).2.cache := by
  have looked := sheds_get consistent.distinct state.now
  cases operation with
  | get key => exact looked key
  | contains key =>
    have shed := looked key
    rwa [← contains_snd] at shed
  | size => exact sheds_compact state.cache state.now
  | isEmpty => exact sheds_compact state.cache state.now
  | _ => contradiction

theorem now_query (state : Timed κ ν) {operation : Operation κ ν}
    (query : operation.isQuery = true) : (step state operation).2.now = state.now := by
  cases operation with
  | get key | contains key | size | isEmpty => rfl
  | _ => contradiction

theorem compacted_query {state : Timed κ ν} (consistent : Consistent state)
    {operation : Operation κ ν} (query : operation.isQuery = true) :
    (step state operation).2.compacted = state.compacted := by
  have same := (sheds_query consistent query).compact_eq consistent.distinct
  rw [Timed.compacted, Timed.compacted, now_query state query, same]

theorem answer_compacted {state : Timed κ ν} (consistent : Consistent state)
    {operation : Operation κ ν} (query : operation.isQuery = true) :
    (step state.compacted operation).1 = (step state operation).1 := by
  have looked := get_fst_compact consistent.distinct state.now
  have counted : ((state.cache.compact state.now).compact state.now).entries.length =
      (state.cache.compact state.now).entries.length := by
    rw [state.cache.compact_compact (Nat.le_refl state.now)]
  cases operation with
  | get key => exact congrArg Answer.value (looked key)
  | contains key =>
    have same : ((state.cache.compact state.now).contains state.now key).1 =
        (state.cache.contains state.now key).1 := by
      rw [contains_fst, contains_fst, looked key]
    exact congrArg Answer.truth same
  | size => exact congrArg Answer.count counted
  | isEmpty => exact congrArg (fun count => Answer.truth (count == 0)) counted
  | _ => contradiction

/-- Compaction may come before or after an operation. -/
theorem compacted_step {state : Timed κ ν} (consistent : Consistent state)
    (operation : Operation κ ν) :
    (step state.compacted operation).2.compacted = (step state operation).2.compacted := by
  have idempotent := state.cache.compact_compact (Nat.le_refl state.now)
  cases query : operation.isQuery with
  | true =>
    rw [compacted_query consistent query, compacted_query consistent.compacted query]
    exact congrArg (Timed.mk state.now) idempotent
  | false =>
    cases operation with
    | insert key value => exact congrArg (Timed.mk state.now) (consistent.compact_insert key value)
    | invalidate key =>
      refine congrArg (Timed.mk state.now) ?_
      change ((state.cache.compact state.now).erase key).compact state.now = _
      rw [compact_erase]
      exact (state.cache.erase key).compact_compact (Nat.le_refl state.now)
    | clear => rfl
    | advance duration =>
      exact congrArg (Timed.mk (state.now + duration))
        (state.cache.compact_compact (Nat.le_add_right ..))
    | _ => contradiction

/-- Those of the answers to operations that are answers to queries, in order. -/
def answersToQueries (operations : List (Operation κ ν)) (answers : List (Answer ν)) :
    List (Answer ν) :=
  ((operations.zip answers).filter (fun (operation, _) => operation.isQuery)).map Prod.snd

/-- The answers to the queries among the operations of a run. -/
def queryAnswers (state : Timed κ ν) (operations : List (Operation κ ν)) : List (Answer ν) :=
  answersToQueries operations (run state operations).1

omit [DecidableEq κ] in
theorem answersToQueries_cons (operation : Operation κ ν) (answer : Answer ν)
    (operations : List (Operation κ ν)) (answers : List (Answer ν)) :
    answersToQueries (operation :: operations) (answer :: answers) =
      if operation.isQuery then answer :: answersToQueries operations answers
      else answersToQueries operations answers := by
  cases query : operation.isQuery <;> simp [answersToQueries, query]

theorem queryAnswers_cons (state : Timed κ ν) (operation : Operation κ ν)
    (rest : List (Operation κ ν)) :
    queryAnswers state (operation :: rest) =
      if operation.isQuery then
        (step state operation).1 :: queryAnswers (step state operation).2 rest
      else queryAnswers (step state operation).2 rest :=
  answersToQueries_cons ..

/-- States with the same fresh entries answer alike for ever. -/
theorem queryAnswers_congr {left right : Timed κ ν} (consistentLeft : Consistent left)
    (consistentRight : Consistent right) (alike : left.compacted = right.compacted)
    (operations : List (Operation κ ν)) :
    queryAnswers left operations = queryAnswers right operations := by
  induction operations generalizing left right with
  | nil => rfl
  | cons operation rest ih =>
    have next : (step left operation).2.compacted = (step right operation).2.compacted := by
      rw [← compacted_step consistentLeft, ← compacted_step consistentRight, alike]
    have later := ih (consistent_step consistentLeft operation)
      (consistent_step consistentRight operation) next
    rw [queryAnswers_cons, queryAnswers_cons, later]
    cases query : operation.isQuery with
    | false => rfl
    | true =>
      have same : (step left operation).1 = (step right operation).1 := by
        rw [← answer_compacted consistentLeft query, ← answer_compacted consistentRight query,
          alike]
      rw [same]

/-- Two states with the same entries, in whatever order they are listed. -/
structure Timed.ListsAlike (left right : Timed κ ν) : Prop where
  now : left.now = right.now
  capacity : left.cache.capacity = right.cache.capacity
  lifetime : left.cache.lifetime = right.cache.lifetime
  entries : left.cache.entries.Perm right.cache.entries

namespace Timed.ListsAlike
variable {left right last : Timed κ ν}

omit [DecidableEq κ] in
theorem trans (first : left.ListsAlike right) (second : right.ListsAlike last) :
    left.ListsAlike last :=
  ⟨first.now.trans second.now, first.capacity.trans second.capacity,
    first.lifetime.trans second.lifetime, first.entries.trans second.entries⟩

omit [DecidableEq κ] in
theorem compacted (alike : left.ListsAlike right) :
    left.compacted.ListsAlike right.compacted := by
  refine ⟨alike.now, alike.capacity, alike.lifetime, ?_⟩
  simp only [Timed.compacted, compact, isStale_congr alike.lifetime, alike.now]
  exact alike.entries.filter _

theorem answer (alike : left.ListsAlike right) (consistentLeft : Consistent left)
    (consistentRight : Consistent right) {operation : Operation κ ν}
    (query : operation.isQuery = true) : (step left operation).1 = (step right operation).1 := by
  have looked : ∀ key, (left.cache.get left.now key).1 = (right.cache.get right.now key).1 := by
    intro key
    ext value
    simp only [get_eq_some_iff consistentLeft.distinct, get_eq_some_iff consistentRight.distinct,
      alike.entries.mem_iff, isStale_congr alike.lifetime, alike.now]
  have counted := alike.compacted.entries.length_eq
  cases operation with
  | get key => exact congrArg Answer.value (looked key)
  | contains key =>
    have same : (left.cache.contains left.now key).1 = (right.cache.contains right.now key).1 := by
      rw [contains_fst, contains_fst, looked key]
    exact congrArg Answer.truth same
  | size => exact congrArg Answer.count counted
  | isEmpty => exact congrArg (fun count => Answer.truth (count == 0)) counted
  | _ => contradiction

/-- If nothing is stale and no two entries have one instant, only one of them can go. -/
theorem insert (alike : left.ListsAlike right) (consistentLeft : Consistent left)
    (consistentRight : Consistent right)
    (fresh : ∀ entry ∈ left.cache.entries, left.cache.isStale left.now entry = false)
    (instants : (left.cache.entries.map Entry.inserted).Nodup) (key : κ) (value : ν) :
    (left.cache.insert left.now key value).entries.Perm
      (right.cache.insert right.now key value).entries := by
  have rooms : left.cache.HasRoom key ↔ right.cache.HasRoom key := by
    simp only [HasRoom, alike.entries.mem_iff, alike.capacity, alike.entries.length_eq]
  by_cases room : left.cache.HasRoom key
  · rw [insert_of_hasRoom room, insert_of_hasRoom (rooms.mp room), alike.now]
    exact (alike.entries.filter _).append_right _
  obtain ⟨_, _, victim, chosen, entries⟩ := consistentLeft.insert_full room value
  obtain ⟨_, _, other, chosen', entries'⟩ :=
    consistentRight.insert_full (mt rooms.mpr room) value
  have there : other ∈ left.cache.entries := alike.entries.symm.subset chosen'.stored
  have freshOther : right.cache.isStale right.now other = false := by
    rw [← isStale_congr alike.lifetime, ← alike.now]
    exact fresh other there
  have earliest := (chosen.fresh (fresh victim chosen.stored) other there).2
  have earliest' := (chosen'.fresh freshOther victim (alike.entries.subset chosen.stored)).2
  have same : victim = other :=
    List.inj_on_of_nodup_map instants chosen.stored there (Nat.le_antisymm earliest earliest')
  subst same
  rw [entries, entries', alike.now]
  exact (alike.entries.filter _).append_right _

theorem step (alike : left.ListsAlike right) (consistentLeft : Consistent left)
    (consistentRight : Consistent right)
    (fresh : ∀ entry ∈ left.cache.entries, left.cache.isStale left.now entry = false)
    (instants : (left.cache.entries.map Entry.inserted).Nodup) {operation : Operation κ ν}
    (other : operation.isQuery = false) :
    (step left operation).2.ListsAlike (step right operation).2 := by
  refine ⟨?_, ?_, ?_, ?_⟩
  · rw [now_step, now_step, alike.now]
  · rw [capacity_step, capacity_step, alike.capacity]
  · rw [lifetime_step, lifetime_step, alike.lifetime]
  cases operation with
  | insert key value =>
    exact alike.insert consistentLeft consistentRight fresh instants key value
  | invalidate key => exact alike.entries.filter _
  | clear => exact .refl _
  | advance duration => exact alike.entries
  | _ => contradiction

end Timed.ListsAlike

theorem compacted_step_listsAlike {left right : Timed κ ν} (consistentLeft : Consistent left)
    (consistentRight : Consistent right) (alike : left.compacted.ListsAlike right.compacted)
    (instants : (left.cache.entries.map Entry.inserted).Nodup) (operation : Operation κ ν) :
    (step left operation).2.compacted.ListsAlike (step right operation).2.compacted := by
  cases query : operation.isQuery with
  | true =>
    rw [compacted_query consistentLeft query, compacted_query consistentRight query]
    exact alike
  | false =>
    rw [← compacted_step consistentLeft, ← compacted_step consistentRight]
    refine (alike.step consistentLeft.compacted consistentRight.compacted ?_ ?_ query).compacted
    · exact fun entry member => (mem_compact.mp member).2
    · exact instants.sublist (List.filter_sublist.map _)

/-- As long as no two inserts happen at one instant, a course gives what a run gives from a state
with the same fresh entries. -/
theorem Course.answersToQueries_eq {left right last : Timed κ ν} {operations : List (Operation κ ν)}
    {answers : List (Answer ν)} (course : Course right operations answers last)
    (consistentLeft : Consistent left) (consistentRight : Consistent right)
    (alike : left.compacted.ListsAlike right.compacted)
    (instants : ((left.cache.entries ++ inserts left.now operations).map Entry.inserted).Nodup) :
    answersToQueries operations answers = queryAnswers left operations := by
  induction course generalizing left with
  | refl => rfl
  | @step right last operation rest answers _ ih =>
    have stored : (left.cache.entries.map Entry.inserted).Nodup :=
      instants.sublist ((List.sublist_append_left ..).map _)
    have others : (((ExpiringCache.step left operation).2.cache.entries ++
        inserts (ExpiringCache.step left operation).2.now rest).map Entry.inserted).Nodup := by
      rw [inserts, ← List.append_assoc, ← now_step left operation] at instants
      exact instants.sublist (((sublist_step left operation).append_right _).map _)
    have later := ih (consistent_step consistentLeft operation)
      (consistent_step consistentRight operation)
      (compacted_step_listsAlike consistentLeft consistentRight alike stored operation) others
    rw [answersToQueries_cons, queryAnswers_cons, later]
    cases query : operation.isQuery with
    | false => rfl
    | true =>
      have same : (ExpiringCache.step right operation).1 =
          (ExpiringCache.step left operation).1 := by
        rw [← answer_compacted consistentLeft query, ← answer_compacted consistentRight query,
          alike.answer consistentLeft.compacted consistentRight.compacted query]
      rw [same]
  | @relist right last entries same operations answers _ ih =>
    have relisted : right.ListsAlike { right with cache := { right.cache with entries } } :=
      ⟨rfl, rfl, rfl, same.symm⟩
    exact ih consistentLeft (consistentRight.relist same) (alike.trans relisted.compacted) instants

/-- The count of a cache is the number of the keys that have a value. -/
def CountsLive (state : Timed κ ν) : Prop :=
  ∃ live : Finset κ, (∀ key, key ∈ live ↔ (state.cache.get state.now key).1.isSome) ∧
    (state.cache.size state.now).1 = live.card

theorem Consistent.countsLive {state : Timed κ ν} (consistent : Consistent state) :
    CountsLive state := by
  refine ⟨((state.cache.compact state.now).entries.map Entry.key).toFinset, ?_, ?_⟩
  · intro key
    simp only [List.mem_toFinset, List.mem_map, mem_compact, Option.isSome_iff_exists,
      get_eq_some_iff consistent.distinct]
    constructor
    · rintro ⟨entry, ⟨stored, fresh⟩, same⟩
      exact ⟨entry.value, entry, stored, same, rfl, fresh⟩
    · rintro ⟨_, entry, stored, same, _, fresh⟩
      exact ⟨entry, ⟨stored, fresh⟩, same⟩
  · calc (state.cache.size state.now).1
        = ((state.cache.compact state.now).entries.map Entry.key).length :=
          (List.length_map _).symm
      _ = ((state.cache.compact state.now).entries.map Entry.key).toFinset.card :=
          (List.toFinset_card_of_nodup consistent.compacted.distinct).symm

theorem get_snd_eq_dropStale {cache : ExpiringCache κ ν}
    (distinct : (cache.entries.map Entry.key).Nodup) (now : Nat) (key : κ) :
    (cache.get now key).2 = cache.dropStale now (fun other => decide (other = key)) := by
  cases found : cache.find? key with
  | none =>
    simp only [get, found]
    refine (dropStale_eq_self ?_).symm
    intro entry stored
    simp [find?_eq_none_iff.mp found entry stored]
  | some entry =>
    have only : ∀ other ∈ cache.entries, other.key = key → other = entry := by
      intro other stored same
      exact Option.some.inj (((find?_eq_some_iff distinct).mpr ⟨stored, same⟩).symm.trans found)
    cases stale : cache.isStale now entry with
    | true =>
      simp only [get, found, stale, if_true]
      refine congrArg (fun entries => { cache with entries }) (List.filter_congr ?_)
      intro other stored
      by_cases same : other.key = key
      · simp [only other stored same, stale]
      · simp [same]
    | false =>
      simp only [get, found, stale, Bool.false_eq_true, if_false]
      refine (dropStale_eq_self ?_).symm
      intro other stored
      by_cases same : other.key = key
      · simp [only other stored same, stale]
      · simp [same]

/-- A state without those expired entries whose keys are `dropped`. -/
def Timed.dropStale (state : Timed κ ν) (dropped : κ → Bool) : Timed κ ν :=
  { state with cache := state.cache.dropStale state.now dropped }

theorem run_get_eq_dropStale {state : Timed κ ν} (consistent : Consistent state)
    (keys : List κ) :
    (run state (keys.map .get)).2 = state.dropStale (fun key => decide (key ∈ keys)) := by
  induction keys generalizing state with
  | nil =>
    exact congrArg (Timed.mk state.now) (dropStale_eq_self (fun _ _ => Bool.and_false _)).symm
  | cons key rest ih =>
    have first : (step state (.get key)).2 =
        state.dropStale (fun other => decide (other = key)) :=
      congrArg (Timed.mk state.now) (get_snd_eq_dropStale consistent.distinct state.now key)
    have others := ih (consistent_step consistent (.get key))
    change (run (step state (.get key)).2 (rest.map .get)).2 = _
    rw [others, first]
    simp only [Timed.dropStale, dropStale_dropStale, List.mem_cons, Bool.decide_or]

/-- What is stored after a course, and what later operations insert, has instants of its own if all
that is ever inserted has. -/
theorem Course.nodup_instants {initial reached : Timed κ ν} {before later : List (Operation κ ν)}
    {given : List (Answer ν)} (course : Course initial before given reached)
    (empty : initial.cache.entries = [])
    (instants : ((inserts initial.now (before ++ later)).map Entry.inserted).Nodup) :
    ((reached.cache.entries ++ inserts reached.now later).map Entry.inserted).Nodup := by
  have origin := course.subperm
  rw [empty, List.nil_append] at origin
  obtain ⟨listed, same, sublist⟩ := origin
  rw [inserts_append, ← course.now_eq] at instants
  have kept := instants.sublist ((sublist.append_right (inserts reached.now later)).map _)
  exact ((same.append_right (inserts reached.now later)).map Entry.inserted).nodup_iff.mp kept

/-- Whatever expired entries are dropped at some instant, be it by lookups or by a count, no
query that follows can tell, and a count is always the number of the keys that have a
value. If no two inserts happen at one instant, this is so in every course, whichever of several
expired entries has to go and in whatever order the entries are listed. -/
theorem queryAnswers_dropStale {capacity lifetime start : Nat}
    {before : List (Operation κ ν)} {given : List (Answer ν)} {reached : Timed κ ν}
    (course : Course ⟨start, ofLimits capacity lifetime⟩ before given reached)
    (later : List (Operation κ ν)) (dropped : κ → Bool) :
    queryAnswers (reached.dropStale dropped) later = queryAnswers reached later ∧
      (((inserts start (before ++ later)).map Entry.inserted).Nodup →
        ∀ answers last,
          Course reached later answers last ∨ Course (reached.dropStale dropped) later answers last →
            answersToQueries later answers = queryAnswers reached later) ∧
      (∀ answers last,
        Course reached later answers last ∨ Course (reached.dropStale dropped) later answers last →
          CountsLive last) ∧
      (∀ keys : List κ, (run reached (keys.map .get)).2 =
        reached.dropStale (fun key => decide (key ∈ keys))) ∧
      (step reached .size).2 = reached.dropStale (fun _ => true) := by
  have consistent : Consistent reached :=
    course.consistent (consistent_ofLimits start capacity lifetime)
  have sheds := sheds_dropStale reached.cache reached.now dropped
  have lighter : Consistent (reached.dropStale dropped) := consistent.of_sheds sheds
  have alike : (reached.dropStale dropped).compacted = reached.compacted :=
    congrArg (Timed.mk reached.now) (sheds.compact_eq consistent.distinct)
  have listed : reached.compacted.ListsAlike reached.compacted := ⟨rfl, rfl, rfl, .refl _⟩
  refine ⟨queryAnswers_congr lighter consistent alike later, ?_, ?_,
    run_get_eq_dropStale consistent, ?_⟩
  · intro instants answers last follows
    have own := course.nodup_instants rfl instants
    rcases follows with follows | follows
    · exact follows.answersToQueries_eq consistent consistent listed own
    · exact follows.answersToQueries_eq consistent lighter (alike ▸ listed) own
  · intro answers last follows
    rcases follows with follows | follows
    · exact (follows.consistent consistent).countsLive
    · exact (follows.consistent lighter).countsLive
  · simp only [Timed.dropStale, dropStale, Bool.and_true]
    rfl

/-- The first of two keys has expired, and the second is listed before it when a third comes. -/
theorem queryAnswers_dropStale_relisted :
    let reached := (run ⟨0, ofLimits 2 10⟩ [.insert 1 10, .advance 3, .insert 2 20, .advance 8]).2
    let turned : Timed Nat Nat :=
      { reached with cache := { reached.cache with entries := reached.cache.entries.reverse } }
    let later : List (Operation Nat Nat) := [.insert 3 30, .get 1, .get 2, .size]
    answersToQueries later (run turned later).1 = queryAnswers reached later ∧
      queryAnswers (reached.dropStale (fun _ => true)) later = queryAnswers reached later := by
  intro reached turned later
  have course := course_run (κ := Nat) (ν := Nat) ⟨0, ofLimits 2 10⟩
    [.insert 1 10, .advance 3, .insert 2 20, .advance 8]
  obtain ⟨dropped, courses, -⟩ := queryAnswers_dropStale course later (fun _ => true)
  refine ⟨courses (by decide) _ (run turned later).2 (.inl ?_), dropped⟩
  exact .relist (List.reverse_perm _) (course_run turned later)

end FileGateway.ExpiringCache
