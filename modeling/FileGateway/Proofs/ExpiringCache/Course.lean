import Mathlib.Data.List.Perm.Subperm
import FileGateway.Proofs.ExpiringCache.Consistent

/-! The order in which a cache lists its entries has no meaning. A course is a run of operations
in which the entries may be listed in another order at any time, so that whichever entry a
removal to make room falls on, if several may go, has a course of its own. -/
namespace FileGateway.ExpiringCache
variable {κ ν : Type}

theorem Consistent.relist {state : Timed κ ν} (consistent : Consistent state)
    {entries : List (Entry κ ν)} (same : entries.Perm state.cache.entries) :
    Consistent { state with cache := { state.cache with entries } } where
  positive := consistent.positive
  bounded capacity limit := same.length_eq ▸ consistent.bounded capacity limit
  distinct := (same.map Entry.key).nodup_iff.mpr consistent.distinct
  past entry stored := consistent.past entry (same.subset stored)

variable [DecidableEq κ]

/-- Operations that lead from one state to another, and the answers to them. -/
inductive Course :
    Timed κ ν → List (Operation κ ν) → List (Answer ν) → Timed κ ν → Prop where
  | refl (state : Timed κ ν) : Course state [] [] state
  | step {state last : Timed κ ν} (operation : Operation κ ν) {rest : List (Operation κ ν)}
    {answers : List (Answer ν)} (course : Course (step state operation).2 rest answers last) :
    Course state (operation :: rest) ((step state operation).1 :: answers) last
  | relist {state last : Timed κ ν} {entries : List (Entry κ ν)}
    (same : entries.Perm state.cache.entries) {operations : List (Operation κ ν)}
    {answers : List (Answer ν)}
    (course : Course { state with cache := { state.cache with entries } } operations answers last) :
    Course state operations answers last

/-- The states that operations lead to. -/
def Reachable (initial state : Timed κ ν) : Prop :=
  ∃ operations answers, Course initial operations answers state

/-- A run is a course that never lists anything anew. -/
theorem course_run (state : Timed κ ν) (operations : List (Operation κ ν)) :
    Course state operations (run state operations).1 (run state operations).2 := by
  induction operations generalizing state with
  | nil => exact .refl state
  | cons operation rest ih => exact .step operation (ih _)

theorem reachable_run (initial : Timed κ ν) (operations : List (Operation κ ν)) :
    Reachable initial (run initial operations).2 :=
  ⟨operations, _, course_run initial operations⟩

/-- The time that operations take does not depend on what is stored. -/
theorem now_run_congr {left right : Timed κ ν} (same : left.now = right.now)
    (operations : List (Operation κ ν)) :
    (run left operations).2.now = (run right operations).2.now := by
  induction operations generalizing left right with
  | nil => exact same
  | cons operation rest ih =>
    have next : (step left operation).2.now = (step right operation).2.now := by
      rw [now_step, now_step, same]
    exact ih next

theorem now_le_run (state : Timed κ ν) (operations : List (Operation κ ν)) :
    state.now ≤ (run state operations).2.now := by
  induction operations generalizing state with
  | nil => exact Nat.le_refl _
  | cons operation rest ih =>
    have first := now_step state operation
    exact Nat.le_trans (by omega) (ih (step state operation).2)

theorem inserts_append (state : Timed κ ν) (before after : List (Operation κ ν)) :
    inserts state.now (before ++ after) =
      inserts state.now before ++ inserts (run state before).2.now after := by
  induction before generalizing state with
  | nil => rfl
  | cons operation rest ih =>
    rw [List.cons_append, inserts, inserts, ← now_step, ih, List.append_assoc]
    rfl

/-- An operation stores nothing but what it inserts itself. -/
theorem sublist_step (state : Timed κ ν) (operation : Operation κ ν) :
    (step state operation).2.cache.entries.Sublist
      (state.cache.entries ++ operation.inserted state.now) := by
  have looked : ∀ key, (state.cache.get state.now key).2.entries.Sublist state.cache.entries := by
    intro key
    rw [get]
    split
    · split
      · exact List.filter_sublist
      · exact .refl _
    · exact .refl _
  cases operation with
  | insert key value =>
    refine List.Sublist.append ?_ (.refl _)
    refine List.filter_sublist.trans ?_
    split
    · rw [evict]
      split
      · exact List.filter_sublist
      · exact .refl _
    · exact .refl _
  | get key =>
    rw [Operation.inserted, List.append_nil]
    exact looked key
  | contains key =>
    rw [Operation.inserted, List.append_nil]
    change (state.cache.contains state.now key).2.entries.Sublist state.cache.entries
    rw [contains_snd]
    exact looked key
  | invalidate key =>
    rw [Operation.inserted, List.append_nil]
    exact List.filter_sublist
  | clear => exact List.nil_sublist _
  | size =>
    rw [Operation.inserted, List.append_nil]
    exact List.filter_sublist
  | isEmpty =>
    rw [Operation.inserted, List.append_nil]
    exact List.filter_sublist
  | advance duration =>
    rw [Operation.inserted, List.append_nil]
    exact .refl _

namespace Course
variable {state last : Timed κ ν} {operations : List (Operation κ ν)} {answers : List (Answer ν)}

theorem consistent (course : Course state operations answers last) (lawful : Consistent state) :
    Consistent last := by
  induction course with
  | refl => exact lawful
  | step operation _ ih => exact ih (consistent_step lawful operation)
  | relist same _ ih => exact ih (lawful.relist same)

theorem now_eq (course : Course state operations answers last) :
    last.now = (run state operations).2.now := by
  induction course with
  | refl => rfl
  | step operation _ ih => exact ih
  | relist same _ ih =>
    refine ih.trans (now_run_congr ?_ _)
    rfl

theorem capacity_eq (course : Course state operations answers last) :
    last.cache.capacity = state.cache.capacity := by
  induction course with
  | refl => rfl
  | step operation _ ih => exact ih.trans (capacity_step _ operation)
  | relist _ _ ih => exact ih

theorem lifetime_eq (course : Course state operations answers last) :
    last.cache.lifetime = state.cache.lifetime := by
  induction course with
  | refl => rfl
  | step operation _ ih => exact ih.trans (lifetime_step _ operation)
  | relist _ _ ih => exact ih

/-- All that is stored in the end was stored in the beginning or inserted on the way. -/
theorem subperm (course : Course state operations answers last) :
    last.cache.entries.Subperm (state.cache.entries ++ inserts state.now operations) := by
  induction course with
  | refl state => rw [inserts, List.append_nil]
  | @step state last operation rest answers _ ih =>
    rw [inserts, ← List.append_assoc, ← now_step state operation]
    exact ih.trans ((sublist_step state operation).append_right _).subperm
  | relist same _ ih => exact ih.trans (same.append_right _).subperm

end Course

theorem Reachable.consistent {initial state : Timed κ ν} (reached : Reachable initial state)
    (lawful : Consistent initial) : Consistent state := by
  obtain ⟨_, _, course⟩ := reached
  exact course.consistent lawful

theorem Reachable.capacity_eq {initial state : Timed κ ν} (reached : Reachable initial state) :
    state.cache.capacity = initial.cache.capacity := by
  obtain ⟨_, _, course⟩ := reached
  exact course.capacity_eq

end FileGateway.ExpiringCache
