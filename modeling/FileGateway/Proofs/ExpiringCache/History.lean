import Mathlib.Data.Finset.Card
import Mathlib.Data.Finset.Max
import FileGateway.ExpiringCache.Run

/-! The history of inserts: the last insert of each key, and the keys that were inserted after
it. The inserts of a run stand in the order of their instants. -/
namespace FileGateway.ExpiringCache
variable {κ ν : Type} {history : List (Entry κ ν)} {entry other : Entry κ ν}

theorem start_le_of_mem_inserts {start : Nat} {operations : List (Operation κ ν)}
    (inserted : entry ∈ inserts start operations) : start ≤ entry.inserted := by
  induction operations generalizing start with
  | nil => contradiction
  | cons operation rest ih =>
    rcases List.mem_append.mp inserted with own | later
    · cases operation with
      | insert key value => rw [List.mem_singleton.mp own]
      | _ => contradiction
    · exact Nat.le_trans (Nat.le_add_right ..) (ih later)

theorem pairwise_inserts (start : Nat) (operations : List (Operation κ ν)) :
    (inserts start operations).Pairwise (fun entry other => entry.inserted ≤ other.inserted) := by
  induction operations generalizing start with
  | nil => exact .nil
  | cons operation rest ih =>
    rw [inserts, List.pairwise_append]
    refine ⟨?_, ih _, ?_⟩
    · cases operation with
      | insert key value => exact List.pairwise_singleton _ _
      | _ => exact .nil
    · intro entry own other later
      have bound := start_le_of_mem_inserts later
      cases operation with
      | insert key value =>
        rw [List.mem_singleton.mp own]
        exact Nat.le_trans (Nat.le_add_right ..) bound
      | _ => contradiction

/-- The earliest first, and no two at one instant. -/
def Chronological (history : List (Entry κ ν)) : Prop :=
  history.Pairwise (fun entry other => entry.inserted < other.inserted)

theorem chronological_inserts {start : Nat} {operations : List (Operation κ ν)}
    (instants : ((inserts start operations).map Entry.inserted).Nodup) :
    Chronological (inserts start operations) :=
  (pairwise_inserts start operations).imp₂ (fun _ _ => Nat.lt_of_le_of_ne)
    (List.pairwise_map.mp instants)

theorem inserted_lt_of_nodup {now : Nat} (past : ∀ former ∈ history, former.inserted ≤ now)
    (instants : ((history ++ [entry]).map Entry.inserted).Nodup) (present : entry.inserted = now) :
    ∀ former ∈ history, former.inserted < entry.inserted := by
  intro former inserted
  rw [List.map_append, List.nodup_append] at instants
  have different := instants.2.2 former.inserted (List.mem_map_of_mem inserted) entry.inserted
    (List.mem_singleton.mpr rfl)
  have bound := past former inserted
  omega

/-- The last insert of its key. -/
structure IsLast (history : List (Entry κ ν)) (entry : Entry κ ν) : Prop where
  inserted : entry ∈ history
  latest : ∀ other ∈ history, other.key = entry.key → other.inserted ≤ entry.inserted

theorem exists_isLast (inserted : entry ∈ history) :
    ∃ last, IsLast history last ∧ last.key = entry.key ∧ entry.inserted ≤ last.inserted := by
  classical
  have nonempty : (history.filter (fun other => other.key = entry.key)).toFinset.Nonempty :=
    ⟨entry, by simp [inserted]⟩
  obtain ⟨last, member, greatest⟩ := Finset.exists_max_image _ Entry.inserted nonempty
  simp only [List.mem_toFinset, List.mem_filter, decide_eq_true_eq] at member greatest
  refine ⟨last, ⟨member.1, ?_⟩, member.2, greatest entry ⟨inserted, rfl⟩⟩
  intro other present same
  exact greatest other ⟨present, same.trans member.2⟩

theorem isLast_concat_iff (strict : ∀ former ∈ history, former.inserted < other.inserted) :
    IsLast (history ++ [other]) entry ↔
      entry = other ∨ IsLast history entry ∧ entry.key ≠ other.key := by
  constructor
  · rintro ⟨inserted, latest⟩
    rcases List.mem_append.mp inserted with former | same
    · right
      refine ⟨⟨former, fun newer present => latest newer (List.mem_append_left _ present)⟩, ?_⟩
      intro same
      have bound := latest other List.mem_concat_self same.symm
      have earlier := strict entry former
      omega
    · exact .inl (List.mem_singleton.mp same)
  · rintro (rfl | ⟨last, distinct⟩)
    · refine ⟨List.mem_concat_self, ?_⟩
      intro newer inserted _
      rcases List.mem_append.mp inserted with former | same
      · exact Nat.le_of_lt (strict newer former)
      · exact Nat.le_of_eq (congrArg Entry.inserted (List.mem_singleton.mp same))
    · refine ⟨List.mem_append_left _ last.inserted, ?_⟩
      intro newer inserted same
      rcases List.mem_append.mp inserted with former | new
      · exact last.latest newer former same
      · rw [List.mem_singleton.mp new] at same
        exact absurd same.symm distinct

variable [DecidableEq κ]

/-- The keys that were inserted after an entry. -/
def newerKeys (history : List (Entry κ ν)) (entry : Entry κ ν) : Finset κ :=
  ((history.filter (fun other => entry.inserted < other.inserted)).map Entry.key).toFinset

theorem mem_newerKeys {key : κ} :
    key ∈ newerKeys history entry ↔
      ∃ other ∈ history, entry.inserted < other.inserted ∧ other.key = key := by
  simp only [newerKeys, List.mem_toFinset, List.mem_map, List.mem_filter, decide_eq_true_eq,
    and_assoc]

theorem newerKeys_subset (older : entry.inserted ≤ other.inserted) :
    newerKeys history other ⊆ newerKeys history entry := by
  intro key member
  obtain ⟨newer, inserted, later, same⟩ := mem_newerKeys.mp member
  exact mem_newerKeys.mpr ⟨newer, inserted, Nat.lt_of_le_of_lt older later, same⟩

theorem IsLast.key_notMem_newerKeys (last : IsLast history other)
    (older : other.inserted ≤ entry.inserted) : other.key ∉ newerKeys history entry := by
  intro member
  obtain ⟨newer, inserted, later, same⟩ := mem_newerKeys.mp member
  have bound := last.latest newer inserted same
  omega

theorem newerKeys_concat (earlier : entry.inserted < other.inserted) :
    newerKeys (history ++ [other]) entry =
      Insert.insert other.key (newerKeys history entry) := by
  ext key
  simp only [mem_newerKeys, Finset.mem_insert, List.mem_append, List.mem_singleton, or_and_right,
    exists_or, exists_eq_left, earlier, true_and]
  rw [or_comm, eq_comm]

theorem newerKeys_concat_self (strict : ∀ former ∈ history, former.inserted < entry.inserted) :
    newerKeys (history ++ [entry]) entry = ∅ := by
  rw [Finset.eq_empty_iff_forall_notMem]
  intro key member
  obtain ⟨newer, inserted, later, _⟩ := mem_newerKeys.mp member
  rcases List.mem_append.mp inserted with former | same
  · have earlier := strict newer former
    omega
  · rw [List.mem_singleton.mp same] at later
    omega

omit [DecidableEq κ] in
theorem isLast_of_split {before after : List (Entry κ ν)}
    (order : Chronological (before ++ entry :: after))
    (others : ∀ other ∈ after, other.key ≠ entry.key) :
    IsLast (before ++ entry :: after) entry := by
  refine ⟨List.mem_append_right _ List.mem_cons_self, ?_⟩
  intro other inserted same
  rcases List.mem_append.mp inserted with earlier | present
  · exact Nat.le_of_lt ((List.pairwise_append.mp order).2.2 other earlier entry
      List.mem_cons_self)
  · rcases List.mem_cons.mp present with own | later
    · exact Nat.le_of_eq (congrArg Entry.inserted own)
    · exact absurd same (others other later)

theorem newerKeys_split {before after : List (Entry κ ν)}
    (order : Chronological (before ++ entry :: after)) :
    newerKeys (before ++ entry :: after) entry = (after.map Entry.key).toFinset := by
  obtain ⟨_, behind, across⟩ := List.pairwise_append.mp order
  ext key
  rw [mem_newerKeys, List.mem_toFinset, List.mem_map]
  constructor
  · rintro ⟨other, inserted, later, same⟩
    refine ⟨other, ?_, same⟩
    rcases List.mem_append.mp inserted with earlier | present
    · have bound := across other earlier entry List.mem_cons_self
      omega
    · rcases List.mem_cons.mp present with rfl | later
      · omega
      · exact later
  · rintro ⟨other, later, same⟩
    exact ⟨other, List.mem_append_right _ (List.mem_cons_of_mem _ later),
      List.rel_of_pairwise_cons behind later, same⟩

omit [DecidableEq κ] in
theorem IsLast.exists_split (last : IsLast history entry) (order : Chronological history) :
    ∃ before after, history = before ++ entry :: after ∧
      ∀ other ∈ after, other.key ≠ entry.key := by
  obtain ⟨before, after, rfl⟩ := List.append_of_mem last.inserted
  refine ⟨before, after, rfl, ?_⟩
  intro other later same
  have bound := List.rel_of_pairwise_cons (List.pairwise_append.mp order).2.1 later
  have least := last.latest other
    (List.mem_append_right _ (List.mem_cons_of_mem _ later)) same
  omega

end FileGateway.ExpiringCache
