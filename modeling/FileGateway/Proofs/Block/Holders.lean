import Mathlib.Data.List.Nodup
import Std.Data.HashMap.Lemmas
import FileGateway.Block.Holders

/-! The names recorded for a block are those of the hosts whose bitmaps mark it, each once and
in the order of the host list. -/
namespace FileGateway

/-- Whether the host answered by a bitmap in which the octet of a block is 1. -/
def HostAnswer.marks (answer : HostAnswer Bitmap) (block : Nat) : Bool :=
  answer.value.any (fun bitmap => bitmap.octets[block]? == some 1)

/-- The names of the hosts that hold a block, each once, and the placeholder alone if there are
none. -/
def holderNames (answers : List (HostAnswer Bitmap)) (placeholder : String) (block : Nat) :
    List String :=
  match ((answers.filter (·.marks block)).map HostAnswer.hostName).eraseDups with
  | [] => [placeholder]
  | names => names

theorem Bitmap.mem_cachedBlocks {bitmap : Bitmap} {block : Nat} :
    block ∈ bitmap.cachedBlocks ↔ bitmap.octets[block]? = some 1 := by
  have octet : bitmap.octets[block]? = bitmap.octets.data.toList[block]? := by
    rw [Array.getElem?_toList]
    rfl
  simp only [cachedBlocks, cachedFrom, List.mem_filterMap, Prod.exists,
    List.mk_mem_zipIdx_iff_getElem?, octet, mark]
  constructor
  · rintro ⟨value, index, found, marked⟩
    obtain ⟨one, same⟩ := Option.ite_none_right_eq_some.mp marked
    cases same
    rw [found, one]
  · intro found
    exact ⟨1, block, found, if_pos rfl⟩

namespace Holders

/-- A list of names with one more at its end unless it is there already. -/
def withName (names : List String) (name : String) : List String :=
  if name ∈ names then names else names ++ [name]

theorem withName_withName (names : List String) (name : String) :
    withName (withName names name) name = withName names name := by
  by_cases known : name ∈ names
  · simp only [withName, if_pos known]
  · simp only [withName, if_neg known, List.mem_concat_self, if_true]

theorem foldl_withName (recorded names : List String) :
    names.foldl withName recorded = recorded ++ (names.filter (· ∉ recorded)).eraseDups := by
  induction names generalizing recorded with
  | nil => simp
  | cons name rest ih =>
    rw [List.foldl_cons, ih, withName]
    by_cases known : name ∈ recorded
    · simp [known]
    · have unseen : rest.filter (· ∉ recorded ++ [name]) =
          (rest.filter (· ∉ recorded)).filter (fun other => !other == name) := by
        rw [List.filter_filter]
        refine List.filter_congr ?_
        intro other _
        by_cases same : other = name <;> simp [same]
      rw [if_neg known, unseen, List.append_assoc, List.filter_cons,
        if_pos (decide_eq_true known), List.eraseDups_cons]
      rfl

theorem foldl_withName_nil (names : List String) : names.foldl withName [] = names.eraseDups := by
  have all : names.filter (· ∉ ([] : List String)) = names :=
    List.filter_eq_self.mpr (fun _ _ => rfl)
  rw [foldl_withName, all, List.nil_append]

theorem names_add (holders : Holders) (name : String) (block other : Nat) :
    (holders.add name block).names other =
      if block = other then withName (holders.names other) name else holders.names other := by
  simp only [add]
  split
  · rename_i known
    split
    · rename_i same
      subst same
      rw [withName, if_pos known]
    · rfl
  · rename_i unknown
    rw [names, Std.HashMap.getD_insert]
    by_cases same : block = other
    · subst same
      rw [if_pos (beq_self_eq_true _), if_pos rfl, withName, if_neg unknown]
    · rw [if_neg (by simpa using same), if_neg same]
      rfl

theorem names_foldl_add (holders : Holders) (name : String) (blocks : List Nat) (block : Nat) :
    (blocks.foldl (·.add name ·) holders).names block =
      if block ∈ blocks then withName (holders.names block) name else holders.names block := by
  induction blocks generalizing holders with
  | nil => rfl
  | cons first rest ih =>
    rw [List.foldl_cons, ih, names_add]
    by_cases here : first = block
    · subst here
      simp [withName_withName]
    · have elsewhere : block ≠ first := fun same => here same.symm
      simp [here, elsewhere]

theorem names_addAnswer (first last : UInt64) (holders : Holders) (answer : HostAnswer Bitmap)
    (block : Nat) :
    (addAnswer first last holders answer).names block =
      if (first.toNat ≤ block ∧ block ≤ last.toNat) ∧ answer.marks block = true then
        withName (holders.names block) answer.hostName
      else holders.names block := by
  cases present : answer.value with
  | none => simp [addAnswer, HostAnswer.marks, present]
  | some bitmap =>
    simp only [addAnswer, HostAnswer.marks, present, names_foldl_add, List.mem_filter,
      Bitmap.mem_cachedBlocks, decide_eq_true_eq, Option.any_some, beq_iff_eq,
      and_comm (a := bitmap.octets[block]? = some 1)]

theorem names_foldl_addAnswer (first last : UInt64) (answers : List (HostAnswer Bitmap))
    (holders : Holders) (block : Nat) :
    (answers.foldl (addAnswer first last) holders).names block =
      if first.toNat ≤ block ∧ block ≤ last.toNat then
        ((answers.filter (·.marks block)).map HostAnswer.hostName).foldl withName
          (holders.names block)
      else holders.names block := by
  induction answers generalizing holders with
  | nil => simp
  | cons answer rest ih =>
    rw [List.foldl_cons, ih, names_addAnswer, List.filter_cons]
    by_cases collected : first.toNat ≤ block ∧ block ≤ last.toNat
    · simp only [collected, and_self, true_and, if_true]
      split <;> rfl
    · simp only [collected, false_and, if_false]

theorem names_ofAnswers (answers : List (HostAnswer Bitmap)) (first last block : UInt64) :
    (ofAnswers answers first last).names block.toNat =
      if first ≤ block ∧ block ≤ last then
        ((answers.filter (·.marks block.toNat)).map HostAnswer.hostName).eraseDups
      else [] := by
  have nothing : ({} : Holders).names block.toNat = [] := Std.HashMap.getD_empty
  simp only [ofAnswers, names_foldl_addAnswer, nothing, foldl_withName_nil,
    UInt64.le_iff_toNat_le]

/-- Inside the range that was collected, every block is answered by its holders. -/
theorem hostsOf_ofAnswers (answers : List (HostAnswer Bitmap)) {first last block : UInt64}
    (from_first : first ≤ block) (to_last : block ≤ last) (placeholder : String) :
    (ofAnswers answers first last).hostsOf block placeholder =
      holderNames answers placeholder block.toNat := by
  rw [hostsOf, names_ofAnswers, if_pos ⟨from_first, to_last⟩]
  rfl

theorem nodup_foldl_withName {recorded : List String} (distinct : recorded.Nodup)
    (names : List String) : (names.foldl withName recorded).Nodup := by
  induction names generalizing recorded with
  | nil => exact distinct
  | cons name rest ih =>
    refine ih ?_
    by_cases known : name ∈ recorded
    · rwa [withName, if_pos known]
    · rw [withName, if_neg known]
      exact distinct.append (List.nodup_singleton name) (List.disjoint_singleton.mpr known)

theorem nodup_eraseDups (names : List String) : names.eraseDups.Nodup :=
  foldl_withName_nil names ▸ nodup_foldl_withName .nil names

theorem eraseDups_eq_nil_iff {names : List String} : names.eraseDups = [] ↔ names = [] := by
  cases names with
  | nil => simp
  | cons name rest => simp [List.eraseDups_cons]

theorem hostsOf_eq (holders : Holders) (block : UInt64) (placeholder : String) :
    holders.hostsOf block placeholder =
      if holders.names block.toNat = [] then [placeholder] else holders.names block.toNat := by
  rw [hostsOf]
  split
  · rename_i none
    rw [if_pos none]
  · rename_i some
    rw [if_neg some]

/-- Looking a block up in the bitmaps comes to the same as collecting them. -/
theorem hostName_hostsCaching (answers : List (HostAnswer Bitmap)) (block : UInt64) :
    (hostsCaching answers block).map Address.hostName =
      (answers.filter (·.marks block.toNat)).map HostAnswer.hostName := by
  have same : ∀ answer : HostAnswer Bitmap, answer.holds block = answer.marks block.toNat := by
    intro answer
    rw [HostAnswer.holds, HostAnswer.marks]
    cases answer.value <;> rfl
  rw [hostsCaching, List.map_map]
  simp only [same]
  rfl

/-- The hosts collected for a block of the range are those found by looking the block up in every
bitmap, each name where it first stands, and for other blocks none are collected. So a block always
has hosts and none of them twice. A host is among them if it marks the block by a 1: any other
octet, or none because the bitmap is too short, leaves it out. -/
theorem hostsOf_ofAnswers_exact (answers : List (HostAnswer Bitmap)) (first last block : UInt64)
    (placeholder : String) :
    let hosts := (ofAnswers answers first last).hostsOf block placeholder
    let names := (hostsCaching answers block).map Address.hostName
    let collected := first ≤ block ∧ block ≤ last
    hosts = (if collected ∧ names ≠ [] then names.eraseDups else [placeholder]) ∧
    hosts ≠ [] ∧ hosts.Nodup ∧
    ∀ name, name ∈ hosts ↔
      collected ∧ (∃ answer ∈ answers, answer.marks block.toNat = true ∧ answer.hostName = name) ∨
      ¬ (collected ∧ ∃ answer ∈ answers, answer.marks block.toNat = true) ∧ name = placeholder := by
  intro hosts names collected
  have marking : names ≠ [] ↔ ∃ answer ∈ answers, answer.marks block.toNat = true := by
    simp only [names, hostName_hostsCaching, ne_eq, List.map_eq_nil_iff, List.filter_eq_nil_iff,
      not_forall, not_not, exists_prop]
  have mem : ∀ name, name ∈ names.eraseDups ↔
      ∃ answer ∈ answers, answer.marks block.toNat = true ∧ answer.hostName = name := by
    intro name
    simp only [names, hostName_hostsCaching, List.mem_eraseDups, List.mem_map, List.mem_filter,
      and_assoc]
  have recorded : (ofAnswers answers first last).names block.toNat =
      if collected then names.eraseDups else [] := by
    rw [names_ofAnswers, ← hostName_hostsCaching]
  have hosts_eq : hosts = if collected ∧ names ≠ [] then names.eraseDups else [placeholder] := by
    simp only [hosts, hostsOf_eq, recorded]
    by_cases inside : collected
    · simp only [inside, if_true, true_and, eraseDups_eq_nil_iff, ne_eq, ite_not]
    · simp only [inside, if_false, false_and, if_true]
  refine ⟨hosts_eq, ?_⟩
  rw [← marking]
  by_cases held : collected ∧ names ≠ []
  · rw [hosts_eq, if_pos held]
    refine ⟨mt eraseDups_eq_nil_iff.mp held.2, nodup_eraseDups names, ?_⟩
    intro name
    rw [mem]
    constructor
    · exact fun marked => .inl ⟨held.1, marked⟩
    · rintro (⟨_, marked⟩ | ⟨nobody, _⟩)
      · exact marked
      · exact absurd held nobody
  · rw [hosts_eq, if_neg held]
    refine ⟨List.cons_ne_nil placeholder [], List.nodup_singleton _, ?_⟩
    intro name
    rw [← mem, List.mem_singleton]
    constructor
    · exact fun same => .inr ⟨held, same⟩
    · rintro (⟨inside, marked⟩ | ⟨_, same⟩)
      · exact absurd ⟨inside, List.ne_nil_of_mem (List.mem_eraseDups.mp marked)⟩ held
      · exact same

/-- Two gateways of one name, of which one has a short bitmap, beside one that marks by a 2. -/
theorem hostsOf_ofAnswers_exact_shared_name :
    (ofAnswers [⟨"a:1", some ⟨⟨#[1]⟩⟩⟩, ⟨"b:1", some ⟨⟨#[1, 1, 1]⟩⟩⟩, ⟨"a:2", some ⟨⟨#[0, 1, 1]⟩⟩⟩,
      ⟨"c", none⟩, ⟨"b:2", some ⟨⟨#[0, 1, 2]⟩⟩⟩] 1 2).hostsOf 1 "localhost" = ["b", "a"] :=
  (hostsOf_ofAnswers_exact _ 1 2 1 "localhost").1.trans (by decide)

end Holders
end FileGateway
