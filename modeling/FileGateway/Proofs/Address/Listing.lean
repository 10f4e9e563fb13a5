import FileGateway.Address
import FileGateway.Proofs.Text.Blank

/-! A list of hosts can be spelled in many ways: there may be blanks around every host, and blank
pieces between the commas. `splitList` gives the hosts of any spelling, in order, and every text is
a spelling of the hosts that it gives. -/
namespace FileGateway.Address
open Blank (isBlank trim notMem_of_blanks)

theorem comma_visible : isBlank ',' = false := by decide

/-- A host that can stand in a list. -/
structure IsItem (host : String) : Prop where
  nonempty : host ≠ ""
  noComma : ',' ∉ host.toList
  starts : ∀ c ∈ host.toList.head?, isBlank c = false
  ends : ∀ c ∈ host.toList.getLast?, isBlank c = false

/-- The pieces between the commas of a text that spells hosts. -/
inductive Spells : List String → List (List Char) → Prop where
  | nil : Spells [] []
  | blank {hosts pieces} {piece : List Char} (blanks : ∀ c ∈ piece, isBlank c = true)
      (rest : Spells hosts pieces) : Spells hosts (piece :: pieces)
  | host {hosts pieces} {host : String} {front back : List Char} (item : IsItem host)
      (before : ∀ c ∈ front, isBlank c = true) (after : ∀ c ∈ back, isBlank c = true)
      (rest : Spells hosts pieces) :
      Spells (host :: hosts) ((front ++ host.toList ++ back) :: pieces)

/-! ## Items -/

theorem IsItem.trim_eq {host : String} (item : IsItem host) : trim host.toList = host.toList :=
  Blank.trim_eq_self_iff.mpr
    ⟨Blank.trimStart_eq_self_iff_head?.mpr item.starts,
      Blank.trimEnd_eq_self_iff_getLast?.mpr item.ends⟩

theorem isItem_trim {piece : List Char} (noComma : ',' ∉ piece) (visible : trim piece ≠ []) :
    IsItem (String.ofList (trim piece)) where
  nonempty := by
    intro empty
    exact visible (String.ofList_eq_empty_iff.mp empty)
  noComma := by rwa [String.toList_ofList, Blank.mem_trim_iff comma_visible]
  starts := by
    rw [String.toList_ofList]
    exact Blank.trimStart_eq_self_iff_head?.mp (Blank.trimStart_trim piece)
  ends := by
    rw [String.toList_ofList]
    exact Blank.trimEnd_eq_self_iff_getLast?.mp (Blank.trimEnd_trim piece)

/-! ## Pieces -/

/-- The hosts that stand in pieces. -/
def itemsOf (pieces : List (List Char)) : List String :=
  ((pieces.map trim).filter (· ≠ [])).map String.ofList

theorem itemsOf_cons_of_blank {piece : List Char} (blank : trim piece = [])
    (pieces : List (List Char)) : itemsOf (piece :: pieces) = itemsOf pieces := by
  simp [itemsOf, blank]

theorem itemsOf_cons_of_visible {piece : List Char} (visible : trim piece ≠ [])
    (pieces : List (List Char)) :
    itemsOf (piece :: pieces) = String.ofList (trim piece) :: itemsOf pieces := by
  simp [itemsOf, visible]

theorem Spells.itemsOf_eq {hosts : List String} {pieces : List (List Char)}
    (spelled : Spells hosts pieces) : itemsOf pieces = hosts := by
  induction spelled with
  | nil => rfl
  | blank blanks _ ih => rw [itemsOf_cons_of_blank (Blank.trim_eq_nil_iff.mpr blanks), ih]
  | @host _ _ host front back item before after _ ih =>
    have trimmed : trim (front ++ host.toList ++ back) = host.toList := by
      rw [Blank.trim_append_blanks before after, item.trim_eq]
    have visible : trim (front ++ host.toList ++ back) ≠ [] := by
      rw [trimmed]
      exact mt String.toList_eq_nil_iff.mp item.nonempty
    rw [itemsOf_cons_of_visible visible, trimmed, String.ofList_toList, ih]

theorem Spells.noComma {hosts : List String} {pieces : List (List Char)}
    (spelled : Spells hosts pieces) : ∀ piece ∈ pieces, ',' ∉ piece := by
  induction spelled with
  | nil => exact nofun
  | blank blanks _ ih => exact List.forall_mem_cons.mpr ⟨notMem_of_blanks comma_visible blanks, ih⟩
  | host item before after _ ih =>
    refine List.forall_mem_cons.mpr ⟨?_, ih⟩
    simp only [List.mem_append, not_or]
    exact ⟨⟨notMem_of_blanks comma_visible before, item.noComma⟩,
      notMem_of_blanks comma_visible after⟩

theorem spells_itemsOf {pieces : List (List Char)} (noComma : ∀ piece ∈ pieces, ',' ∉ piece) :
    Spells (itemsOf pieces) pieces := by
  induction pieces with
  | nil => exact .nil
  | cons piece pieces ih =>
    obtain ⟨first, others⟩ := List.forall_mem_cons.mp noComma
    by_cases blank : trim piece = []
    · rw [itemsOf_cons_of_blank blank]
      exact .blank (Blank.trim_eq_nil_iff.mp blank) (ih others)
    · obtain ⟨back, split, after⟩ := Blank.exists_blanks piece
      have before : ∀ c ∈ piece.takeWhile isBlank, isBlank c = true :=
        fun _ => List.mem_takeWhile_imp
      have here := Spells.host (isItem_trim first blank) before after (ih others)
      rw [itemsOf_cons_of_visible blank]
      rwa [String.toList_ofList, ← split] at here

theorem Spells.isItem {hosts : List String} {pieces : List (List Char)}
    (spelled : Spells hosts pieces) : ∀ host ∈ hosts, IsItem host := by
  induction spelled with
  | nil => exact nofun
  | blank _ _ ih => exact ih
  | host item _ _ _ ih => exact List.forall_mem_cons.mpr ⟨item, ih⟩

theorem spells_toList {hosts : List String} (items : ∀ host ∈ hosts, IsItem host) :
    Spells hosts (hosts.map String.toList) := by
  induction hosts with
  | nil => exact .nil
  | cons host hosts ih =>
    obtain ⟨first, others⟩ := List.forall_mem_cons.mp items
    have nothing : ∀ c ∈ ([] : List Char), isBlank c = true := nofun
    have here := Spells.host first nothing nothing (ih others)
    rwa [List.nil_append, List.append_nil] at here

/-! ## Texts -/

theorem notMem_of_mem_splitOn {text piece : List Char} (cut : piece ∈ text.splitOn ',') :
    ',' ∉ piece := by
  induction text generalizing piece with
  | nil =>
    rw [List.splitOn_nil, List.mem_singleton] at cut
    rw [cut]
    exact List.not_mem_nil
  | cons c text ih =>
    rw [List.splitOn_cons_eq_if_modifyHead] at cut
    split at cut
    · rcases List.mem_cons.mp cut with rfl | later
      · exact List.not_mem_nil
      · exact ih later
    · rename_i other
      obtain ⟨head, tail, pieces⟩ := List.exists_cons_of_ne_nil (List.splitOn_ne_nil ',' text)
      rw [pieces, List.modifyHead_cons] at cut
      rw [pieces] at ih
      rcases List.mem_cons.mp cut with rfl | later
      · have apart : ',' ≠ c := fun same => other (beq_iff_eq.mpr same.symm)
        exact List.not_mem_cons_of_ne_of_not_mem apart (ih List.mem_cons_self)
      · exact ih (List.mem_cons_of_mem head later)

theorem splitList_eq (list : String) : splitList list = itemsOf (list.toList.splitOn ',') := rfl

theorem spells_splitList (list : String) :
    Spells (splitList list) (list.toList.splitOn ',') :=
  spells_itemsOf fun _ => notMem_of_mem_splitOn

theorem Spells.splitList_eq {hosts : List String} {pieces : List (List Char)}
    (spelled : Spells hosts pieces) :
    splitList (String.ofList ([','].intercalate pieces)) = hosts := by
  cases pieces with
  | nil =>
    cases spelled
    rfl
  | cons piece pieces =>
    rw [Address.splitList_eq, String.toList_ofList,
      List.splitOn_intercalate ',' spelled.noComma (List.cons_ne_nil _ _), spelled.itemsOf_eq]

theorem splitList_intercalate {hosts : List String} (items : ∀ host ∈ hosts, IsItem host) :
    splitList (",".intercalate hosts) = hosts := by
  have spelling : ",".intercalate hosts =
      String.ofList ([','].intercalate (hosts.map String.toList)) := by
    rw [← String.toList_inj, String.toList_intercalate, String.toList_ofList,
      String.toList_ofList]
  rw [spelling, (spells_toList items).splitList_eq]

/-- The hosts of a list are items, whatever text it is. A text gives just the hosts that it spells:
blanks around them and blank pieces make no difference, and no host is lost, joined to another or
moved. Items joined by commas alone are given back, and so are the hosts of any list. -/
theorem splitList_exact :
    (∀ list, ∀ host ∈ splitList list, IsItem host) ∧
    (∀ hosts list, splitList list = hosts ↔
      ∃ pieces, Spells hosts pieces ∧ list = String.ofList ([','].intercalate pieces)) ∧
    (∀ hosts, splitList (",".intercalate hosts) = hosts ↔ ∀ host ∈ hosts, IsItem host) ∧
    ∀ list, splitList (",".intercalate (splitList list)) = splitList list := by
  have items (list : String) : ∀ host ∈ splitList list, IsItem host :=
    (spells_splitList list).isItem
  refine ⟨items, ?spelled, ?joined, fun list => splitList_intercalate (items list)⟩
  case spelled =>
    intro hosts list
    constructor
    · rintro rfl
      refine ⟨_, spells_splitList list, ?_⟩
      rw [List.intercalate_splitOn, String.ofList_toList]
    · rintro ⟨pieces, spelled, rfl⟩
      exact spelled.splitList_eq
  case joined =>
    intro hosts
    constructor
    · intro same
      rw [← same]
      exact items _
    · exact splitList_intercalate

end FileGateway.Address
