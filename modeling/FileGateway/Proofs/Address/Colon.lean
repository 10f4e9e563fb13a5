import Mathlib.Data.List.Basic
import FileGateway.Address
import FileGateway.Proofs.Text.Blank

/-! The last colon of an address, and the name before it. Blanks are cut from both ends of a host
before it becomes an address; whether the host as it was listed has the name of its address depends
on where these blanks stand. -/
namespace FileGateway
namespace Address

theorem colon_visible : Blank.isBlank ':' = false := by decide

theorem splitLastColon_append (name : List Char) {port : List Char} (plain : ':' ∉ port) :
    splitLastColon (name ++ ':' :: port) = some (name, port) := by
  have other : ∀ c ∈ port.reverse, decide (c ≠ ':') = true := by
    intro c inside
    rw [decide_eq_true_iff]
    rintro rfl
    exact plain (List.mem_reverse.mp inside)
  have reversed : (name ++ ':' :: port).reverse = port.reverse ++ ':' :: name.reverse := by simp
  simp only [splitLastColon, reversed, List.dropWhile_append_of_pos other,
    List.takeWhile_append_of_pos other]
  simp

theorem splitLastColon_of_notMem {text : List Char} (plain : ':' ∉ text) :
    splitLastColon text = none := by
  have nothing : text.reverse.dropWhile (· ≠ ':') = [] := by
    rw [List.dropWhile_eq_nil_iff]
    intro c inside
    rw [decide_eq_true_iff]
    rintro rfl
    exact plain (List.mem_reverse.mp inside)
  simp only [splitLastColon, nothing]

theorem exists_lastColon {text : List Char} (colon : ':' ∈ text) :
    ∃ name port, text = name ++ ':' :: port ∧ ':' ∉ port := by
  obtain ⟨port, name, reversed, plain⟩ :=
    List.eq_append_cons_of_mem (List.mem_reverse.mpr colon)
  refine ⟨name.reverse, port.reverse, ?_, mt List.mem_reverse.mp plain⟩
  rw [← List.reverse_inj, reversed]
  simp

theorem splitLastColon_eq_none_iff {text : List Char} :
    splitLastColon text = none ↔ ':' ∉ text := by
  constructor
  · intro unsplit colon
    obtain ⟨name, port, rfl, plain⟩ := exists_lastColon colon
    rw [splitLastColon_append name plain] at unsplit
    cases unsplit
  · exact splitLastColon_of_notMem

theorem splitLastColon_eq_some_iff {text name port : List Char} :
    splitLastColon text = some (name, port) ↔ text = name ++ ':' :: port ∧ ':' ∉ port := by
  constructor
  · intro split
    have colon : ':' ∈ text := by
      by_contra plain
      rw [splitLastColon_of_notMem plain] at split
      contradiction
    obtain ⟨name', port', rfl, plain⟩ := exists_lastColon colon
    rw [splitLastColon_append name' plain] at split
    cases split
    exact ⟨rfl, plain⟩
  · rintro ⟨rfl, plain⟩
    exact splitLastColon_append name plain

theorem hostName_ofList_append (name : List Char) {port : List Char} (plain : ':' ∉ port) :
    hostName (String.ofList (name ++ ':' :: port)) = String.ofList name := by
  rw [hostName, String.toList_ofList, splitLastColon_append name plain]

theorem hostName_of_notMem {address : String} (plain : ':' ∉ address.toList) :
    hostName address = address := by
  rw [hostName, splitLastColon_of_notMem plain]

theorem isDigit_of_mem_toString {port : Nat} {c : Char} (inside : c ∈ (toString port).toList) :
    c.isDigit = true := by
  apply Nat.isDigit_of_mem_toDigits (b := 10) (n := port) (by decide) (by decide)
  rwa [← Nat.toList_repr]

theorem colon_notMem_toString (port : Nat) : ':' ∉ (toString port).toList := by
  intro inside
  have digit := isDigit_of_mem_toString inside
  contradiction

theorem toList_ofPort (name : String) (port : Nat) :
    (ofPort name port).toList = name.toList ++ ':' :: (toString port).toList := by
  simp [ofPort]

@[simp]
theorem hostName_ofPort (name : String) (port : Nat) : hostName (ofPort name port) = name := by
  rw [hostName, toList_ofPort, splitLastColon_append _ (colon_notMem_toString port)]
  exact String.ofList_toList

/-- No blanks stand before the host, and none behind it unless they follow a port. -/
def KeepsName (host : String) : Prop :=
  Blank.trimStart host.toList = host.toList ∧
    (':' ∈ host.toList ∨ Blank.trimEnd host.toList = host.toList)

instance (host : String) : Decidable (KeepsName host) := instDecidableAnd

/-- A host has the name that it has without the blanks around it. -/
theorem hostName_eq_hostName_trim_iff {host : String} :
    hostName host = hostName (String.ofList (Blank.trim host.toList)) ↔ KeepsName host := by
  have trimmed : ':' ∈ Blank.trim host.toList ↔ ':' ∈ host.toList :=
    Blank.mem_trim_iff colon_visible
  by_cases colon : ':' ∈ host.toList
  · obtain ⟨name, port, cut, plain⟩ := exists_lastColon (trimmed.mpr colon)
    obtain ⟨back, split, blanks⟩ := Blank.exists_blanks host.toList
    have plain' : ':' ∉ port ++ back := by
      rw [List.mem_append]
      rintro (inside | after)
      · exact plain inside
      · exact Blank.notMem_of_blanks colon_visible blanks after
    have spelled : host =
        String.ofList (host.toList.takeWhile Blank.isBlank ++ name ++ ':' :: (port ++ back)) := by
      rw [← String.toList_inj, String.toList_ofList]
      conv_lhs => rw [split, cut]
      simp
    rw [KeepsName, Blank.trimStart_eq_self_iff, cut, hostName_ofList_append name plain]
    conv_lhs => rw [spelled, hostName_ofList_append _ plain', String.ofList_inj]
    simp [colon]
  · have plain : ':' ∉ (String.ofList (Blank.trim host.toList)).toList := by
      rwa [String.toList_ofList, trimmed]
    rw [hostName_of_notMem colon, hostName_of_notMem plain, KeepsName, or_iff_right colon,
      ← Blank.trim_eq_self_iff, ← String.toList_inj, String.toList_ofList, eq_comm]

theorem keepsName_of_mem_splitList {list host : String} (listed : host ∈ splitList list) :
    KeepsName host := by
  simp only [splitList, List.mem_map, List.mem_filter] at listed
  obtain ⟨_, ⟨⟨piece, -, rfl⟩, -⟩, rfl⟩ := listed
  simp [KeepsName]

end Address
end FileGateway
