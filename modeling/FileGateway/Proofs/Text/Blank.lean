import Mathlib.Data.List.DropRight
import FileGateway.Address

/-! A trimmed text is what stands between the blanks at the two ends of a text. -/
namespace FileGateway.Blank

theorem isBlank_of_isDigit {c : Char} (digit : c.isDigit = true) : isBlank c = false := by
  have range : 48 ≤ c.toNat ∧ c.toNat ≤ 57 := by
    simpa [Char.isDigit, UInt32.le_iff_toNat_le] using digit
  simp only [isBlank, ranges, List.any_eq_false, List.mem_cons, List.not_mem_nil]
  rintro ⟨first, last⟩ inside
  simp only [Bool.and_eq_true, decide_eq_true_eq]
  grind

theorem trimStart_eq_self_iff {text : List Char} :
    trimStart text = text ↔ text.takeWhile isBlank = [] := by
  have split : text.takeWhile isBlank ++ trimStart text = text :=
    List.takeWhile_append_dropWhile
  constructor
  · intro same
    rw [same] at split
    exact List.append_left_eq_self.mp split
  · intro nothing
    rwa [nothing, List.nil_append] at split

/-- The end of a text plays no part in whether it starts with a blank. -/
theorem trimStart_of_append {text back : List Char}
    (same : trimStart (text ++ back) = text ++ back) : trimStart text = text := by
  cases text with
  | nil => rfl
  | cons c text =>
    cases blank : isBlank c with
    | false => exact List.dropWhile_cons_of_neg (Bool.eq_false_iff.mp blank)
    | true =>
      rw [trimStart_eq_self_iff, List.cons_append, List.takeWhile_cons_of_pos blank] at same
      exact absurd same (List.cons_ne_nil _ _)

theorem trim_append_rtakeWhile (text : List Char) :
    trim text ++ (trimStart text).rtakeWhile isBlank = trimStart text :=
  List.rdropWhile_append_rtakeWhile

/-- The blanks that are cut from both ends of a text. -/
theorem exists_blanks (text : List Char) : ∃ back,
    text = text.takeWhile isBlank ++ trim text ++ back ∧ ∀ c ∈ back, isBlank c = true := by
  refine ⟨(trimStart text).rtakeWhile isBlank, ?_, fun c => List.mem_rtakeWhile_imp⟩
  rw [List.append_assoc, trim_append_rtakeWhile]
  exact List.takeWhile_append_dropWhile.symm

theorem trim_eq_self_iff {text : List Char} :
    trim text = text ↔ trimStart text = text ∧ trimEnd text = text := by
  constructor
  · intro same
    obtain ⟨back, split, -⟩ := exists_blanks text
    have lengths := congrArg List.length split
    rw [same, List.length_append, List.length_append] at lengths
    have started : trimStart text = text :=
      trimStart_eq_self_iff.mpr (List.length_eq_zero_iff.mp (by omega))
    rw [trim, started] at same
    exact ⟨started, same⟩
  · rintro ⟨started, ended⟩
    rw [trim, started, ended]

@[simp]
theorem trimStart_trim (text : List Char) : trimStart (trim text) = trim text := by
  apply trimStart_of_append
  rw [trim_append_rtakeWhile]
  exact List.dropWhile_idempotent isBlank text

@[simp]
theorem trimEnd_trim (text : List Char) : trimEnd (trim text) = trim text :=
  List.rdropWhile_idempotent isBlank (trimStart text)

theorem notMem_of_blanks {text : List Char} {c : Char} (visible : isBlank c = false)
    (blanks : ∀ c ∈ text, isBlank c = true) : c ∉ text :=
  fun inside => absurd (blanks c inside) (Bool.eq_false_iff.mp visible)

/-- Visible characters are not cut off. -/
theorem mem_trim_iff {text : List Char} {c : Char} (visible : isBlank c = false) :
    c ∈ trim text ↔ c ∈ text := by
  obtain ⟨back, split, blanks⟩ := exists_blanks text
  constructor
  · intro inside
    rw [split]
    exact List.mem_append_left _ (List.mem_append_right _ inside)
  · intro inside
    rw [split, List.mem_append, List.mem_append] at inside
    rcases inside with (before | inside) | after
    · exact absurd before (notMem_of_blanks visible fun _ => List.mem_takeWhile_imp)
    · exact inside
    · exact absurd after (notMem_of_blanks visible blanks)

/-- Blanks around a text play no part in what is left of it. -/
theorem trim_append_blanks {front back : List Char} (before : ∀ c ∈ front, isBlank c = true)
    (after : ∀ c ∈ back, isBlank c = true) (text : List Char) :
    trim (front ++ text ++ back) = trim text := by
  have reversed : ∀ c ∈ back.reverse, isBlank c = true :=
    fun c inside => after c (List.mem_reverse.mp inside)
  rw [trim, List.append_assoc, trimStart, List.dropWhile_append_of_pos before,
    List.dropWhile_append]
  split
  · rename_i nothing
    rw [List.dropWhile_eq_nil_iff.mpr after, trim, trimStart, List.isEmpty_iff.mp nothing]
  · rw [trimEnd, List.reverse_append, trimStart, List.dropWhile_append_of_pos reversed]
    rfl

theorem trim_eq_nil_iff {text : List Char} : trim text = [] ↔ ∀ c ∈ text, isBlank c = true := by
  constructor
  · intro nothing
    obtain ⟨back, split, blanks⟩ := exists_blanks text
    rw [nothing, List.append_nil] at split
    intro c inside
    rw [split, List.mem_append] at inside
    rcases inside with before | after
    · exact List.mem_takeWhile_imp before
    · exact blanks c after
  · intro blanks
    have nothing : ∀ c ∈ ([] : List Char), isBlank c = true := nofun
    have same := trim_append_blanks blanks nothing []
    rwa [List.append_nil, List.append_nil] at same

theorem trimStart_eq_self_iff_head? {text : List Char} :
    trimStart text = text ↔ ∀ c ∈ text.head?, isBlank c = false := by
  rw [trimStart_eq_self_iff]
  cases text <;> simp

theorem trimEnd_eq_self_iff_getLast? {text : List Char} :
    trimEnd text = text ↔ ∀ c ∈ text.getLast?, isBlank c = false := by
  rw [← List.head?_reverse, ← trimStart_eq_self_iff_head?, trimEnd, List.reverse_eq_iff]

end FileGateway.Blank
