import Mathlib.Data.List.DropRight
import PageMarks.Text.Blank

/-! A text without the blanks at its ends, apart from how these are taken off. -/

namespace PageMarks.Text

variable {text core blanks : List Char}

structure Trimmed (text core : List Char) : Prop where
  around : ∃ before after, text = before ++ (core ++ after) ∧ (∀ c ∈ before, isBlank c = true) ∧
    ∀ c ∈ after, isBlank c = true
  head : ∀ c ∈ core.head?, isBlank c = false
  last : ∀ c ∈ core.getLast?, isBlank c = false

theorem trim_trimmed (text : List Char) : Trimmed text (trim text) where
  around := by
    refine ⟨text.takeWhile isBlank, (text.dropWhile isBlank).rtakeWhile isBlank, ?_,
      fun c member => List.mem_takeWhile_imp member, fun c member => List.mem_rtakeWhile_imp member⟩
    change text = _ ++ ((text.dropWhile isBlank).rdropWhile isBlank ++ _)
    rw [List.rdropWhile_append_rtakeWhile, List.takeWhile_append_dropWhile]
  head := by
    intro c first
    obtain ⟨rest, is⟩ := List.head?_eq_some_iff.mp first
    obtain ⟨more, whole⟩ := List.rdropWhile_prefix isBlank (l := text.dropWhile isBlank)
    have begins : (text.dropWhile isBlank).head? = some c := by
      rw [← whole]
      change (trim text ++ more).head? = _
      rw [is]
      rfl
    have solid := List.head?_dropWhile_not isBlank text
    rwa [begins] at solid
  last := by
    intro c last
    have some : (text.dropWhile isBlank).rdropWhile isBlank ≠ [] := fun none => by
      change trim text = [] at none
      rw [none] at last
      cases last
    have solid := List.rdropWhile_last_not isBlank _ some
    rw [(List.getLast_eq_iff_getLast?_eq_some some).mpr last] at solid
    exact eq_false_of_ne_true solid

theorem trimmed_iff : Trimmed text core ↔ trim text = core := by
  constructor
  · rintro ⟨⟨before, after, rfl, blank, blank'⟩, head, last⟩
    rw [trim, List.dropWhile_append_of_pos blank]
    cases core with
    | nil => simp [List.dropWhile_eq_nil_iff.mpr blank']
    | cons c rest =>
      have first : ¬isBlank c = true := by simp [head c rfl]
      rw [List.cons_append, List.dropWhile_cons_of_neg first, ← List.cons_append, List.reverse_append,
        List.dropWhile_append_of_pos fun c member => blank' c (List.mem_reverse.mp member)]
      refine List.rdropWhile_eq_self_iff.mpr fun some => ?_
      simp [last _ (List.getLast_mem_getLast? some)]
  · rintro rfl
    exact trim_trimmed text

theorem trim_blank_append (blank : ∀ c ∈ blanks, isBlank c = true) (text : List Char) :
    trim (blanks ++ text) = trim text := by
  rw [trim, List.dropWhile_append_of_pos blank, trim]

theorem trim_append_blank (blank : ∀ c ∈ blanks, isBlank c = true) (text : List Char) :
    trim (text ++ blanks) = trim text := by
  obtain ⟨⟨before, after, whole, blank₁, blank₂⟩, head, last⟩ := trim_trimmed text
  refine trimmed_iff.mp ⟨⟨before, after ++ blanks, ?_, blank₁, ?_⟩, head, last⟩
  · conv_lhs => rw [whole]
    simp only [List.append_assoc]
  · exact List.forall_mem_append.mpr ⟨blank₂, blank⟩

theorem trim_eq_nil : trim text = [] ↔ ∀ c ∈ text, isBlank c = true := by
  rw [← trimmed_iff]
  constructor
  · rintro ⟨⟨before, after, rfl, blank₁, blank₂⟩, -, -⟩
    exact List.forall_mem_append.mpr ⟨blank₁, blank₂⟩
  · exact fun blank => ⟨⟨text, [], by simp, blank, by simp⟩, nofun, nofun⟩

theorem trim_trim (text : List Char) : trim (trim text) = trim text := by
  obtain ⟨-, head, last⟩ := trim_trimmed text
  exact trimmed_iff.mp ⟨⟨[], [], by simp, by simp, by simp⟩, head, last⟩

end PageMarks.Text
