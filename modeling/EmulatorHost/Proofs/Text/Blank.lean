import EmulatorHost.Text.Blank
import Mathlib.Data.List.DropRight
import Mathlib.Data.List.TakeWhile

/-!
# Trimming

Blanks around a text do not count for what is left of it when it is trimmed, and a character that is
no blank keeps what stands before it apart from what stands after it. Both follow from how far the
blanks at one end reach.
-/

namespace EmulatorHost.Text

variable {gap text before after : List Char} {mark : Char}

/-- A character that is no blank ends the blanks before it. -/
theorem dropWhile_blank_append (hmark : isBlank mark = false) (before after : List Char) :
    (before ++ mark :: after).dropWhile isBlank = before.dropWhile isBlank ++ mark :: after := by
  rw [List.dropWhile_append]
  split
  · rename_i hnone
    rw [List.isEmpty_iff.mp hnone, List.dropWhile_cons_of_neg (by simp [hmark])]
    rfl
  · rfl

theorem rdropWhile_blank_append (hmark : isBlank mark = false) (before after : List Char) :
    (before ++ mark :: after).rdropWhile isBlank = before ++ mark :: after.rdropWhile isBlank := by
  have hreverse : (before ++ mark :: after).reverse = after.reverse ++ mark :: before.reverse := by
    simp
  rw [List.rdropWhile, hreverse, dropWhile_blank_append hmark]
  simp [List.rdropWhile]

theorem trimChars_eq (text : List Char) :
    trimChars text = (text.dropWhile isBlank).rdropWhile isBlank :=
  rfl

theorem trimChars_blanks_append (hgap : ∀ c ∈ gap, isBlank c = true) (text : List Char) :
    trimChars (gap ++ text) = trimChars text := by
  rw [trimChars_eq, List.dropWhile_append_of_pos hgap, ← trimChars_eq]

theorem trimChars_append_blanks (hgap : ∀ c ∈ gap, isBlank c = true) (text : List Char) :
    trimChars (text ++ gap) = trimChars text := by
  rw [trimChars_eq, trimChars_eq, List.dropWhile_append]
  split
  · rename_i hnone
    rw [List.isEmpty_iff.mp hnone, List.dropWhile_eq_nil_iff.mpr hgap]
  · have hgap' : ∀ c ∈ gap.reverse, isBlank c = true := by
      simpa using hgap
    rw [List.rdropWhile, List.reverse_append, List.dropWhile_append_of_pos hgap']
    rfl

theorem trimChars_dropWhile (text : List Char) : trimChars (text.dropWhile isBlank) = trimChars text := by
  rw [trimChars_eq, List.dropWhile_idempotent, ← trimChars_eq]

theorem trimChars_rdropWhile (text : List Char) :
    trimChars (text.rdropWhile isBlank) = trimChars text := by
  have hgap : ∀ c ∈ text.rtakeWhile isBlank, isBlank c = true := fun c hc =>
    List.mem_rtakeWhile_imp hc
  rw [← trimChars_append_blanks hgap, List.rdropWhile_append_rtakeWhile]

theorem mem_of_mem_trimChars {c : Char} (hc : c ∈ trimChars text) : c ∈ text :=
  (List.dropWhile_sublist isBlank).mem ((List.rdropWhile_prefix isBlank _).subset hc)

/-- What is trimmed begins with the first character that is no blank. -/
theorem head?_trimChars (text : List Char) :
    (trimChars text).head? = (text.dropWhile isBlank).head? := by
  rw [trimChars_eq]
  rcases hleft : text.dropWhile isBlank with _ | ⟨c, later⟩
  · rfl
  · have hplain : isBlank c = false := by
      have hfirst := List.head?_dropWhile_not isBlank text
      rwa [hleft] at hfirst
    have happend := rdropWhile_blank_append hplain [] later
    rw [List.nil_append, List.nil_append] at happend
    rw [happend]
    rfl

theorem trimChars_append_mark (hmark : isBlank mark = false) (before after : List Char) :
    trimChars (before ++ mark :: after) =
      before.dropWhile isBlank ++ mark :: after.rdropWhile isBlank := by
  rw [trimChars_eq, dropWhile_blank_append hmark, rdropWhile_blank_append hmark]

end EmulatorHost.Text
