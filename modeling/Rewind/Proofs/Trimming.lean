/-
# Rewind.Proofs.Trimming -- what trimming takes off a text

Trimming takes white space off the end of a text, or off both ends, and as much of it as there
is.  So a text is what trimming leaves with white space around it (`exists_trim`), and a word
without white space is left just where that is all there is around it (`trim_eq_iff`).

Main statements: `exists_trimEnd`, `trimEnd_of_start` (a text that is cut may be trimmed to the
same) and `trim_eq_iff`.
-/
import Mathlib.Data.List.TakeWhile
import Rewind.Text.Blank

namespace Rewind.Text

set_option autoImplicit false

/-! ## White space at the end -/

/-- Trimming keeps a start. -/
theorem start_trimEnd (chars : List Char) : trimEnd chars <+: chars := by
  rw [trimEnd, ← List.reverse_suffix, List.reverse_reverse]
  exact List.dropWhile_suffix _

theorem trimEnd_append_blanks (chars : List Char) {late : List Char}
    (blank : ∀ c ∈ late, isBlank c = true) : trimEnd (chars ++ late) = trimEnd chars := by
  have blanks : ∀ c ∈ late.reverse, isBlank c = true :=
    fun c member => blank c (List.mem_reverse.mp member)
  rw [trimEnd, List.reverse_append, List.dropWhile_append_of_pos blanks, trimEnd]

/-- A text is what trimming leaves and white space behind it. -/
theorem exists_trimEnd (chars : List Char) :
    ∃ late, chars = trimEnd chars ++ late ∧ ∀ c ∈ late, isBlank c = true := by
  refine ⟨(chars.reverse.takeWhile isBlank).reverse, ?_, ?_⟩
  · rw [trimEnd, ← List.reverse_append, List.takeWhile_append_dropWhile, List.reverse_reverse]
  · intro c member
    exact List.mem_takeWhile_imp (List.mem_reverse.mp member)

/-- A start that has all that trimming leaves is trimmed to the same. -/
theorem trimEnd_of_start {chars kept lost : List Char} (split : chars = kept ++ lost)
    (enough : (trimEnd chars).length ≤ kept.length) : trimEnd kept = trimEnd chars := by
  obtain ⟨late, whole, blank⟩ := exists_trimEnd chars
  obtain ⟨middle, reached⟩ := List.prefix_of_prefix_length_le
    (start_trimEnd chars) ⟨lost, split.symm⟩ enough
  have inside : late = middle ++ lost := by
    refine (List.append_right_inj (trimEnd chars)).mp ?_
    rw [← whole, ← List.append_assoc, reached, split]
  have blanks : ∀ c ∈ middle, isBlank c = true := by
    intro c member
    exact blank c (by rw [inside]; exact List.mem_append_left _ member)
  calc trimEnd kept = trimEnd (trimEnd chars) := by
        rw [← reached, trimEnd_append_blanks _ blanks]
    _ = trimEnd (trimEnd chars ++ late) := (trimEnd_append_blanks _ blank).symm
    _ = trimEnd chars := by rw [← whole]

/-- A start is trimmed to a start. -/
theorem trimEnd_start {kept chars : List Char} (start : kept <+: chars) :
    trimEnd kept <+: trimEnd chars := by
  rcases Nat.le_total (trimEnd chars).length kept.length with enough | short
  · obtain ⟨lost, split⟩ := start
    have same : trimEnd kept = trimEnd chars := trimEnd_of_start split.symm enough
    exact same ▸ List.prefix_refl _
  · exact (start_trimEnd kept).trans
      (List.prefix_of_prefix_length_le start (start_trimEnd chars) short)

/-- No NUL is white space. -/
theorem nul_mem_trimEnd (chars : List Char) : '\x00' ∈ trimEnd chars ↔ '\x00' ∈ chars := by
  obtain ⟨late, whole, blank⟩ := exists_trimEnd chars
  constructor
  · intro member
    rw [whole]
    exact List.mem_append_left _ member
  · intro member
    rw [whole] at member
    rcases List.mem_append.mp member with front | back
    · exact front
    · exact absurd (blank _ back) (by decide)

/-! ## White space around a word -/

/-- No character is white space. -/
def Solid (word : List Char) : Prop := ∀ c ∈ word, isBlank c = false

-- Left to instance search, this may go through all the characters there are.
instance : DecidablePred Solid := fun word => List.decidableBAll (isBlank · = false) word

theorem Solid.trimEnd {word : List Char} (solid : Solid word) : trimEnd word = word := by
  obtain ⟨late, whole, blank⟩ := exists_trimEnd word
  cases late with
  | nil => rw [List.append_nil] at whole; exact whole.symm
  | cons c more =>
      have inside : c ∈ word := by
        rw [whole]
        exact List.mem_append_right _ List.mem_cons_self
      exact absurd (blank c List.mem_cons_self) (by rw [solid c inside]; decide)

/-- A text is what trimming leaves and white space around it. -/
theorem exists_trim (chars : List Char) :
    ∃ front back, chars = front ++ trim chars ++ back ∧ (∀ c ∈ front, isBlank c = true) ∧
      ∀ c ∈ back, isBlank c = true := by
  obtain ⟨back, whole, blank⟩ := exists_trimEnd (chars.dropWhile isBlank)
  refine ⟨chars.takeWhile isBlank, back, ?_, fun c => List.mem_takeWhile_imp, blank⟩
  rw [trim, List.append_assoc, ← whole, List.takeWhile_append_dropWhile]

theorem Solid.trim_padded {front word back : List Char} (solid : Solid word)
    (before : ∀ c ∈ front, isBlank c = true) (behind : ∀ c ∈ back, isBlank c = true) :
    trim (front ++ word ++ back) = word := by
  rw [trim, List.append_assoc, List.dropWhile_append_of_pos before]
  cases word with
  | nil => rw [List.nil_append, List.dropWhile_eq_nil_iff.mpr behind, trimEnd_nil]
  | cons c more =>
      have first : isBlank c = false := solid c List.mem_cons_self
      rw [List.cons_append, List.dropWhile_cons_of_neg (by rw [first]; decide), ← List.cons_append,
        trimEnd_append_blanks _ behind, solid.trimEnd]

/-- A word without white space is left just of itself with white space around it. -/
theorem trim_eq_iff {chars word : List Char} (solid : Solid word) :
    trim chars = word ↔ ∃ front back, chars = front ++ word ++ back ∧
      (∀ c ∈ front, isBlank c = true) ∧ ∀ c ∈ back, isBlank c = true := by
  constructor
  · rintro rfl
    exact exists_trim chars
  · rintro ⟨front, back, rfl, before, behind⟩
    exact solid.trim_padded before behind

end Rewind.Text
