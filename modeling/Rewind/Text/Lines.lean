/-
# Rewind.Text.Lines -- a text as lines

A line feed ends a line, and a carriage return right in front of it belongs to it.  What
is behind the last line feed is a line too, unless nothing is there.

Main statement: `lines_join` (lines that were each ended by a line feed are read back).
-/

namespace Rewind.Text

set_option autoImplicit false

/-- A line without the carriage return at its end. -/
def withoutReturn (line : List Char) : List Char :=
  if line.getLast? = some '\r' then line.dropLast else line

/-- The pieces of a text between line feeds. -/
def linePieces (chars : List Char) : List (List Char) := chars.splitOnP (· == '\n')

def lines (chars : List Char) : List (List Char) :=
  let pieces := linePieces chars
  pieces.dropLast.map withoutReturn ++ (pieces.getLast?.toList.filter (!·.isEmpty))

def linesOf (text : String) : List String := (lines text.toList).map String.ofList

theorem withoutReturn_of_not_mem {line : List Char} (plain : '\r' ∉ line) :
    withoutReturn line = line := by
  refine if_neg fun ends => plain ?_
  exact List.mem_of_getLast? ends

theorem linePieces_join {written : List (List Char)} (plain : ∀ line ∈ written, '\n' ∉ line) :
    linePieces (written.flatMap (· ++ ['\n'])) = written ++ [[]] := by
  induction written with
  | nil => rfl
  | cons line rest ih =>
      have first : ∀ c ∈ line, (c == '\n') = false := by
        intro c member
        have := plain line List.mem_cons_self
        grind
      have others := ih fun line member => plain line (List.mem_cons_of_mem _ member)
      simp only [linePieces] at others
      simp only [linePieces, List.flatMap_cons, List.append_assoc, List.cons_append,
        List.splitOnP_append_cons_of_forall_mem first '\n' rfl, List.nil_append, others]

/-- Lines that were each ended by a line feed are read back. -/
theorem lines_join {written : List (List Char)} (plain : ∀ line ∈ written, '\n' ∉ line)
    (bare : ∀ line ∈ written, '\r' ∉ line) :
    lines (written.flatMap (· ++ ['\n'])) = written := by
  have same : written.map withoutReturn = written := by
    rw [List.map_congr_left fun line member => withoutReturn_of_not_mem (bare line member)]
    exact List.map_id' written
  simp [lines, linePieces_join plain, same]

end Rewind.Text
