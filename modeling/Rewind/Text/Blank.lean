/-
# Rewind.Text.Blank -- white space, and texts without it at their ends

White space is the Unicode property `White_Space`.

Main statements: `isBlank_of_isWhitespace` (ASCII white space is white space) and
`trimEnd_append_mark` (a last character that is none stays).
-/

namespace Rewind.Text

set_option autoImplicit false

/-- The code points with the property `White_Space`, as inclusive ranges. -/
def blanks : List (Nat × Nat) :=
  [(0x9, 0xd), (0x20, 0x20), (0x85, 0x85), (0xa0, 0xa0), (0x1680, 0x1680), (0x2000, 0x200a),
   (0x2028, 0x2029), (0x202f, 0x202f), (0x205f, 0x205f), (0x3000, 0x3000)]

def isBlank (c : Char) : Bool :=
  blanks.any fun range => range.1 ≤ c.toNat && c.toNat ≤ range.2

/-- The characters up to the last that is not white space. -/
def trimEnd (chars : List Char) : List Char :=
  (chars.reverse.dropWhile isBlank).reverse

/-- The characters from the first to the last that is not white space. -/
def trim (chars : List Char) : List Char :=
  trimEnd (chars.dropWhile isBlank)

theorem isBlank_of_isWhitespace {c : Char} (h : c.isWhitespace = true) : isBlank c = true := by
  simp only [Char.isWhitespace, Bool.or_eq_true, decide_eq_true_eq] at h
  rcases h with ((rfl | rfl) | rfl) | rfl <;> rfl

@[simp] theorem trimEnd_nil : trimEnd [] = [] := rfl

/-- A text that ends in a mark is not cut. -/
theorem trimEnd_append_mark (chars : List Char) {c : Char} (h : isBlank c = false) :
    trimEnd (chars ++ [c]) = chars ++ [c] := by
  simp [trimEnd, h]

end Rewind.Text
