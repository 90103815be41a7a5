/-
# Rewind.Frontend.Pattern.Escape -- backslashes in a written pattern

A backslash stands in front of a mark that is meant as a letter, or makes a letter mean
a kind of characters, a place or a character that is hard to write.

Where space is free, white space and comments may stand almost anywhere and count for
nothing; a comment goes from a number sign to the end of its line.

Each reader takes the pattern from a place on and gives what it read and what is left.
-/
import Rewind.Text.Blank
import Rewind.Text.Hexadecimal
import Rewind.Frontend.Pattern.Tree

namespace Rewind.Frontend.Pattern

set_option autoImplicit false

open Text

/-- What was read of a pattern, and what is left. -/
abbrev Part (α : Type) := α × List Char

/-! ## Free space -/

/-- What is left behind free space, or inside a comment behind the comment and what free
space follows it. -/
def skipSpace : (comment : Bool) → List Char → List Char
  | _, [] => []
  | true, c :: rest => skipSpace (c != '\n') rest
  | false, c :: rest =>
      if isBlank c then skipSpace false rest
      else if c = '#' then skipSpace true rest
      else c :: rest

/-- What is left behind free space, where space is free. -/
def skip (free : Bool) (rest : List Char) : List Char := if free then skipSpace false rest else rest

theorem length_skipSpace_le (comment : Bool) (rest : List Char) :
    (skipSpace comment rest).length ≤ rest.length := by
  induction rest generalizing comment with
  | nil => simp [skipSpace]
  | cons c rest ih =>
      cases comment with
      | true => exact Nat.le_trans (ih _) (Nat.le_succ _)
      | false =>
          simp only [skipSpace]
          split
          · exact Nat.le_trans (ih _) (Nat.le_succ _)
          · split
            · exact Nat.le_trans (ih _) (Nat.le_succ _)
            · exact Nat.le_refl _

theorem length_skip_le (free : Bool) (rest : List Char) :
    (skip free rest).length ≤ rest.length := by
  cases free
  · exact Nat.le_refl _
  · exact length_skipSpace_le false rest

/-- Characters of a sort in a row, last first, in front of which others were read.  Free space
behind each of them counts for nothing. -/
def runFrom (free : Bool) (sort : Char → Bool) (read rest : List Char) : Part (List Char) :=
  match rest with
  | [] => (read, [])
  | c :: rest =>
      if sort c then runFrom free sort (c :: read) (skip free rest) else (read, c :: rest)
termination_by rest.length
decreasing_by exact Nat.lt_succ_of_le (length_skip_le free rest)

def run (free : Bool) (sort : Char → Bool) (rest : List Char) : Part (List Char) :=
  let (read, left) := runFrom free sort [] rest
  (read.reverse, left)

/-! ## Characters by their number -/

/-- The least number that is too great for a character. -/
def charLimit : Nat := 0x110000

/-- The number that hexadecimal digits write, if it is not too great for a character. -/
def hexValue (digits : List Char) : Nat :=
  digits.foldl (fun n c => min (16 * n + (digitValue? c).getD 0) charLimit) 0

def charOf (n : Nat) (start stop : List Char) : Attempt Char :=
  if n.isValidChar then .ok (Char.ofNat n) else fail .hexInvalid start stop

/-- So many hexadecimal digits, behind which a number was read. -/
def readDigits (free : Bool) : Nat → Nat → List Char → Attempt (Part Nat)
  | 0, n, rest => .ok (n, rest)
  | _ + 1, _, [] => fail .escapeEnd [] []
  | count + 1, n, c :: rest =>
      match digitValue? c with
      | some digit => readDigits free count (16 * n + digit) (skip free rest)
      | none => fail .hexDigit (c :: rest) rest

/-- A character by its number in braces, of which the first was read at `brace`. -/
def readBraced (free : Bool) (brace inside : List Char) : Attempt (Part Char) :=
  let (digits, closing) := run free (fun c => (digitValue? c).isSome) (skip free inside)
  match closing with
  | [] => fail .escapeEnd brace []
  | '\x7d' :: rest =>
      let left := skip free rest
      if digits.isEmpty then fail .hexEmpty brace left
      else (charOf (hexValue digits) inside closing).map fun c => (c, left)
  | c :: rest => fail .hexDigit (c :: rest) rest

/-- A character by its number: so many digits, or any number of them in braces. -/
def readNumbered (free : Bool) (width : Nat) (rest : List Char) : Attempt (Part Char) :=
  match rest with
  | [] => fail .escapeEnd [] []
  | '\x7b' :: inside => readBraced free rest inside
  | _ => do
      let (n, left) ← readDigits free width 0 rest
      return (← charOf n rest left, left)

/-- How many digits the number of a character has behind such a letter. -/
def widthOf? (c : Char) : Option Nat :=
  match c with
  | 'x' => some 2
  | 'u' => some 4
  | 'U' => some 8
  | _ => none

/-! ## Properties and words -/

/-- The name of a property: one character, or any number of them in braces. -/
def readProperty (free : Bool) (rest : List Char) : Attempt (Part (List Char)) :=
  match rest with
  | [] => fail .escapeEnd [] []
  | '\x7b' :: inside =>
      let (name, closing) := run free (· != '\x7d') (skip free inside)
      if closing.isEmpty then fail .escapeEnd [] [] else .ok (name, closing.drop 1)
  | '\\' :: left => fail .propertyInvalid rest left
  | c :: left => .ok ([c], skip free left)

/-- The places at words that have a name. -/
def namedEdges : List (String × WordEdge) :=
  [("start", .start), ("end", .stop), ("start-half", .startHalf), ("end-half", .stopHalf)]

/-- A place at words by its name in braces, of which the first is at `brace`; the backslash
is at `start`.  Nothing if the braces hold numbers. -/
def readEdge (free : Bool) (start brace : List Char) : Attempt (Option (Part WordEdge)) :=
  let inside := skip free (brace.drop 1)
  let isNameChar (c : Char) := c.isAlpha || c == '-'
  match inside with
  | [] => fail .wordEdgeEnd start []
  | c :: _ =>
      if !isNameChar c then .ok none
      else
        let (name, closing) := run free isNameChar inside
        match closing with
        | '\x7d' :: left =>
            match namedEdges.lookup (String.ofList name) with
            | some edge => .ok (some (edge, left))
            | none => fail .wordEdgeUnknown inside closing
        | _ => fail .wordEdgeUnclosed brace closing

/-- Behind the letter of a word boundary: the boundary, or another place at words that is
named there. -/
def readBoundary (free : Bool) (start rest : List Char) : Attempt (Part WordEdge) :=
  match rest with
  | '\x7b' :: _ => do return (← readEdge free start rest).getD (.boundary, rest)
  | _ => .ok (.boundary, rest)

/-! ## What a backslash means -/

/-- The kinds of characters that a letter behind a backslash means; negated for capitals. -/
def kindOf? (c : Char) : Option (Kind × Bool) :=
  match c with
  | 'd' => some (.digit, false)
  | 'D' => some (.digit, true)
  | 's' => some (.space, false)
  | 'S' => some (.space, true)
  | 'w' => some (.wordChar, false)
  | 'W' => some (.wordChar, true)
  | _ => none

def anchorOf? (c : Char) : Option Anchor :=
  match c with
  | 'A' => some .textStart
  | 'z' => some .textEnd
  | 'B' => some (.word .noBoundary)
  | '<' => some (.word .start)
  | '>' => some (.word .stop)
  | _ => none

def controlOf? (c : Char) : Option Char :=
  match c with
  | 'a' => some '\x07'
  | 'f' => some '\x0c'
  | 't' => some '\t'
  | 'n' => some '\n'
  | 'r' => some '\r'
  | 'v' => some '\x0b'
  | _ => none

/-- The character stands for itself behind a backslash. -/
def isMark (c : Char) : Bool := c.toNat < 128 && !c.isAlphanum && c != '<' && c != '>'

/-- What a backslash at `start` and the characters behind it stand for. -/
def readEscape (free : Bool) (start : List Char) : List Char → Attempt (Part Tree)
  | [] => fail .escapeEnd start []
  | c :: rest =>
      let span : Span := ⟨start, rest⟩
      if c.isDigit then fail .backReference start rest
      else if isMark c then .ok (.letter ⟨span, c, false⟩, rest)
      else if c = 'p' ∨ c = 'P' then do
        let (name, left) ← readProperty free (skip free rest)
        return (.property ⟨start, left⟩ name, left)
      else if c = 'b' then do
        let (edge, left) ← readBoundary free start rest
        return (.anchor ⟨start, left⟩ (.word edge), left)
      else
        match widthOf? c, kindOf? c, anchorOf? c, controlOf? c with
        | some width, _, _, _ => do
            let digits := skip free rest
            let (named, left) ← readNumbered free width digits
            return (.letter ⟨⟨start, left⟩, named, c == 'x' && digits.head? != some '\x7b'⟩, left)
        | _, some (kind, negated), _, _ => .ok (.kind span kind negated, rest)
        | _, _, some anchor, _ => .ok (.anchor span anchor, rest)
        | _, _, _, some control => .ok (.letter ⟨span, control, false⟩, rest)
        | none, none, none, none => fail .escapeUnknown start rest

end Rewind.Frontend.Pattern
