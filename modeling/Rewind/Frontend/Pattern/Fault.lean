/-
# Rewind.Frontend.Pattern.Fault -- what is wrong in a written pattern

A fault is a mistake and the pieces of the written pattern that it is about.  It is shown
as the lines of the pattern with marks under these pieces, and the mistake in words.  A
piece over more than one line is told in words.

A place in a pattern is what is left of the pattern from there on.
-/
import Rewind.Text.Lines
import Rewind.Text.Numeral

namespace Rewind.Frontend.Pattern

set_option autoImplicit false

open Text

inductive Mistake
  | backReference
  | caseOfAllScripts
  | classEscape
  | classRange
  | classRangeBoundary
  | classUnclosed
  | countEmpty
  | countInvalid
  | countRange
  | countUnclosed
  | escapeEnd
  | escapeUnknown
  | flagDangling
  | flagDuplicate
  | flagEnd
  | flagNegationRepeated
  | flagUnknown
  | groupNameDuplicate
  | groupNameEmpty
  | groupNameEnd
  | groupNameInvalid
  | groupUnclosed
  | groupUnopened
  | hexDigit
  | hexEmpty
  | hexInvalid
  | kindOfAllScripts
  | lookAround
  | noText
  | notAscii
  | propertyInvalid
  | propertyUnknown
  | propertyValueUnknown
  | repetitionMissing
  | tooDeep (limit : Nat)
  | wordEdgeEnd
  | wordEdgeUnclosed
  | wordEdgeUnknown
  deriving DecidableEq, Repr

def Mistake.message : Mistake → String
  | backReference => "backreferences are not supported"
  | caseOfAllScripts => "Unicode-aware case insensitivity matching is not available " ++
      "(make sure the unicode-case feature is enabled)"
  | classEscape => "invalid escape sequence found in character class"
  | classRange => "invalid character class range, the start must be <= the end"
  | classRangeBoundary => "invalid range boundary, must be a literal"
  | classUnclosed => "unclosed character class"
  | countEmpty => "repetition quantifier expects a valid decimal"
  | countInvalid => "decimal literal invalid"
  | countRange => "invalid repetition count range, the start must be <= the end"
  | countUnclosed => "unclosed counted repetition"
  | escapeEnd => "incomplete escape sequence, reached end of pattern prematurely"
  | escapeUnknown => "unrecognized escape sequence"
  | flagDangling => "dangling flag negation operator"
  | flagDuplicate => "duplicate flag"
  | flagEnd => "expected flag but got end of regex"
  | flagNegationRepeated => "flag negation operator repeated"
  | flagUnknown => "unrecognized flag"
  | groupNameDuplicate => "duplicate capture group name"
  | groupNameEmpty => "empty capture group name"
  | groupNameEnd => "unclosed capture group name"
  | groupNameInvalid => "invalid capture group character"
  | groupUnclosed => "unclosed group"
  | groupUnopened => "unopened group"
  | hexDigit => "invalid hexadecimal digit"
  | hexEmpty => "hexadecimal literal empty"
  | hexInvalid => "hexadecimal literal is not a Unicode scalar value"
  | kindOfAllScripts => "Unicode-aware Perl class not found " ++
      "(make sure the unicode-perl feature is enabled)"
  | lookAround => "look-around, including look-ahead and look-behind, is not supported"
  | noText => "pattern can match invalid UTF-8"
  | notAscii => "Unicode not allowed here"
  | propertyInvalid => "invalid Unicode character class"
  | propertyUnknown => "Unicode property not found"
  | propertyValueUnknown => "Unicode property value not found"
  | repetitionMissing => "repetition operator missing expression"
  | tooDeep limit => "exceed the maximum number of nested parentheses/brackets (" ++
      decimal limit ++ ")"
  | wordEdgeEnd => "found either the beginning of a special word boundary or a bounded " ++
      "repetition on a \\b with an opening brace, but no closing brace"
  | wordEdgeUnclosed => "special word boundary assertion is either unclosed or contains an " ++
      "invalid character"
  | wordEdgeUnknown => "unrecognized special word boundary assertion, valid choices are: " ++
      "start, end, start-half or end-half"

/-- A piece of a pattern: what is left at its start and at its end. -/
structure Span where
  start : List Char
  stop : List Char
  deriving DecidableEq, Repr

/-- A mistake, and the pieces it is about from left to right. -/
structure Fault where
  mistake : Mistake
  spans : List Span
  deriving DecidableEq, Repr

abbrev Attempt := Except Fault

def fail {α : Type} (mistake : Mistake) (start stop : List Char) : Attempt α :=
  .error ⟨mistake, [⟨start, stop⟩]⟩

/-- A place in a text of lines; both numbers count from one. -/
structure Spot where
  line : Nat
  column : Nat
  deriving DecidableEq, Repr

/-- Where a place is in a pattern of so many characters. -/
def spotOf (pattern rest : List Char) : Spot :=
  let passed := pattern.take (pattern.length - rest.length)
  ⟨passed.count '\n' + 1, (passed.reverse.takeWhile (· != '\n')).length + 1⟩

namespace Fault

/-- Marks under a piece of a line, behind those under the pieces to its left; an empty piece
has one mark. -/
def markOne (line : List Char) (piece : Spot × Spot) : List Char :=
  line ++ List.replicate (piece.1.column - 1 - line.length) ' ' ++
    List.replicate (max 1 (piece.2.column - piece.1.column)) '^'

def marks (pieces : List (Spot × Spot)) : List Char := pieces.foldl markOne []

def divider : String := String.ofList (List.replicate 79 '~')

/-- What stands in front of the lines of a pattern: four blanks, or in a pattern of several
lines the number of the line. -/
def lead (count number : Nat) : List Char :=
  if count ≤ 1 then List.replicate 4 ' '
  else
    let digits := (decimal number).toList
    List.replicate ((decimal count).length - digits.length) ' ' ++ digits ++ [':', ' ']

def describe (piece : Spot × Spot) : String :=
  "on line " ++ decimal piece.1.line ++ " (column " ++ decimal piece.1.column ++
    ") through line " ++ decimal piece.2.line ++ " (column " ++
    decimal (piece.2.column - 1) ++ ")"

/-- A line of a pattern, and behind it the marks under its pieces, if it has any. -/
def shownLine (count : Nat) (pieces : List (Spot × Spot)) (line : List Char × Nat) :
    List String :=
  let here := pieces.filter fun piece => piece.1.line = line.2
  String.ofList (lead count line.2 ++ line.1) ::
    if here.isEmpty then []
    else [String.ofList (List.replicate (lead count line.2).length ' ' ++ marks here)]

def lines (pattern : String) (f : Fault) : List String :=
  let chars := pattern.toList
  let count := (linePieces chars).length
  let pieces := f.spans.map fun span => (spotOf chars span.start, spotOf chars span.stop)
  let (within, across) := pieces.partition fun piece => piece.1.line = piece.2.line
  let shown := ((Text.lines chars).zipIdx 1).flatMap (shownLine count within)
  let framed := if count ≤ 1 then shown
    else divider :: shown ++ divider :: across.map describe
  "regex parse error:" :: framed ++ ["error: " ++ f.mistake.message]

end Fault

end Rewind.Frontend.Pattern
