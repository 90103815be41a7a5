/-
# Rewind.Frontend.Pattern.Brackets -- sets of characters in a written pattern

Brackets hold a list: letters, ranges, named sets, kinds of characters and other brackets.
Between two lists may stand what is wanted of them: what they have in common, what only
the first has, or what only one of them has.
-/
import Rewind.Frontend.Pattern.Escape

namespace Rewind.Frontend.Pattern

set_option autoImplicit false

open Text

def namedSets : List (String × CharSet) :=
  let digits := CharSet.between '0' '9'
  let letters := CharSet.union [.capitals, .smalls]
  [("alnum", .union [digits, letters]), ("alpha", letters), ("ascii", .between '\x00' '\x7f'),
   ("blank", .union [.single '\t', .single ' ']),
   ("cntrl", .union [.between '\x00' '\x1f', .single '\x7f']), ("digit", digits),
   ("graph", .between '!' '~'), ("lower", .smalls), ("print", .between ' ' '~'),
   ("punct", (CharSet.between '!' '~').minus (.union [digits, letters])),
   ("space", .union [.between '\t' '\r', .single ' ']), ("upper", .capitals),
   ("word", .union [digits, letters, .single '_']),
   ("xdigit", .union [digits, .between 'A' 'F', .between 'a' 'f'])]

/-- A set by its name, from a bracket on; nothing if no name stands there. -/
def readNamed (start : List Char) : Option (Part Members) :=
  match start with
  | '[' :: ':' :: inside =>
      let negated := inside.head? == some '^'
      let inside := if negated then inside.drop 1 else inside
      match inside.dropWhile (· != ':') with
      | ':' :: ']' :: left =>
          (namedSets.lookup (String.ofList (inside.takeWhile (· != ':')))).map fun set =>
            (.named ⟨start, left⟩ negated set, left)
      | _ => none
  | _ => none

/-- Brackets of which not all was read. -/
structure Open where
  /-- The bracket, and what belongs to the opening behind it. -/
  opening : Span
  negated : Bool
  /-- The lists that were read before, and how they go together with the one to come. -/
  earlier : Option (Join × Members)
  /-- Where the list starts. -/
  start : List Char
  /-- The members of the list that were read, last first. -/
  items : List Members

namespace Open

def add (o : Open) (item : Members) : Open := { o with items := item :: o.items }

def list (o : Open) : Members :=
  match o.items with
  | [] => .nothing ⟨o.start, o.start⟩
  | [item] => item
  | last :: rest => .list ⟨(rest.getLastD last).span.start, last.span.stop⟩ o.items.reverse

def lists (o : Open) : Members :=
  match o.earlier with
  | none => o.list
  | some (how, earlier) => .join ⟨earlier.span.start, o.list.span.stop⟩ how earlier o.list

def next (o : Open) (how : Join) (start : List Char) : Open :=
  { o with earlier := some (how, o.lists), start := start, items := [] }

/-- The brackets end in the middle of things. -/
def unclosed {α : Type} (o : Open) : Attempt α := .error ⟨.classUnclosed, [o.opening]⟩

end Open

/-- Hyphens at the start of a list, which are letters; what was read is last first. -/
def readHyphens (free : Bool) (start : List Char) (items : List Members) (rest : List Char) :
    Attempt (Part (List Members)) :=
  match rest with
  | '-' :: behind =>
      let item := Members.letter ⟨⟨rest, behind⟩, '-', false⟩
      if (skip free behind).isEmpty then fail .classUnclosed start start
      else readHyphens free start (item :: items) (skip free behind)
  | _ => .ok (items, rest)
termination_by rest.length
decreasing_by exact Nat.lt_succ_of_le (length_skip_le free behind)

/-- An opening bracket.  A closing one at once behind it is a letter, and so are hyphens. -/
def readOpening (free : Bool) (start : List Char) : Attempt (Part Open) := do
  let inside := skip free (start.drop 1)
  if inside.isEmpty then fail .classUnclosed start []
  let negated := inside.head? == some '^'
  let list := if negated then skip free (inside.drop 1) else inside
  if list.isEmpty then fail .classUnclosed start []
  let (items, left) ← readHyphens free start [] list
  match left with
  | ']' :: behind =>
      if items.isEmpty then
        let left := skip free behind
        if left.isEmpty then fail .classUnclosed start []
        return (⟨⟨start, left⟩, negated, none, list, [.letter ⟨⟨list, behind⟩, ']', false⟩]⟩, left)
      else return (⟨⟨start, left⟩, negated, none, list, items⟩, left)
  | _ => return (⟨⟨start, left⟩, negated, none, list, items⟩, left)

def readItem (free : Bool) (rest : List Char) : Attempt (Part Tree) :=
  match rest with
  | [] => fail .classUnclosed [] []
  | '\\' :: escape => readEscape free rest escape
  | c :: left => .ok (.letter ⟨⟨rest, left⟩, c, false⟩, left)

def memberOf : Tree → Attempt Members
  | .letter letter => .ok (.letter letter)
  | .kind span kind negated => .ok (.kind span kind negated)
  | .property span name => .ok (.property span name)
  | tree => .error ⟨.classEscape, tree.span?.toList⟩

def boundaryOf : Tree → Attempt Letter
  | .letter letter => .ok letter
  | tree => .error ⟨.classRangeBoundary, tree.span?.toList⟩

/-- The next character that counts; a number sign that begins a comment is passed over, but
not the comment. -/
def peek (free : Bool) (rest : List Char) : Option Char :=
  if free then
    match rest.dropWhile isBlank with
    | '#' :: comment => (comment.dropWhile isBlank).head?
    | next => next.head?
  else rest.head?

/-- A member of the list: one thing, or two with a hyphen between them.  A hyphen in front
of a closing bracket or of another hyphen is none between two things. -/
def readMember (free : Bool) (o : Open) (rest : List Char) : Attempt (Part Members) := do
  let (first, left) ← readItem free rest
  match skip free left with
  | [] => o.unclosed
  | '-' :: behind =>
      let next := peek free behind
      if next == some ']' || next == some '-' then return (← memberOf first, '-' :: behind)
      let second := skip free behind
      if second.isEmpty then o.unclosed
      let (last, left) ← readItem free second
      let span : Span := ⟨rest, (last.span?.map Span.stop).getD left⟩
      let first ← boundaryOf first
      let last ← boundaryOf last
      if last.char < first.char then .error ⟨.classRange, [span]⟩
      return (.range span first last, left)
  | left => return (← memberOf first, left)

/-- What is wanted of the lists around a double mark. -/
def joinOf? (c : Char) : Option Join :=
  match c with
  | '&' => some .common
  | '-' => some .minus
  | '~' => some .either
  | _ => none

/-- Brackets that are read, or that were. -/
inductive Brackets
  | reading (innermost : Open) (outer : List Open)
  | closed (tree : Tree)

/-- Read one thing in brackets; `rest` is not empty. -/
def readInBrackets (free : Bool) (o : Open) (outer : List Open) (rest : List Char) :
    Attempt (Part Brackets) :=
  match rest with
  | [] => o.unclosed
  | '[' :: _ =>
      match readNamed rest with
      | some (named, left) => .ok (.reading (o.add named) outer, left)
      | none => do
          let (inner, left) ← readOpening free rest
          return (.reading inner (o :: outer), left)
  | ']' :: left =>
      let span : Span := ⟨o.opening.start, left⟩
      match outer with
      | [] => .ok (.closed (.brackets span o.negated o.lists), left)
      | around :: outer =>
          .ok (.reading (around.add (.brackets span o.negated o.lists)) outer, left)
  | c :: left =>
      match joinOf? c with
      | some how =>
          if left.head? = some c then
            .ok (.reading (o.next how (left.drop 1)) outer, left.drop 1)
          else (readMember free o rest).map fun (item, left) => (.reading (o.add item) outer, left)
      | none => (readMember free o rest).map fun (item, left) => (.reading (o.add item) outer, left)

/-- Read on up to the last closing bracket.  Each round takes at least one character, so as
many rounds as characters are left are enough. -/
def readBracketsOn (free : Bool) (o : Open) (outer : List Open) :
    Nat → List Char → Attempt (Part Tree)
  | 0, _ => o.unclosed
  | n + 1, rest =>
      match skip free rest with
      | [] => o.unclosed
      | rest => do
          match ← readInBrackets free o outer rest with
          | (.reading o outer, left) => readBracketsOn free o outer n left
          | (.closed tree, left) => return (tree, left)

/-- Brackets, from the first of them on; so many rounds are enough. -/
def readBrackets (free : Bool) (rounds : Nat) (start : List Char) : Attempt (Part Tree) := do
  let (o, left) ← readOpening free start
  readBracketsOn free o [] rounds left

end Rewind.Frontend.Pattern
