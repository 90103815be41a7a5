/-
# Rewind.Frontend.Pattern.Reader -- patterns as they are written

Most characters stand for themselves and a point for any character of a line.  A caret
and a dollar sign are the start and the end of the text.  Parentheses hold a group, a bar
stands between patterns one of which fits, and behind a pattern stands how often it fits:
`?`, `*`, `+` or numbers in braces, with a `?` more where as few as possible are wanted.

A group may have a name, which no other group has, or flags that hold inside it; flags
alone hold for what is left of the group.  One of them makes space free.
-/
import Rewind.Frontend.Alphabetic
import Rewind.Frontend.Pattern.Brackets

namespace Rewind.Frontend.Pattern

set_option autoImplicit false

open Text

/-- What was read of a group, or of a whole pattern, up to a place. -/
structure Level where
  /-- Where the first alternative starts. -/
  first : List Char
  /-- The alternatives in front of the one that is read, last first. -/
  earlier : List Tree
  /-- Where the alternative that is read starts. -/
  start : List Char
  /-- The items of the alternative that is read, last first. -/
  items : List Tree

namespace Level

def opened (start : List Char) : Level := ⟨start, [], start, []⟩

def add (l : Level) (item : Tree) : Level := { l with items := item :: l.items }

def alternative (l : Level) (stop : List Char) : Tree :=
  match l.items.reverse with
  | [] => .nothing
  | [item] => item
  | items => .sequence ⟨l.start, stop⟩ items

def next (l : Level) (bar : List Char) : Level :=
  ⟨l.first, l.alternative bar :: l.earlier, bar.drop 1, []⟩

def whole (l : Level) (stop : List Char) : Tree :=
  match l.earlier with
  | [] => l.alternative stop
  | earlier => .choice ⟨l.first, stop⟩ (l.alternative stop :: earlier).reverse

end Level

/-- A group around the place that was read up to. -/
structure Group where
  /-- What is left from its parenthesis on. -/
  opening : List Char
  kind : GroupKind
  /-- Space is free around it. -/
  free : Bool
  /-- What was read around it. -/
  around : Level

/-- What was read of a pattern up to a place. -/
structure Progress where
  /-- Space is free. -/
  free : Bool
  /-- How many groups have a number. -/
  count : Nat
  /-- The names of groups, and where they stand. -/
  names : List (List Char × Span)
  /-- What was read of the innermost group. -/
  level : Level
  /-- The groups around, innermost first. -/
  outer : List Group

namespace Progress

def start (text : List Char) : Progress := ⟨false, 0, [], .opened text, []⟩

def add (p : Progress) (item : Tree) : Progress := { p with level := p.level.add item }

def enterNumbered (p : Progress) (opening inside : List Char) : Progress :=
  { p with
    count := p.count + 1, level := .opened inside,
    outer := ⟨opening, .numbered p.count, p.free, p.level⟩ :: p.outer }

def enterFlagged (p : Progress) (opening inside flags : List Char) (free : Bool) : Progress :=
  { p with
    free := free, level := .opened inside,
    outer := ⟨opening, .flagged flags, p.free, p.level⟩ :: p.outer }

end Progress

/-! ## Groups -/

def flagLetters : List Char := ['i', 'm', 's', 'U', 'u', 'R', 'x']

/-- Flags up to the colon or the parenthesis behind them, which is left; what was read is
last first. -/
def readFlags (flags : List (Char × Span)) : List Char → Attempt (Part (List Char))
  | [] => fail .flagEnd [] []
  | c :: rest =>
      let span : Span := ⟨c :: rest, rest⟩
      if c = ':' ∨ c = ')' then
        match flags with
        | ('-', dangling) :: _ => .error ⟨.flagDangling, [dangling]⟩
        | _ => .ok ((flags.map Prod.fst).reverse, c :: rest)
      else if c ≠ '-' ∧ !flagLetters.contains c then fail .flagUnknown (c :: rest) rest
      else
        match flags.lookup c with
        | some first =>
            .error ⟨if c = '-' then .flagNegationRepeated else .flagDuplicate, [first, span]⟩
        | none => readFlags ((c, span) :: flags) rest

/-- Whether a flag holds behind flags: those behind a hyphen hold no longer. -/
def holdsWith (flag : Char) (before : Bool) (flags : List Char) : Bool :=
  if (flags.takeWhile (· != '-')).contains flag then true
  else if (flags.dropWhile (· != '-')).contains flag then false
  else before

def isNameChar (first : Bool) (c : Char) : Bool :=
  c == '_' || isLetter c || !first && (isNumber c || c == '.' || c == '[' || c == ']')

/-- What is left behind the name of a group, from the angle bracket on that ends it. -/
def nameEnd : (first : Bool) → List Char → Attempt (List Char)
  | _, [] => fail .groupNameEnd [] []
  | first, c :: rest =>
      if c = '>' then .ok (c :: rest)
      else if isNameChar first c then nameEnd false rest
      else fail .groupNameInvalid (c :: rest) rest

/-- A group with a name; the parenthesis is at `opening` and the name at `start`. -/
def readNamedGroup (p : Progress) (opening start : List Char) : Attempt (Part Progress) := do
  let stop ← nameEnd true start
  let name := start.takeWhile (· != '>')
  let span : Span := ⟨start, stop⟩
  if name.isEmpty then fail .groupNameEmpty start start
  match p.names.lookup name with
  | some first => .error ⟨.groupNameDuplicate, [first, span]⟩
  | none =>
      let inside := stop.drop 1
      return ({ p with names := (name, span) :: p.names }.enterNumbered opening inside, inside)

/-- What would look around the place it stands at. -/
def lookArounds : List (List Char) := [['?', '='], ['?', '!'], ['?', '<', '='], ['?', '<', '!']]

/-- The parenthesis at `start` opens a group or holds flags. -/
def readGroup (p : Progress) (start : List Char) : Attempt (Part Progress) := do
  let inside := skip p.free (start.drop 1)
  if let some look := lookArounds.find? (·.isPrefixOf inside) then
    fail .lookAround start (inside.drop look.length)
  match inside with
  | '?' :: 'P' :: '<' :: name | '?' :: '<' :: name => readNamedGroup p start name
  | '?' :: rest =>
      if rest.isEmpty then fail .groupUnclosed start (start.drop 1)
      let (flags, left) ← readFlags [] rest
      let free := holdsWith 'x' p.free flags
      if left.head? = some ':' then
        return (p.enterFlagged start (left.drop 1) flags free, left.drop 1)
      if flags.isEmpty then fail .repetitionMissing inside inside
      return ({ p with free := free }.add (.flags flags), left.drop 1)
  | _ => return (p.enterNumbered start inside, inside)

/-- The parenthesis at `start` closes a group. -/
def readClosing (p : Progress) (start : List Char) : Attempt (Part Progress) :=
  let left := start.drop 1
  match p.outer with
  | [] => fail .groupUnopened start left
  | g :: outer =>
      let group : Tree := .group ⟨g.opening, left⟩ g.kind (p.level.whole start)
      .ok ({ p with free := g.free, level := g.around.add group, outer := outer }, left)

/-! ## Repetitions -/

def countLimit : Nat := 0xFFFFFFFF

/-- A decimal number with white space around it, and what is left behind it. -/
def readCount (free : Bool) (rest : List Char) : Attempt Nat × List Char :=
  let start := rest.dropWhile isBlank
  let (digits, stop) := run free Char.isDigit start
  let n := digits.foldl (fun n c => min (10 * n + (c.toNat - 48)) (countLimit + 1)) 0
  let count : Attempt Nat :=
    if digits.isEmpty then fail .countEmpty start stop
    else if countLimit < n then fail .countInvalid start stop
    else .ok n
  (count, stop.dropWhile isBlank)

/-- Whether as many as possible are wanted of what is repeated: not with a question mark,
which is passed over. -/
def readEager (rest : List Char) : Part Bool :=
  match rest with
  | '?' :: rest => (false, rest)
  | _ => (true, rest)

/-- The numbers of a repetition, and what is left from the closing brace on, if one is
there; the opening one stands at `start`. -/
def readNumbers (free : Bool) (start : List Char) : Attempt (Part (Nat × Option Nat)) := do
  let inside := skip free (start.drop 1)
  if inside.isEmpty then fail .countUnclosed start []
  let (least, left) := readCount free inside
  match left with
  | [] => fail .countUnclosed start []
  | ',' :: rest =>
      match skip free rest with
      | [] => fail .countUnclosed start []
      | '\x7d' :: rest => return ((← least, none), '\x7d' :: rest)
      | rest => do
          let least ← least
          let (most, left) := readCount free rest
          return ((least, some (← most)), left)
  | _ => do
      let least ← least
      return ((least, some least), left)

/-- The numbers of a repetition, and what is left behind the closing brace. -/
def readCounts (free : Bool) (start : List Char) : Attempt (Part (Nat × Option Nat)) := do
  let (numbers, left) ← readNumbers free start
  match left with
  | '\x7d' :: left => return (numbers, skip free left)
  | _ => fail .countUnclosed start left

/-- The item that is repeated, and the level without it; the sign of the repetition stands
at `start`. -/
def takeItem (l : Level) (start : List Char) : Attempt (Tree × Level) :=
  match l.items with
  | item :: items =>
      match item.span? with
      | some _ => .ok (item, { l with items := items })
      | none => fail .repetitionMissing start start
  | [] => fail .repetitionMissing start start

/-- An item repeated, up to what is left. -/
def repeatItem (item : Tree) (least : Nat) (most : Option Nat) (eager : Bool)
    (left : List Char) : Tree :=
  .times ⟨(item.span?.map Span.start).getD left, left⟩ least most eager item

/-- The last item is repeated; the sign of that stands at `start`. -/
def readRepetition (p : Progress) (start : List Char) (least : Nat) (most : Option Nat) :
    Attempt (Part Progress) := do
  let (item, level) ← takeItem p.level start
  let (eager, left) := readEager (start.drop 1)
  return ({ p with level := level.add (repeatItem item least most eager left) }, left)

/-- The last item is repeated as often as numbers say; their brace stands at `start`. -/
def readCounted (p : Progress) (start : List Char) : Attempt (Part Progress) := do
  let (item, level) ← takeItem p.level start
  let ((least, most), left) ← readCounts p.free start
  let (eager, left) := readEager left
  if most.any (· < least) then fail .countRange start left
  return ({ p with level := level.add (repeatItem item least most eager left) }, left)

/-! ## The whole -/

/-- Read one thing of a pattern; `start` is not empty, and so many rounds are enough for
brackets. -/
def readNext (rounds : Nat) (p : Progress) (start : List Char) : Attempt (Part Progress) :=
  match start with
  | [] => .ok (p, [])
  | c :: left =>
      let span : Span := ⟨start, left⟩
      match c with
      | '(' => readGroup p start
      | ')' => readClosing p start
      | '|' => .ok ({ p with level := p.level.next start }, left)
      | '[' => (readBrackets p.free rounds start).map fun (tree, left) => (p.add tree, left)
      | '?' => readRepetition p start 0 (some 1)
      | '*' => readRepetition p start 0 none
      | '+' => readRepetition p start 1 none
      | '\x7b' => readCounted p start
      | '\\' => (readEscape p.free start left).map fun (tree, left) => (p.add tree, left)
      | '.' => .ok (p.add (.point span), left)
      | '^' => .ok (p.add (.anchor span .lineStart), left)
      | '$' => .ok (p.add (.anchor span .lineEnd), left)
      | _ => .ok (p.add (.letter ⟨span, c, false⟩), left)

/-- Read on.  Each round takes at least one character, so as many rounds as there are
characters are enough. -/
def readOn : Nat → Progress → List Char → Attempt Progress
  | 0, p, _ => .ok p
  | n + 1, p, rest =>
      match skip p.free rest with
      | [] => .ok p
      | rest => do
          let (p, left) ← readNext n p rest
          readOn n p left

def Tree.read (text : List Char) : Attempt Tree := do
  let p ← readOn (text.length + 1) (.start text) text
  match p.outer with
  | [] => return p.level.whole []
  | g :: _ => fail .groupUnclosed g.opening (g.opening.drop 1)

end Rewind.Frontend.Pattern
