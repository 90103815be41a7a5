/-
# Rewind.Frontend.Pattern.Meaning -- what a written pattern means

What a part of a written pattern means hangs on the flags that hold where it stands.
Flags that stand alone hold up to the end of their group, also behind a bar.

A pattern is read for text of all scripts or for text of ASCII.  For all scripts neither
the two cases of letters are known nor which characters are digits, white space or parts
of words.  For ASCII nothing is accepted that fits a byte outside of it.
-/
import Rewind.Frontend.Pattern.Plain
import Rewind.Frontend.Pattern.Reader

namespace Rewind.Frontend.Pattern

set_option autoImplicit false

open Text

/-- The flags that hold at a place. -/
structure Mode where
  /-- The case of letters is passed over. -/
  caseless : Bool
  /-- Carets and dollar signs stand for starts and ends of lines. -/
  lined : Bool
  /-- A point also stands for the end of a line. -/
  pointed : Bool
  /-- Repetitions want few pieces first. -/
  swapped : Bool
  /-- Carriage returns end lines too. -/
  returns : Bool
  /-- The text has characters of all scripts. -/
  allScripts : Bool
  deriving DecidableEq, Repr

namespace Mode

def standard : Mode := ⟨false, false, false, false, false, true⟩

/-- The flags that hold behind others. -/
def change (mode : Mode) (flags : List Char) : Mode :=
  ⟨holdsWith 'i' mode.caseless flags, holdsWith 'm' mode.lined flags,
    holdsWith 's' mode.pointed flags, holdsWith 'U' mode.swapped flags,
    holdsWith 'R' mode.returns flags, holdsWith 'u' mode.allScripts flags⟩

/-- What sets are taken from. -/
def whole (mode : Mode) : CharSet := if mode.allScripts then .characters else .bytes

end Mode

/-! ## Sets -/

def Kind.set : Kind → CharSet
  | .digit => .between '0' '9'
  | .space => .union [.between '\t' '\r', .single ' ']
  | .wordChar => .union [.between '0' '9', .capitals, .smalls, .single '_']

/-- The name of a property in its plain form: small letters without what only parts words,
and without an `is` in front. -/
def plainName (name : List Char) : List Char :=
  let rest := match name with
    | i :: s :: rest => if i.toLower = 'i' ∧ s.toLower = 's' then rest else name
    | _ => name
  (rest.filter fun c => c.toNat < 128 && !([' ', '_', '-'].contains c)).map Char.toLower

/-- What is wrong with the name of a property: there are none, but the short names of three
general categories are no names of properties. -/
def propertyMistake (name : List Char) : Mistake :=
  if [['c', 'f'], ['s', 'c'], ['l', 'c']].contains (plainName name) then .propertyValueUnknown
  else .propertyUnknown

/-- The members are a letter or a range, or have one in their list. -/
def Members.isBare : Members → Bool
  | .letter _ | .range .. => true
  | .list _ items => items.any fun
      | .letter _ | .range .. => true
      | _ => false
  | _ => false

/-- A set with both cases of its letters, where case is passed over; `bare` says whether
letters are in it for which that was not done. -/
def folded (mode : Mode) (span : Span) (bare : Bool) (set : CharSet) : Attempt CharSet :=
  if !mode.caseless then .ok set
  else if !mode.allScripts then .ok set.bothCases
  else if bare then .error ⟨.caseOfAllScripts, [span]⟩
  else .ok set

def complement (mode : Mode) (set : CharSet) : CharSet := mode.whole.minus set

/-- A set that has a pair of brackets or a name of its own. -/
def finished (mode : Mode) (span : Span) (bare negated : Bool) (set : CharSet) :
    Attempt CharSet := do
  let set ← folded mode span bare set
  let set := if negated then complement mode set else set
  if mode.allScripts || set.isAscii then return set else .error ⟨.noText, [span]⟩

def kindSet (mode : Mode) (span : Span) (kind : Kind) (negated : Bool) : Attempt CharSet :=
  if mode.allScripts then .error ⟨.kindOfAllScripts, [span]⟩
  else finished mode span false negated kind.set

/-- A property, which never is known. -/
def propertySet (mode : Mode) (span : Span) (name : List Char) : Attempt CharSet :=
  .error ⟨if mode.allScripts then propertyMistake name else .notAscii, [span]⟩

def memberChar (mode : Mode) (l : Letter) : Attempt Char :=
  if mode.allScripts ∨ l.char.toNat < 128 then .ok l.char
  else .error ⟨if l.asByte then .noText else .notAscii, [l.span]⟩

def Join.combine : Join → CharSet → CharSet → CharSet
  | common => CharSet.common
  | minus => CharSet.minus
  | either => CharSet.either

mutual

def Members.set (mode : Mode) : Members → Attempt CharSet
  | .nothing _ => .ok .empty
  | .letter l => (memberChar mode l).map .single
  | .range _ first last => do
      let first ← memberChar mode first
      return .between first (← memberChar mode last)
  | .named span negated set => finished mode span true negated set
  | .kind span sort negated => kindSet mode span sort negated
  | .property span name => propertySet mode span name
  | .brackets span negated members => do
      finished mode span members.isBare negated (← members.set mode)
  | .list _ items => Members.unionOf mode items []
  | .join _ how left right => do
      let first ← left.set mode
      let second ← right.set mode
      let second ← folded mode right.span right.isBare second
      return how.combine (← folded mode left.span left.isBare first) second

/-- The sets of members together, besides others. -/
def Members.unionOf (mode : Mode) : List Members → List CharSet → Attempt CharSet
  | [], sets => .ok (.union sets)
  | item :: rest, sets => do
      let set ← item.set mode
      Members.unionOf mode rest (set :: sets)

end

/-! ## Patterns -/

def letterPattern (mode : Mode) (l : Letter) : Attempt Pattern :=
  if mode.allScripts then
    if mode.caseless then .error ⟨.caseOfAllScripts, [l.span]⟩ else .ok (word [l.char])
  else if l.asByte ∧ 128 ≤ l.char.toNat then .error ⟨.noText, [l.span]⟩
  else if mode.caseless ∧ l.char.isAlpha then .ok (ofSet (CharSet.single l.char).bothCases)
  else .ok (word [l.char])

def pointPattern (mode : Mode) (span : Span) : Attempt Pattern :=
  if !mode.allScripts then .error ⟨.noText, [span]⟩
  else if mode.pointed then .ok (one .characters)
  else
    let ends := .single '\n' :: if mode.returns then [.single '\r'] else []
    .ok (one (CharSet.characters.minus (.union ends)))

def Anchor.place (mode : Mode) : Anchor → Place
  | lineStart => if mode.lined then .lineStart mode.returns else .textStart
  | lineEnd => if mode.lined then .lineEnd mode.returns else .textEnd
  | textStart => .textStart
  | textEnd => .textEnd
  | word edge => .word mode.allScripts edge

mutual

/-- The pattern that a tree means, and the flags that hold behind it. -/
def Tree.meaning (mode : Mode) : Tree → Attempt (Pattern × Mode)
  | .nothing => .ok (Pattern.word [], mode)
  | .flags letters => .ok (Pattern.word [], mode.change letters)
  | .letter l => do return (← letterPattern mode l, mode)
  | .point span => do return (← pointPattern mode span, mode)
  | .anchor _ written => .ok (Pattern.place (written.place mode), mode)
  | .kind span sort negated => do return (ofSet (← kindSet mode span sort negated), mode)
  | .property span name => do return (ofSet (← propertySet mode span name), mode)
  | .brackets span negated members => do
      return (ofSet (← finished mode span members.isBare negated (← members.set mode)), mode)
  | .times _ least most eager body => do
      let (body, mode) ← body.meaning mode
      return (repetition least most (eager != mode.swapped) body, mode)
  | .group _ (.numbered number) body => do
      let (body, _) ← body.meaning mode
      return (Pattern.group number body, mode)
  | .group _ (.flagged letters) body => do
      let (body, _) ← body.meaning (mode.change letters)
      return (body, mode)
  | .sequence _ items => do
      let (patterns, mode) ← Tree.meanings mode items []
      return (inARow patterns, mode)
  | .choice _ items => do
      let (patterns, mode) ← Tree.meanings mode items []
      return (oneOf patterns, mode)

/-- The patterns that trees mean, behind others, last first; flags of one hold in the next. -/
def Tree.meanings (mode : Mode) : List Tree → List Pattern → Attempt (List Pattern × Mode)
  | [], patterns => .ok (patterns.reverse, mode)
  | item :: rest, patterns => do
      let (p, mode) ← item.meaning mode
      Tree.meanings mode rest (p :: patterns)

end

end Rewind.Frontend.Pattern
