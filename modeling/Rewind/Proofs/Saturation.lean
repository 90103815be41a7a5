/-
# Rewind.Proofs.Saturation -- a bounded text keeps the first bytes that are written

`Cells` is a text as it lies in memory: a store and a count of bytes that nothing ties
together.  What is done to it (`Edit.carryOut`) takes each difference and each range on its
own account, and one that there is not is a fault.  The store is reused: a text that is
cleared leaves its bytes behind, and the NUL of a text that is handed out stands among them.

On the cells of a `TextBuffer` no edit leads to a fault, and what comes of it is the edit of
the text (`Edit.carryOut_run`).  So a text is known by what was written since it was last
cleared (`written`), and where one piece ends and the next begins leaves no mark
(`TextBuffer.push_push`).

Main statements: `bytes_edited` (the first bytes are kept, the others dropped),
`isFull_edited_iff` and `first_bytes_kept`.
-/
import Mathlib.Data.List.Induction
import Rewind.Text.Buffer

namespace Rewind

set_option autoImplicit false

/-! ## Ranges that are asked for -/

/-- A difference, where it is not below zero. -/
def minus? (n m : Nat) : Option Nat :=
  if m ≤ n then some (n - m) else none

namespace Bytes

/-- The bytes from `start` up to `stop`; nothing where that range is not there. -/
def slice? (bytes : Bytes) (start stop : Nat) : Option Bytes :=
  if start ≤ stop ∧ stop ≤ bytes.length then some ((bytes.drop start).take (stop - start)) else none

/-- The bytes with others from `start` up to `stop`; nothing where that range is not there or
takes another number of bytes. -/
def fill? (bytes : Bytes) (start stop : Nat) (others : Bytes) : Option Bytes :=
  if start ≤ stop ∧ stop ≤ bytes.length ∧ others.length = stop - start then
    some (bytes.take start ++ others ++ bytes.drop stop)
  else none

/-- The bytes with another one at a place; nothing where that place is not there. -/
def put? (bytes : Bytes) (i : Nat) (b : UInt8) : Option Bytes :=
  if i < bytes.length then some (bytes.set i b) else none

theorem slice?_zero {bytes : Bytes} {stop : Nat} (inside : stop ≤ bytes.length) :
    bytes.slice? 0 stop = some (bytes.take stop) := by
  rw [slice?, if_pos ⟨Nat.zero_le stop, inside⟩, List.drop_zero, Nat.sub_zero]

end Bytes

/-- What is there is taken, and nothing changes. -/
theorem run_of_there {σ α : Type} {found : Option α} {a : α} (there : found = some a) (state : σ) :
    (liftM found : StateT σ Option α).run state = some (a, state) := by
  rw [there]
  rfl

/-! ## A text as it lies in memory -/

/-- A store and how many of its bytes are text. -/
structure Cells where
  store : Bytes
  len : Nat

/-- A piece of a formatted text that is refused. -/
inductive WriteError
  | refused
  deriving DecidableEq, Repr

inductive Edit
  | pushText (text : String)
  | push (piece : Bytes)
  /-- A formatted text comes in pieces. -/
  | write (pieces : List String)
  /-- The text is handed out, with a NUL behind it. -/
  | terminate
  | clear

namespace Cells

/-- Zeros, and no text. -/
def fresh (size : Nat) : Cells := ⟨List.replicate size 0, 0⟩

def read? (cells : Cells) : Option Bytes := cells.store.slice? 0 cells.len

def push (capacity : Nat) (piece : Bytes) : StateT Cells Option Unit := do
  let cells ← get
  let room ← minus? capacity cells.len
  let count := min piece.length room
  let kept ← piece.slice? 0 count
  let store ← cells.store.fill? cells.len (cells.len + count) kept
  set (⟨store, cells.len + count⟩ : Cells)

/-- Write one piece of a formatted text.  What does not fit is dropped, not refused. -/
def writePiece (capacity : Nat) (piece : String) :
    StateT Cells Option (Except WriteError Unit) := do
  push capacity (Utf8.ofString piece)
  return .ok ()

/-- Write a formatted text, up to the first piece that is refused. -/
def writePieces (capacity : Nat) : List String → StateT Cells Option (Except WriteError Unit)
  | [] => return .ok ()
  | piece :: rest => do
      match ← writePiece capacity piece with
      | .error error => return .error error
      | .ok () => writePieces capacity rest

def terminate : StateT Cells Option Unit := do
  let cells ← get
  let store ← cells.store.put? cells.len 0
  set (⟨store, cells.len⟩ : Cells)

end Cells

namespace Edit

def carryOut (capacity : Nat) : Edit → StateT Cells Option (Except WriteError Unit)
  | pushText text => do
      Cells.push capacity (Utf8.ofString text)
      return .ok ()
  | push piece => do
      Cells.push capacity piece
      return .ok ()
  | write pieces => Cells.writePieces capacity pieces
  | terminate => do
      Cells.terminate
      return .ok ()
  | clear => do
      modify fun cells => { cells with len := 0 }
      return .ok ()

def apply {capacity spare : Nat} (t : TextBuffer capacity (spare + 1)) :
    Edit → TextBuffer capacity (spare + 1)
  | pushText text => t.pushText text
  | push piece => t.push piece
  | write pieces => pieces.foldl TextBuffer.pushText t
  | terminate => t.terminate
  | clear => t.clear

def added : Edit → Bytes
  | pushText text => Utf8.ofString text
  | push piece => piece
  | write pieces => pieces.flatMap Utf8.ofString
  | terminate | clear => []

def isClear : Edit → Bool
  | clear => true
  | _ => false

end Edit

/-- A new text after edits. -/
def edited {capacity spare : Nat} (edits : List Edit) : TextBuffer capacity (spare + 1) :=
  edits.foldl Edit.apply TextBuffer.empty

/-- All that was written since the text was last cleared, or made. -/
def written (edits : List Edit) : Bytes :=
  (edits.reverse.takeWhile fun edit => !edit.isClear).reverse.flatMap Edit.added

theorem written_append_clear (edits : List Edit) : written (edits ++ [.clear]) = [] := by
  simp [written, Edit.isClear]

theorem written_append_of_not_clear (edits : List Edit) {edit : Edit}
    (kept : edit.isClear = false) : written (edits ++ [edit]) = written edits ++ edit.added := by
  simp [written, kept]

/-! ## What a push leaves -/

namespace TextBuffer

variable {capacity spare : Nat}

/-- The cells a text lies in. -/
def cells (t : TextBuffer capacity spare) : Cells := ⟨t.store, t.len⟩

theorem eq_of_cells {t u : TextBuffer capacity spare} (same : t.cells = u.cells) : t = u := by
  obtain ⟨store, len, _, _⟩ := t
  obtain ⟨store', len', _, _⟩ := u
  obtain ⟨rfl, rfl⟩ := Cells.mk.inj same
  rfl

/-- The store after a push: the text, and behind it what was there. -/
theorem store_push (t : TextBuffer capacity spare) (piece : Bytes) :
    (t.push piece).store =
      (t.bytes ++ piece).take capacity ++
        t.store.drop ((t.bytes ++ piece).take capacity).length := by
  have text : (t.bytes ++ piece).take capacity = t.bytes ++ piece.take (capacity - t.len) := by
    rw [List.take_append, take_bytes, length_bytes]
  rw [text, List.length_append, length_bytes]
  rfl

/-- What is pushed in two pieces might have been pushed in one. -/
theorem push_push (t : TextBuffer capacity spare) (front back : Bytes) :
    (t.push front).push back = t.push (front ++ back) := by
  have text : ((t.push front).bytes ++ back).take capacity =
      (t.bytes ++ (front ++ back)).take capacity := by
    rw [bytes_push, take_append_of_take, List.append_assoc]
  have longer : ((t.bytes ++ front).take capacity).length ≤
      ((t.bytes ++ (front ++ back)).take capacity).length := by
    simp only [List.length_take, List.length_append]
    omega
  have store : ((t.push front).push back).store = (t.push (front ++ back)).store := by
    rw [store_push, text, store_push, store_push, List.drop_append, List.drop_of_length_le longer,
      List.nil_append, List.drop_drop, Nat.add_sub_cancel' longer]
  have len : ((t.push front).push back).len = (t.push (front ++ back)).len := by
    rw [← length_bytes, ← length_bytes, bytes_push, text, bytes_push]
  exact eq_of_cells (congrArg₂ Cells.mk store len)

theorem push_nil (t : TextBuffer capacity spare) : t.push [] = t := by
  have store : (t.push []).store = t.store := by
    rw [store_push, List.append_nil, take_bytes, length_bytes]
    exact List.take_append_drop t.len t.store
  have len : (t.push []).len = t.len := by
    rw [← length_bytes, bytes_push, List.append_nil, take_bytes, length_bytes]
  exact eq_of_cells (congrArg₂ Cells.mk store len)

/-- A text that comes in pieces might have come in one. -/
theorem foldl_pushText (t : TextBuffer capacity spare) (pieces : List String) :
    pieces.foldl pushText t = t.push (pieces.flatMap Utf8.ofString) := by
  induction pieces generalizing t with
  | nil => exact t.push_nil.symm
  | cons piece rest ih => rw [List.foldl_cons, ih, pushText, push_push, List.flatMap_cons]

end TextBuffer

/-! ## No edit leads to a fault -/

section

variable {capacity spare : Nat}

namespace Cells

theorem read?_cells (t : TextBuffer capacity spare) : t.cells.read? = some t.bytes := by
  have inside : t.len ≤ t.store.length := by
    rw [t.length_store]
    exact Nat.le_add_right_of_le t.len_le
  exact Bytes.slice?_zero inside

theorem push_run (t : TextBuffer capacity spare) (piece : Bytes) :
    (push capacity piece).run t.cells = some ((), (t.push piece).cells) := by
  have fits := t.len_le
  have size := t.length_store
  have count : min piece.length (capacity - t.len) = (piece.take (capacity - t.len)).length := by
    rw [List.length_take, Nat.min_comm]
  have room : minus? capacity t.cells.len = some (capacity - t.len) := if_pos fits
  have kept : piece.slice? 0 (min piece.length (capacity - t.len)) =
      some (piece.take (capacity - t.len)) := by
    rw [Bytes.slice?_zero (Nat.min_le_left _ _), Option.some_inj, List.take_eq_take_iff]
    omega
  have filled : t.cells.store.fill? t.cells.len
      (t.cells.len + min piece.length (capacity - t.len)) (piece.take (capacity - t.len)) =
        some (t.push piece).store := by
    rw [count]
    refine if_pos ⟨Nat.le_add_right _ _, ?_, (Nat.add_sub_cancel_left _ _).symm⟩
    show t.len + _ ≤ t.store.length
    rw [List.length_take]
    omega
  simp only [push, StateT.run_bind, StateT.run_get, Option.pure_def, Option.bind_eq_bind,
    Option.bind_some, run_of_there room, run_of_there kept, run_of_there filled]
  rw [count]
  rfl

theorem writePiece_run (t : TextBuffer capacity spare) (piece : String) :
    (writePiece capacity piece).run t.cells = some (.ok (), (t.pushText piece).cells) := by
  simp only [writePiece, StateT.run_bind, push_run, Option.bind_eq_bind, Option.bind_some]
  rfl

/-- No piece is refused, so all of them are written. -/
theorem writePieces_run (t : TextBuffer capacity spare) (pieces : List String) :
    (writePieces capacity pieces).run t.cells =
      some (.ok (), (pieces.foldl TextBuffer.pushText t).cells) := by
  induction pieces generalizing t with
  | nil => rfl
  | cons piece rest ih =>
      simp only [writePieces, StateT.run_bind, writePiece_run, Option.bind_eq_bind,
        Option.bind_some]
      exact ih (t.pushText piece)

theorem terminate_run (t : TextBuffer capacity (spare + 1)) :
    terminate.run t.cells = some ((), t.terminate.cells) := by
  have inside : t.cells.len < t.cells.store.length := by
    show t.len < t.store.length
    rw [t.length_store]
    exact Nat.lt_of_le_of_lt t.len_le (by omega)
  have stored : t.cells.store.put? t.cells.len 0 = some t.terminate.store := if_pos inside
  simp only [terminate, StateT.run_bind, StateT.run_get, Option.pure_def, Option.bind_eq_bind,
    Option.bind_some, run_of_there stored]
  rfl

end Cells

/-- On the cells of a text an edit comes to an end without a fault, is not refused, and does
what it does to the text. -/
theorem Edit.carryOut_run (t : TextBuffer capacity (spare + 1)) (edit : Edit) :
    (edit.carryOut capacity).run t.cells = some (.ok (), (edit.apply t).cells) := by
  cases edit with
  | pushText text => exact Cells.writePiece_run t text
  | push piece =>
      simp only [carryOut, StateT.run_bind, Cells.push_run, Option.bind_eq_bind, Option.bind_some]
      rfl
  | write pieces => exact Cells.writePieces_run t pieces
  | terminate =>
      simp only [carryOut, StateT.run_bind, Cells.terminate_run, Option.bind_eq_bind,
        Option.bind_some]
      rfl
  | clear => rfl

/-- So do any number of edits. -/
theorem carryOut_all_run (t : TextBuffer capacity (spare + 1)) (edits : List Edit) :
    (edits.mapM (Edit.carryOut capacity)).run t.cells =
      some (edits.map fun _ => .ok (), (edits.foldl Edit.apply t).cells) := by
  induction edits generalizing t with
  | nil => rfl
  | cons edit rest ih =>
      simp only [List.mapM_cons, StateT.run_bind, Edit.carryOut_run, Option.bind_eq_bind,
        Option.bind_some, ih, List.map_cons, List.foldl_cons]
      rfl

end

/-! ## The first bytes are kept -/

section

variable {capacity spare : Nat}

theorem bytes_apply (t : TextBuffer capacity (spare + 1)) {edit : Edit}
    (kept : edit.isClear = false) :
    (edit.apply t).bytes = (t.bytes ++ edit.added).take capacity := by
  cases edit with
  | pushText text => exact t.bytes_push _
  | push piece => exact t.bytes_push piece
  | write pieces =>
      rw [Edit.apply, TextBuffer.foldl_pushText]
      exact t.bytes_push _
  | terminate =>
      rw [Edit.apply, Edit.added, TextBuffer.bytes_terminate, List.append_nil,
        TextBuffer.take_bytes]
  | clear => cases kept

/-- A text has the first bytes of all that was written since it was last cleared. -/
theorem bytes_edited (edits : List Edit) :
    (edited edits : TextBuffer capacity (spare + 1)).bytes = (written edits).take capacity := by
  induction edits using List.reverseRecOn with
  | nil => rw [edited, List.foldl_nil, TextBuffer.bytes_empty, written, List.reverse_nil,
      List.takeWhile_nil, List.reverse_nil, List.flatMap_nil, List.take_nil]
  | append_singleton early last ih =>
      have step : (edited (early ++ [last]) : TextBuffer capacity (spare + 1)) =
          last.apply (edited early) := by
        rw [edited, List.foldl_append]
        rfl
      rw [step]
      cases cleared : last.isClear with
      | false =>
          rw [bytes_apply _ cleared, ih, TextBuffer.take_append_of_take,
            written_append_of_not_clear early cleared]
      | true =>
          cases last with
          | clear =>
              rw [Edit.apply, TextBuffer.bytes_clear, written_append_clear, List.take_nil]
          | _ => cases cleared

theorem len_edited (edits : List Edit) :
    (edited edits : TextBuffer capacity (spare + 1)).len = min capacity (written edits).length := by
  rw [← TextBuffer.length_bytes, bytes_edited, List.length_take]

theorem isFull_edited_iff (edits : List Edit) :
    (edited edits : TextBuffer capacity (spare + 1)).isFull = true ↔
      capacity ≤ (written edits).length := by
  rw [TextBuffer.isFull_iff, TextBuffer.length_bytes, len_edited]
  omega

end

/-- Whatever was done to a text for the host, in whatever order: no difference was below zero,
no range lay outside the store or a piece, and nothing that was written was refused.  The text
has the first 4095 bytes of all that was written since it was last cleared, so it is full just
if at least as many were written, handing it out changes nothing of it, and how the bytes were
cut into pieces does not matter. -/
theorem first_bytes_kept (edits : List Edit) :
    let text : HostString := edited edits
    let whole := written edits
    (edits.mapM (Edit.carryOut hostCapacity)).run (Cells.fresh hostStringSize) =
        some (edits.map fun _ => .ok (), text.cells) ∧
      text.cells.read? = some text.bytes ∧ text.bytes = whole.take 4095 ∧
      text.len = min 4095 whole.length ∧ (text.isFull = true ↔ 4095 ≤ whole.length) ∧
      text.terminate.bytes = text.bytes ∧
      ∀ others, written others = whole → (edited others : HostString).bytes = text.bytes := by
  intro text whole
  refine ⟨?_, Cells.read?_cells text, bytes_edited edits, len_edited edits,
    isFull_edited_iff edits, TextBuffer.bytes_terminate text, ?_⟩
  · exact carryOut_all_run (TextBuffer.empty : HostString) edits
  · intro others same
    rw [bytes_edited, same]
    exact (bytes_edited edits).symm

/-- A text that overflowed and was cleared, and then was written in pieces around a hand-out, is
the text that was written in one piece. -/
theorem first_bytes_kept_reused :
    let edits : List Edit := [.push (List.replicate 5000 0x61), .terminate, .clear,
      .write ["lo", "st"], .terminate, .push [0x20, 0xFF]]
    let others : List Edit := [.push (Utf8.ofString "lost " ++ [0xFF])]
    written others = written edits ∧
      (edited others : HostString).bytes = (edited edits : HostString).bytes := by
  intro edits others
  have same : written others = written edits := by decide
  obtain ⟨-, -, -, -, -, -, independent⟩ := first_bytes_kept edits
  exact ⟨same, independent others same⟩

end Rewind
