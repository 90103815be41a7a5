/-
# Rewind.Proofs.CString -- what is read at the address of a text

The host is handed an address and reads on until it meets a NUL (`Bytes.untilNul?`).  Nothing
tells it where the store ends, so a store without a NUL would be read beyond its end.  The
store is never wiped: behind the text lie the bytes of earlier texts and the NULs of earlier
hand-outs, and the NUL that counts is put there only when the text is handed out.

What was written since the text was last cleared (`written`) decides what is read.  Clearing
hides all that was before it (`written_cleared`), and a hand-out in between leaves no mark
(`written_handed_out`).

Main statements: `Cells.handOut_run` (a NUL is always met inside the store), `cString_edited`
and `read_at_address`.
-/
import Rewind.Proofs.HostTexts
import Rewind.Proofs.Saturation

namespace Rewind

set_option autoImplicit false

/-! ## Reading up to a NUL -/

namespace Bytes

/-- The bytes up to the first NUL; nothing where reading would go on beyond the last of them. -/
def untilNul? : Bytes → Option Bytes
  | [] => none
  | b :: rest => if b = 0 then some [] else (untilNul? rest).map (b :: ·)

/-- Where a NUL stands, reading ends there or before. -/
theorem untilNul?_append (front rest : Bytes) :
    untilNul? (front ++ 0 :: rest) = some (front.takeWhile (· != 0)) := by
  induction front with
  | nil => rfl
  | cons b more ih =>
      by_cases nul : b = 0
      · simp [untilNul?, nul]
      · simp [untilNul?, nul, ih]

/-- What is read has a NUL behind it, and none in it. -/
theorem eq_of_untilNul? {store text : Bytes} (read : untilNul? store = some text) :
    0 ∉ text ∧ ∃ rest, store = text ++ 0 :: rest := by
  induction store generalizing text with
  | nil => cases read
  | cons b more ih =>
      by_cases nul : b = 0
      · simp only [untilNul?, nul, if_true, Option.some.injEq] at read
        subst read
        exact ⟨List.not_mem_nil, more, by rw [nul]; rfl⟩
      · simp only [untilNul?, nul, if_false, Option.map_eq_some_iff] at read
        obtain ⟨tail, found, rfl⟩ := read
        obtain ⟨plain, rest, rfl⟩ := ih found
        refine ⟨?_, rest, rfl⟩
        rw [List.mem_cons, not_or]
        exact ⟨Ne.symm nul, plain⟩

end Bytes

/-! ## Handing a text out -/

/-- Put a NUL behind the text and read what is at its address. -/
def Cells.handOut : StateT Cells Option Bytes := do
  terminate
  (← get).store.untilNul?

section

variable {capacity spare : Nat}

/-- The NUL that is put behind a text is met at the latest. -/
theorem TextBuffer.untilNul?_store (t : TextBuffer capacity (spare + 1)) :
    t.terminate.store.untilNul? = some t.cString := by
  rw [terminate_store, Bytes.untilNul?_append, cString_eq]

/-- Handing out a text comes to an end without a fault. -/
theorem Cells.handOut_run (t : TextBuffer capacity (spare + 1)) :
    handOut.run t.cells = some (t.cString, t.terminate.cells) := by
  have read : t.terminate.cells.store.untilNul? = some t.cString := t.untilNul?_store
  simp only [handOut, StateT.run_bind, terminate_run, StateT.run_get, Option.pure_def,
    Option.bind_eq_bind, Option.bind_some, run_of_there read]

/-- What is read of a text is known from what was written since it was last cleared. -/
theorem cString_edited (edits : List Edit) :
    (edited edits : TextBuffer capacity (spare + 1)).cString =
      ((written edits).take capacity).takeWhile (· != 0) := by
  rw [TextBuffer.cString_eq, bytes_edited]

end

/-! ## What leaves no mark -/

/-- Edits from the same text on lead to the same text. -/
theorem written_append_congr {early other : List Edit} (same : written early = written other)
    (late : List Edit) : written (early ++ late) = written (other ++ late) := by
  induction late using List.reverseRecOn with
  | nil => rwa [List.append_nil, List.append_nil]
  | append_singleton more last ih =>
      rw [← List.append_assoc, ← List.append_assoc]
      cases cleared : last.isClear with
      | false =>
          rw [written_append_of_not_clear _ cleared, written_append_of_not_clear _ cleared, ih]
      | true =>
          cases last with
          | clear => rw [written_append_clear, written_append_clear]
          | _ => cases cleared

/-- What was written before a text was cleared is forgotten. -/
theorem written_cleared (early late : List Edit) :
    written (early ++ .clear :: late) = written late := by
  have forgotten : written (early ++ [.clear]) = written [] := written_append_clear early
  have same := written_append_congr forgotten late
  rwa [List.append_assoc] at same

/-- A hand-out adds nothing. -/
theorem written_handed_out (early late : List Edit) :
    written (early ++ .terminate :: late) = written (early ++ late) := by
  have nothing : written (early ++ [.terminate]) = written early := by
    rw [written_append_of_not_clear early rfl, Edit.added, List.append_nil]
  have same := written_append_congr nothing late
  rwa [List.append_assoc] at same

/-- Whatever was done to a text for the host, in whatever order: when it is handed out, reading
at its address meets a NUL inside the 4096 bytes of its store, and what is read is the text up
to its first NUL, so all of the text if no NUL was written since it was last cleared.  Nothing
from before it was cleared is read, and what is written behind a hand-out goes on as if there
had been none. -/
theorem read_at_address (edits : List Edit) :
    let text : HostString := edited edits
    let read := text.cString
    (edits.mapM (Edit.carryOut hostCapacity) >>= fun _ => Cells.handOut).run
        (Cells.fresh hostStringSize) = some (read, text.terminate.cells) ∧
      (∃ rest, text.terminate.store = read ++ 0 :: rest ∧
        read.length + 1 + rest.length = 4096) ∧
      read = text.bytes.takeWhile (· != 0) ∧
      (0 ∉ written edits → read = text.bytes) ∧
      (∀ early, (edited (early ++ .clear :: edits) : HostString).cString = read) ∧
      ∀ late,
        let handedOut : HostString := edited (edits ++ .terminate :: late)
        let goneOn : HostString := edited (edits ++ late)
        handedOut.bytes = goneOn.bytes ∧ handedOut.cString = goneOn.cString := by
  intro text read
  have cut : read = text.bytes.takeWhile (· != 0) := text.cString_eq
  refine ⟨?_, ?_, cut, ?_, ?_, ?_⟩
  · have ran := carryOut_all_run (TextBuffer.empty : HostString) edits
    have fresh : Cells.fresh hostStringSize = (TextBuffer.empty : HostString).cells := rfl
    rw [fresh, StateT.run_bind, ran]
    exact Cells.handOut_run text
  · obtain ⟨-, rest, store⟩ := Bytes.eq_of_untilNul? text.untilNul?_store
    have size : (read ++ 0 :: rest).length = 4096 := by
      rw [← store]
      exact text.terminate.length_store
    refine ⟨rest, store, ?_⟩
    rw [List.length_append, List.length_cons] at size
    omega
  · intro plain
    have kept : text.bytes = (written edits).take hostCapacity := bytes_edited edits
    rw [cut, kept]
    exact Bytes.takeWhile_of_not_mem fun member => plain (List.mem_of_mem_take member)
  · intro early
    rw [cString_edited, written_cleared]
    exact (cString_edited edits).symm
  · intro late handedOut goneOn
    have same := written_handed_out edits late
    constructor
    · rw [bytes_edited, same]
      exact (bytes_edited _).symm
    · rw [cString_edited, same]
      exact (cString_edited _).symm

/-- A text that overflowed, was handed out and cleared, and then was written anew around a second
hand-out, is read as it was written anew. -/
theorem read_at_address_reused :
    let edits : List Edit := [.push (List.replicate 5000 0x61), .terminate, .clear,
      .write ["lo", "st"], .terminate, .pushText " and found"]
    0 ∉ written edits ∧
      (edited edits : HostString).cString = (edited edits : HostString).bytes := by
  intro edits
  have plain : 0 ∉ written edits := by decide
  obtain ⟨-, -, -, whole, -, -⟩ := read_at_address edits
  exact ⟨plain, whole plain⟩

end Rewind
