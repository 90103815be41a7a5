/-
# Rewind.Instrumentation -- what a compiler's coverage runtime exports

An instrumented target carries four globals: where its coverage map is and how long,
and where its dictionary of tokens is and how long.  Each may be missing, and a
pointer may be null.  The map may be moved while the target starts, so it is looked
at anew each time it is copied.

Main statements: `toList_bridge` (the overlap is copied and the rest of the trace
stays), `size_bridge`.
-/
import Rewind.Memory

namespace Rewind

set_option autoImplicit false

/-- The globals of a coverage runtime.  A missing global is `none`; a pointer that is
there is null or leads to some bytes, with zeros behind them. -/
structure Instrumentation where
  area : Option (Option Bytes)
  mapSize : Option UInt32
  dictionary : Option (Option Bytes)
  dictionarySize : Option UInt32
  deriving DecidableEq, Repr

namespace Instrumentation

def absent : Instrumentation := ⟨none, none, none, none⟩

/-- Set the globals that `values` names and that are there. -/
def update (i values : Instrumentation) : Instrumentation where
  area := i.area.map fun old => values.area.getD old
  mapSize := i.mapSize.map fun old => values.mapSize.getD old
  dictionary := i.dictionary.map fun old => values.dictionary.getD old
  dictionarySize := i.dictionarySize.map fun old => values.dictionarySize.getD old

/-- The coverage map as it is now, unless it is null or has no bytes. -/
def currentMap? (i : Instrumentation) : Option Buffer :=
  match i.area, i.mapSize with
  | some (some bytes), some size =>
      if size = 0 then none else some (Buffer.padded size.toNat bytes)
  | _, _ => none

/-- The dictionary, unless it is missing, null or has no bytes. -/
def dictionary? (i : Instrumentation) : Option Slice :=
  match i.dictionary, i.dictionarySize with
  | some (some bytes), some size =>
      if size = 0 then none
      else some ⟨UInt64.ofNat Memory.dataStart, Buffer.padded size.toNat bytes⟩
  | _, _ => none

end Instrumentation

/-- Where coverage is copied from: the runtime's map, or bytes that stay as they are. -/
inductive CoverageMap
  | runtime
  | fixed (bytes : Bytes)
  deriving DecidableEq, Repr

namespace CoverageMap

/-- The runtime's map, if the runtime exports one. -/
def discover (i : Instrumentation) : Option CoverageMap :=
  if i.area.isSome && i.mapSize.isSome then some runtime else none

/-- The map as it stands, if it has bytes. -/
def current? (i : Instrumentation) : CoverageMap → Option Buffer
  | runtime => i.currentMap?
  | fixed bytes => if bytes = [] then none else some (Buffer.ofList bytes)

/-- How many bytes of the map fit into a trace. -/
def overlap (i : Instrumentation) (map : CoverageMap) (trace : Buffer) : Nat :=
  match map.current? i with
  | some content => min content.size trace.size
  | none => 0

/-- Copy as much of the map as fits into a trace. -/
def bridge (i : Instrumentation) (map : CoverageMap) (trace : Buffer) : Buffer :=
  match map.current? i with
  | some content => trace.blit 0 (content.take (map.overlap i trace))
  | none => trace

@[simp] theorem size_bridge (i : Instrumentation) (map : CoverageMap) (trace : Buffer) :
    (map.bridge i trace).size = trace.size := by
  unfold bridge
  split
  · exact Buffer.size_blit _ _ _
  · rfl

/-- The map takes the front of the trace, and what it does not reach stays. -/
theorem toList_bridge {i : Instrumentation} {map : CoverageMap} {content : Buffer}
    (trace : Buffer) (found : map.current? i = some content) :
    (map.bridge i trace).toList =
      content.toList.take trace.size ++ trace.toList.drop content.size := by
  have limit : map.overlap i trace = min content.size trace.size := by simp [overlap, found]
  simp only [bridge, found, Buffer.toList_blit, limit, Buffer.take_eq, List.take_zero,
    List.nil_append, Nat.sub_zero, Nat.zero_add, List.take_take, List.length_take,
    Buffer.length_toList]
  have whole : content.toList.length = content.size := content.length_toList
  rcases Nat.le_total content.size trace.size with le | le
  · rw [Nat.min_eq_left le, Nat.min_self, List.take_of_length_le (by omega),
      List.take_of_length_le (by omega)]
  · rw [Nat.min_eq_right le, Nat.min_self, Nat.min_eq_left le,
      List.drop_of_length_le (by simp), List.drop_of_length_le (by simpa using le)]

end CoverageMap

end Rewind
