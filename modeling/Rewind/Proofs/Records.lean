/-
# Rewind.Proofs.Records -- where a walk over records stops

A walk takes one record after the other: a tag, a length, and what is there of the bytes that
the length promises.  Where the input ends too early a record is cut, and nothing is left
behind it, so only the last record can be cut (`Record.last_of_isCut`).  The walk does not ask
for that where the record is a blob, and stops there.

`turn?` is one turn of the walk as it is carried out, where each byte and each range is taken
on its own account and one that is not there is a fault.  All of them are there but the bytes
of a blob that is cut (`turn?_cons`).

Main statements: `walkFrom_eq` (what is logged, and what comes of the records), `turns?_eq` and
`walk_outcome`.
-/
import Rewind.Demo.Record
import Rewind.Proofs.Saturation

namespace Rewind.Demo

set_option autoImplicit false

theorem exists_header {input : Bytes} (long : 2 ≤ input.length) :
    ∃ tag declared rest, input = tag :: declared :: rest := by
  match input, long with
  | tag :: declared :: rest, _ => exact ⟨tag, declared, rest, rfl⟩

theorem short_of_no_header {input : Bytes}
    (none : ∀ tag declared rest, input = tag :: declared :: rest → False) : input.length < 2 := by
  by_contra long
  obtain ⟨tag, declared, rest, header⟩ := exists_header (Nat.le_of_not_lt long)
  exact none tag declared rest header

/-- Fewer bytes than are asked for are there just if there are fewer at all. -/
theorem length_take_lt_iff {bytes : Bytes} {n : Nat} :
    (bytes.take n).length < n ↔ bytes.length < n := by
  rw [List.length_take]
  omega

namespace Record

/-- The walk stops at the record: a blob that is cut. -/
def stops (r : Record) : Bool := r.isCut && r.tag = blobTag

/-- The range that a record that is cut does not have. -/
def rangeError (r : Record) : RangeError := ⟨r.declared.toNat, r.payload.length⟩

/-- What a walk logs for the record. -/
def notes (r : Record) : List LogRecord := if r.isCut then [] else logged r.tag r.declared

/-- A record that tells the length of its payload. -/
def ofPayload (tag : UInt8) (payload : Bytes) : Record := ⟨tag, .ofNat payload.length, payload⟩

/-! ## Only the last record is cut -/

section

variable (tag declared : UInt8) (rest : Bytes)

theorem split_cons :
    split (tag :: declared :: rest) =
      ⟨tag, declared, rest.take declared.toNat⟩ :: split (rest.drop declared.toNat) := by
  rw [split]

theorem isCut_iff :
    (⟨tag, declared, rest.take declared.toNat⟩ : Record).isCut = true ↔
      rest.length < declared.toNat := by
  rw [isCut, decide_eq_true_eq]
  exact length_take_lt_iff

end

/-- A record that is cut has all the bytes that are left. -/
theorem split_of_cut (tag : UInt8) {declared : UInt8} {rest : Bytes}
    (cut : rest.length < declared.toNat) :
    split (tag :: declared :: rest) = [⟨tag, declared, rest⟩] := by
  have none : split (rest.drop declared.toNat) = [] := by
    apply split_of_short
    rw [List.length_drop]
    omega
  rw [split_cons, none, List.take_of_length_le (Nat.le_of_lt cut)]

theorem last_of_isCut {input : Bytes} {early late : List Record} {r : Record}
    (records : split input = early ++ r :: late) (cut : r.isCut = true) : late = [] := by
  induction input using split.induct generalizing early with
  | case1 tag declared rest ih =>
      rw [split_cons] at records
      cases early with
      | nil =>
          have short : rest.length < declared.toNat := by
            rw [← (List.cons.inj records).1] at cut
            exact (isCut_iff tag declared rest).mp cut
          rw [← split_cons, split_of_cut tag short] at records
          exact (List.cons.inj records).2.symm
      | cons first more => exact ih (List.cons.inj records).2
  | case2 input other =>
      rw [split_of_short (short_of_no_header other)] at records
      simp at records

/-- A record that has another behind it is whole. -/
theorem whole_of_earlier {input : Bytes} {early : List Record} {last : Record}
    (records : split input = early ++ [last]) : ∀ r ∈ early, r.isCut = false := by
  intro r member
  obtain ⟨front, back, inside⟩ := List.append_of_mem member
  by_contra cut
  rw [Bool.not_eq_false] at cut
  have behind : split input = front ++ r :: (back ++ [last]) := by
    rw [records, inside, List.append_assoc, List.cons_append]
  exact List.append_ne_nil_of_right_ne_nil back (List.cons_ne_nil last [])
    (last_of_isCut behind cut)

/-- All of the input is in its records, but for a last byte. -/
theorem encodeAll_split (input : Bytes) :
    ∃ left, input = encodeAll (split input) ++ left ∧ left.length < 2 := by
  induction input using split.induct with
  | case1 tag declared rest ih =>
      obtain ⟨left, whole, short⟩ := ih
      refine ⟨left, ?_, short⟩
      rw [split_cons, encodeAll, List.flatMap_cons, List.append_assoc]
      show _ = tag :: declared :: (_ ++ (encodeAll _ ++ left))
      rw [← whole, List.take_append_drop]
  | case2 input other =>
      have short := short_of_no_header other
      exact ⟨input, by rw [split_of_short short]; rfl, short⟩

theorem stops_iff {r : Record} : r.stops = true ↔ r.isCut = true ∧ r.tag = blobTag := by
  rw [stops, Bool.and_eq_true, decide_eq_true_eq]

/-- A walk stops at the last record or at none. -/
theorem find?_stops_eq_some {input : Bytes} {r : Record} :
    (split input).find? stops = some r ↔
      (split input).getLast? = some r ∧ r.isCut = true ∧ r.tag = blobTag := by
  constructor
  · intro found
    obtain ⟨stop, early, late, records, -⟩ := List.find?_eq_some_iff_append.mp found
    have parts := stops_iff.mp stop
    obtain rfl := last_of_isCut records parts.1
    exact ⟨List.getLast?_eq_some_iff.mpr ⟨early, records⟩, parts⟩
  · rintro ⟨last, parts⟩
    obtain ⟨early, records⟩ := List.getLast?_eq_some_iff.mp last
    refine List.find?_eq_some_iff_append.mpr ⟨stops_iff.mpr parts, early, [], records, ?_⟩
    intro other member
    rw [stops, whole_of_earlier records other member]
    rfl

end Record

/-! ## What comes of a walk -/

/-- A walk that goes on logs what there is to log for the records in front of it, and ends with
their number or stops at the one that is a blob and cut. -/
theorem walkFrom_eq (before : List LogRecord) (count : Nat) (input : Bytes) :
    walkFrom before count input =
      (before.reverse ++ (Record.split input).flatMap Record.notes,
        match (Record.split input).find? Record.stops with
        | some r => .error r.rangeError
        | none => .ok (count + (Record.split input).length)) := by
  fun_induction walkFrom before count input with
  | case1 before count tag declared rest stop =>
      have cut : rest.length < declared.toNat := length_take_lt_iff.mp stop.2
      have isCut : (⟨tag, declared, rest⟩ : Record).isCut = true := decide_eq_true cut
      have stops : (⟨tag, declared, rest⟩ : Record).stops = true :=
        Record.stops_iff.mpr ⟨isCut, stop.1⟩
      rw [Record.split_of_cut tag cut, List.find?_cons_of_pos stops, List.flatMap_cons,
        List.flatMap_nil, Record.notes, if_pos isCut, List.append_nil, List.append_nil]
      rfl
  | case2 before count tag declared rest goesOn ih =>
      let r : Record := ⟨tag, declared, rest.take declared.toNat⟩
      have stops : ¬ r.stops = true := by
        rw [Record.stops_iff, Record.isCut, decide_eq_true_eq]
        exact fun ⟨short, blob⟩ => goesOn ⟨blob, short⟩
      have notes : (Record.logged tag declared).reverse = r.notes := by
        unfold Record.notes Record.logged
        grind [Record.stops]
      rw [ih, Record.split_cons, List.find?_cons_of_neg stops, List.flatMap_cons, ← notes,
        List.reverse_append, List.append_assoc, List.length_cons, Nat.add_assoc,
        Nat.add_comm 1]
  | case3 before count input other =>
      rw [Record.split_of_short (short_of_no_header other), List.flatMap_nil, List.append_nil]
      rfl

theorem walk_eq (input : Bytes) :
    walk input =
      ((Record.split input).flatMap Record.notes,
        match (Record.split input).find? Record.stops with
        | some r => .error r.rangeError
        | none => .ok (Record.split input).length) := by
  rw [walk, walkFrom_eq, Nat.zero_add]
  rfl

/-! ## A walk as it is carried out -/

/-- One turn: what is left of the input, unless a byte or a range is not there. -/
def turn? (cursor : Bytes) : Option Bytes := do
  let tag ← cursor[0]?
  let declared ← cursor[1]?
  let rest ← cursor.slice? 2 cursor.length
  if tag = Record.blobTag then discard (rest.slice? 0 declared.toNat)
  rest.slice? (min declared.toNat rest.length) rest.length

theorem slice?_from {bytes : Bytes} {start : Nat} (inside : start ≤ bytes.length) :
    bytes.slice? start bytes.length = some (bytes.drop start) := by
  have whole : (bytes.drop start).length ≤ bytes.length - start := Nat.le_of_eq List.length_drop
  rw [Bytes.slice?, if_pos ⟨inside, Nat.le_refl _⟩, List.take_of_length_le whole]

/-- All that is asked for in a turn is there, but for the bytes of a blob that is cut. -/
theorem turn?_cons (tag declared : UInt8) (rest : Bytes) :
    turn? (tag :: declared :: rest) =
      if tag = Record.blobTag ∧ rest.length < declared.toNat then none
      else some (rest.drop declared.toNat) := by
  have behind : Bytes.slice? (tag :: declared :: rest) 2 (tag :: declared :: rest).length =
      some rest := slice?_from (by simp)
  have left : rest.slice? (min declared.toNat rest.length) rest.length =
      some (rest.drop declared.toNat) := by
    rw [slice?_from (Nat.min_le_right _ _), Option.some_inj]
    exact List.drop_eq_drop_min.symm
  simp only [turn?, List.getElem?_cons_zero, List.getElem?_cons_succ, Option.bind_eq_bind,
    Option.bind_some, behind, left]
  by_cases blob : tag = Record.blobTag
  · by_cases cut : rest.length < declared.toNat
    · have missing : rest.slice? 0 declared.toNat = none :=
        if_neg fun inside => Nat.not_le_of_lt cut inside.2
      rw [if_pos blob, if_pos ⟨blob, cut⟩, missing]
      rfl
    · rw [if_pos blob, if_neg fun stop => cut stop.2, Bytes.slice?_zero (Nat.le_of_not_lt cut)]
      rfl
  · rw [if_neg blob, if_neg fun stop => blob stop.1]

/-- A turn leaves less than there was. -/
theorem length_turn? {cursor rest : Bytes} (long : 2 ≤ cursor.length)
    (turned : turn? cursor = some rest) : rest.length < cursor.length := by
  obtain ⟨tag, declared, more, rfl⟩ := exists_header long
  rw [turn?_cons] at turned
  split at turned
  · cases turned
  · obtain rfl := Option.some.inj turned
    simp only [List.length_drop, List.length_cons]
    omega

/-- Turn after turn, as long as there are a tag and a length: how many turns there were. -/
def turns? (cursor : Bytes) (count : Nat) : Option Nat :=
  if _ : 2 ≤ cursor.length then
    match _ : turn? cursor with
    | none => none
    | some rest => turns? rest (count + 1)
  else some count
termination_by cursor.length
decreasing_by exact length_turn? ‹_› ‹_›

theorem turns?_of_short {cursor : Bytes} (short : cursor.length < 2) (count : Nat) :
    turns? cursor count = some count := by
  rw [turns?, dif_neg (Nat.not_le_of_lt short)]

theorem turns?_cons (tag declared : UInt8) (rest : Bytes) (count : Nat) :
    turns? (tag :: declared :: rest) count =
      if tag = Record.blobTag ∧ rest.length < declared.toNat then none
      else turns? (rest.drop declared.toNat) (count + 1) := by
  have turned := turn?_cons tag declared rest
  rw [turns?, dif_pos (by simp)]
  split
  · next nothing =>
      rw [nothing] at turned
      split at turned
      · next stop => rw [if_pos stop]
      · cases turned
  · next left found =>
      rw [found] at turned
      split at turned
      · cases turned
      · next goesOn => rw [if_neg goesOn, Option.some.inj turned]

/-- A walk is its turns: where a byte or a range is not there it stops, and nowhere else. -/
theorem turns?_eq (before : List LogRecord) (count : Nat) (input : Bytes) :
    turns? input count = (walkFrom before count input).2.toOption := by
  fun_induction walkFrom before count input with
  | case1 before count tag declared rest stop =>
      rw [length_take_lt_iff] at stop
      rw [turns?_cons, if_pos stop]
      rfl
  | case2 before count tag declared rest goesOn ih =>
      rw [length_take_lt_iff] at goesOn
      rw [turns?_cons, if_neg goesOn, ih]
  | case3 before count input other =>
      rw [turns?_of_short (short_of_no_header other)]
      rfl

/-- A record that tells the length of its payload is whole. -/
theorem Record.length_ofPayload (tag : UInt8) {payload : Bytes} (short : payload.length ≤ 255) :
    (ofPayload tag payload).payload.length = (ofPayload tag payload).declared.toNat := by
  show payload.length = (UInt8.ofNat payload.length).toNat
  rw [UInt8.toNat_ofNat_of_lt' (Nat.lt_succ_of_le short)]

/-- Records that are all whole are walked over. -/
theorem walk_encodeAll {records : List Record} {left : Bytes}
    (whole : ∀ r ∈ records, r.payload.length = r.declared.toNat) (short : left.length < 2) :
    (walk (Record.encodeAll records ++ left)).2 = .ok records.length := by
  have passed : records.find? Record.stops = none := by
    rw [List.find?_eq_none]
    intro r member stops
    have cut := of_decide_eq_true (Record.stops_iff.mp stops).1
    exact Nat.ne_of_lt cut (whole r member)
  rw [walk_eq, Record.split_encodeAll records whole short, passed]

/-- A walk over an input, whatever its bytes.  The input is its records and at most one byte
more, and only the last record may be cut.  The walk stops just if that one is cut and a blob,
and then says which range was not there; otherwise it ends with the number of the records, at
most one for each two bytes.  No other byte or range that it asks for is missing.  Of records
that were written with their lengths it finds as many as were written. -/
theorem walk_outcome (input : Bytes) :
    let records := Record.split input
    let cutBlob := fun last : Record => records.getLast? = some last ∧ last.isCut = true ∧
      last.tag = Record.blobTag
    (∃ left, input = Record.encodeAll records ++ left ∧ left.length < 2) ∧
      (∀ r ∈ records.dropLast, r.isCut = false) ∧
      (∀ error, (walk input).2 = .error error ↔
        ∃ last, cutBlob last ∧ error = ⟨last.declared.toNat, last.payload.length⟩) ∧
      ((¬ ∃ last, cutBlob last) → (walk input).2 = .ok records.length) ∧
      2 * records.length ≤ input.length ∧
      turns? input 0 = (walk input).2.toOption ∧
      ∀ (written : List (UInt8 × Bytes)) (left : Bytes),
        (∀ piece ∈ written, piece.2.length ≤ 255) → left.length ≤ 1 →
          (walk (Record.encodeAll (written.map fun piece => .ofPayload piece.1 piece.2) ++
            left)).2 = .ok written.length := by
  intro records cutBlob
  refine ⟨Record.encodeAll_split input, ?_, ?_, ?_, Record.length_split_le input,
    turns?_eq [] 0 input, ?_⟩
  · intro r member
    have some : records ≠ [] := by
      rintro none
      rw [none] at member
      cases member
    exact Record.whole_of_earlier (List.dropLast_concat_getLast some).symm r member
  · intro error
    rw [walk_eq]
    constructor
    · intro stopped
      split at stopped
      · next last found =>
          exact ⟨last, Record.find?_stops_eq_some.mp found, (Except.error.inj stopped).symm⟩
      · cases stopped
    · rintro ⟨last, cut, rfl⟩
      rw [Record.find?_stops_eq_some.mpr cut]
      rfl
  · intro passed
    have none : records.find? Record.stops = none := by
      rw [Option.eq_none_iff_forall_ne_some]
      intro last found
      exact passed ⟨last, Record.find?_stops_eq_some.mp found⟩
    rw [walk_eq, none]
  · intro written left short few
    have whole : ∀ r ∈ written.map fun piece => Record.ofPayload piece.1 piece.2,
        r.payload.length = r.declared.toNat := by
      rw [List.forall_mem_map]
      intro piece member
      exact Record.length_ofPayload piece.1 (short piece member)
    rw [walk_encodeAll whole (Nat.lt_succ_of_le few), List.length_map]

/-- A blob that is cut behind a whole record stops the walk; whole blobs do not, nor does a byte
behind them. -/
theorem walk_outcome_blobs :
    (walk [0x01, 0x02, 0x61, 0x62, 0xcc, 0x05, 0x63]).2 = .error ⟨5, 1⟩ ∧
      (∀ piece ∈ [((0xcc : UInt8), ([0x61, 0x62] : Bytes)), (0xcc, [])], piece.2.length ≤ 255) ∧
      (walk [0xcc, 0x02, 0x61, 0x62, 0xcc, 0x00, 0xcc]).2 = .ok 2 := by
  have short : ∀ piece ∈ [((0xcc : UInt8), ([0x61, 0x62] : Bytes)), (0xcc, [])],
      piece.2.length ≤ 255 := by decide
  have last : (Record.split [0x01, 0x02, 0x61, 0x62, 0xcc, 0x05, 0x63]).getLast? =
      some ⟨0xcc, 0x05, [0x63]⟩ := by decide +kernel
  obtain ⟨-, -, stops, -⟩ := walk_outcome [0x01, 0x02, 0x61, 0x62, 0xcc, 0x05, 0x63]
  obtain ⟨-, -, -, -, -, -, finds⟩ := walk_outcome []
  exact ⟨(stops _).mpr ⟨_, ⟨last, rfl, rfl⟩, rfl⟩, short, finds _ [0xcc] short (by decide)⟩

end Rewind.Demo
