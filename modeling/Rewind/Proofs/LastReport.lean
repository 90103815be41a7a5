/-
# Rewind.Proofs.LastReport -- the page holds what was reported last

A report is copied into the page behind the opcode, as far as the page reaches, and a NUL is put
behind it.  Nothing is wiped: behind the NUL stand the bytes of earlier and longer reports.
`Sink.keep?` is that copying as it is carried out, where a difference below zero and a range that
is not in the page are faults.

One report decides what is read of the page (`Sink.toList_record`), and other calls change
nothing, so what is read is what the last report left, whatever was there before.  It is read as
text; what is no UTF-8 in it is replaced (`Utf8.Mended`).

Main statements: `Utf8.mended_lossy`, `Sink.keep?_eq` and `Sink.last_report_read`.
-/
import Mathlib.Data.List.Induction
import Rewind.Proofs.Saturation
import Rewind.Proofs.TextView
import Rewind.Sink

namespace Rewind

set_option autoImplicit false

/-! ## Bytes that are no UTF-8 -/

namespace Utf8

/-- What bytes say: each character that stands there, and U+FFFD for a byte that begins none,
with bytes behind it that may only continue one. -/
inductive Mended : Bytes → List Char → Prop
  | nil : Mended [] []
  | char {rest : Bytes} {said : List Char} (c : Char) (later : Mended rest said) :
      Mended (String.utf8EncodeChar c ++ rest) (c :: said)
  | broken {b : UInt8} {more rest : Bytes} {said : List Char}
      (begins : ∀ c, ¬ String.utf8EncodeChar c <+: b :: (more ++ rest))
      (continues : ∀ b ∈ more, isContinuation b = true) (later : Mended rest said) :
      Mended (b :: (more ++ rest)) (Char.ofNat 0xFFFD :: said)

theorem lossyChars_of_next? {bytes rest : Bytes} {c : Char} (read : next? bytes = some (c, rest)) :
    lossyChars bytes = c :: lossyChars rest := by
  cases bytes with
  | nil => exact nomatch (show next? [] = none by decide) ▸ read
  | cons b tail =>
      rw [lossyChars]
      split
      · next d found same =>
          obtain ⟨rfl, rfl⟩ := Prod.mk.inj (Option.some.inj (same.symm.trans read))
          rfl
      · next nothing =>
          rw [nothing] at read
          cases read

theorem lossyChars_of_none {b : UInt8} {rest : Bytes} (nothing : next? (b :: rest) = none) :
    lossyChars (b :: rest) = Char.ofNat 0xFFFD :: lossyChars (rest.drop (belonging b rest)) := by
  rw [lossyChars]
  split
  · next found =>
      rw [nothing] at found
      cases found
  · rfl

/-- A second byte that is allowed only continues a character. -/
theorem isContinuation_of_following? {b c least greatest : UInt8} {more : Nat}
    (follows : following? b = some (least, greatest, more)) (above : least ≤ c)
    (below : c ≤ greatest) : isContinuation c = true := by
  have bounds : 0x80 ≤ least ∧ greatest ≤ 0xBF := by
    unfold following? at follows
    split_ifs at follows <;> cases follows <;> decide
  rw [isContinuation, Bool.and_eq_true, decide_eq_true_iff, decide_eq_true_iff]
  exact ⟨UInt8.le_trans bounds.1 above, UInt8.le_trans below bounds.2⟩

/-- What belongs to a character that is not finished continues it. -/
theorem isContinuation_of_belonging (b : UInt8) (rest : Bytes) :
    ∀ c ∈ rest.take (belonging b rest), isContinuation c = true := by
  unfold belonging
  split
  · next least greatest more c tail follows =>
      split
      · next allowed =>
          rw [Bool.and_eq_true, decide_eq_true_iff, decide_eq_true_iff] at allowed
          have start : (tail.take (more - 1)).takeWhile isContinuation <+: tail :=
            (List.takeWhile_prefix _).trans (List.take_prefix _ _)
          intro d member
          rw [Nat.add_comm, List.take_succ_cons, ← List.prefix_iff_eq_take.mp start] at member
          rcases List.mem_cons.mp member with rfl | later
          · exact isContinuation_of_following? follows allowed.1 allowed.2
          · exact List.mem_takeWhile_imp later
      · simp
  · simp

/-- Reading all bytes mends them. -/
theorem mended_lossy (bytes : Bytes) : Mended bytes (lossy bytes).toList := by
  rw [lossy, String.toList_ofList]
  induction bytes using lossyChars.induct with
  | case1 =>
      rw [lossyChars]
      exact .nil
  | case2 b rest c tail read ih =>
      rw [lossyChars_of_next? read, eq_of_next? read]
      exact .char c ih
  | case3 b rest nothing ih =>
      have begins : ∀ c, ¬ String.utf8EncodeChar c <+:
          b :: (rest.take (belonging b rest) ++ rest.drop (belonging b rest)) := by
        rw [List.take_append_drop]
        rintro c ⟨tail, whole⟩
        rw [← whole, next?_encodeChar_append] at nothing
        cases nothing
      have mended := Mended.broken begins (isContinuation_of_belonging b rest) ih
      rwa [List.take_append_drop, ← lossyChars_of_none nothing] at mended

/-- A text is read as it is. -/
theorem lossy_ofString (text : String) : lossy (ofString text) = text := by
  have read (chars : List Char) : lossyChars (encode chars) = chars := by
    induction chars with
    | nil => rw [encode_nil, lossyChars]
    | cons c rest ih => rw [encode_cons, lossyChars_of_next? (next?_encodeChar_append c _), ih]
  rw [lossy, ofString, read, String.ofList_toList]

end Utf8

/-! ## Bytes in the place of others -/

namespace Bytes

/-- As many bytes as stand there take their place. -/
theorem fill?_between (front : Bytes) {old others : Bytes} (same : others.length = old.length)
    (back : Bytes) :
    fill? (front ++ (old ++ back)) front.length (front.length + others.length) others =
      some (front ++ (others ++ back)) := by
  have inside : front.length + others.length ≤ (front ++ (old ++ back)).length := by
    simp only [List.length_append]
    omega
  rw [fill?, if_pos ⟨Nat.le_add_right _ _, inside, (Nat.add_sub_cancel_left _ _).symm⟩,
    List.take_left, same, ← List.append_assoc front old, List.drop_left' List.length_append,
    List.append_assoc]

/-- So does a byte. -/
theorem put?_between (front : Bytes) (old b : UInt8) (back : Bytes) :
    put? (front ++ old :: back) front.length b = some (front ++ b :: back) := by
  have inside : front.length < (front ++ old :: back).length := by
    rw [List.length_append, List.length_cons]
    omega
  rw [put?, if_pos inside, List.set_append_right _ _ (Nat.le_refl _), Nat.sub_self]
  rfl

/-- A page in parts: so many bytes, so many behind them, one more, and the rest. -/
theorem exists_parts {bytes : Bytes} {n m : Nat} (inside : n + m < bytes.length) :
    ∃ front old b, bytes = front ++ (old ++ b :: bytes.drop (n + m + 1)) ∧ front.length = n ∧
      old.length = m := by
  refine ⟨bytes.take n, (bytes.drop n).take m, bytes[n + m], ?_, ?_, ?_⟩
  · rw [← List.drop_eq_getElem_cons inside, ← List.drop_drop, List.take_append_drop,
      List.take_append_drop]
  · rw [List.length_take]
    omega
  · rw [List.length_take, List.length_drop]
    omega

end Bytes

namespace Sink

/-! ## One report -/

/-- The C string that the argument of a call leads to. -/
def cText (call : Call) : Bytes := (call.text?.getD []).takeWhile (· != 0)

/-- As much of it as the page has room for, when a NUL is to stand behind it. -/
def kept (call : Call) : Bytes := (cText call).take 4095

/-- Keep a report in a page in memory, where a difference below zero and a range that is not in the
page are faults. -/
def keep? (page : Bytes) (call : Call) : Option Bytes :=
  if call.isTerminal then do
    let behind ← minus? page.length textStart
    let room ← minus? behind 1
    let count := min (cText call).length room
    let text ← (cText call).slice? 0 count
    let page ← page.fill? textStart (textStart + count) text
    let page ← page.put? (textStart + count) 0
    page.fill? 0 textStart (Bytes.ofNat textStart call.op.code.toNat)
  else some page

theorem nul_not_mem_kept (call : Call) : 0 ∉ kept call := fun member =>
  Bytes.nul_not_mem_takeWhile _ (List.mem_of_mem_take member)

theorem length_kept_le (call : Call) : (kept call).length ≤ 4095 :=
  List.length_take_le _ _

/-- What is kept of a report goes over as many bytes of the page, the NUL over the next one, and
the opcode over the bytes at its front. -/
theorem keep?_of_parts {call : Call} (terminal : call.isTerminal = true) {front old rest : Bytes}
    {b : UInt8} (size : (front ++ (old ++ b :: rest)).length = 4104)
    (length_front : front.length = textStart) (length_old : old.length = (kept call).length) :
    keep? (front ++ (old ++ b :: rest)) call =
      some (Bytes.ofNat textStart call.op.code.toNat ++ (kept call ++ 0 :: rest)) := by
  have behind : minus? (front ++ (old ++ b :: rest)).length textStart = some 4096 := by
    rw [size]
    rfl
  have room : minus? 4096 1 = some 4095 := rfl
  have count : min (cText call).length 4095 = (kept call).length := by
    rw [kept, List.length_take, Nat.min_comm]
  have text : (cText call).slice? 0 (kept call).length = some (kept call) := by
    rw [← count, Bytes.slice?_zero (Nat.min_le_left _ _), kept, Option.some_inj,
      List.take_eq_take_iff]
    omega
  have copied := Bytes.fill?_between front length_old.symm (b :: rest)
  have ended := Bytes.put?_between (front ++ kept call) b 0 rest
  have named := Bytes.fill?_between []
    ((Bytes.length_ofNat textStart call.op.code.toNat).trans length_front.symm)
    (kept call ++ 0 :: rest)
  rw [length_front] at copied
  rw [List.length_append, length_front, List.append_assoc, List.append_assoc] at ended
  rw [Bytes.length_ofNat, List.nil_append, List.nil_append, List.length_nil, Nat.zero_add] at named
  simp only [keep?, terminal, if_true, behind, room, count, text, copied, ended, named,
    Option.bind_eq_bind, Option.bind_some]

section

variable {page : Buffer} (sized : page.size = pageSize) {call : Call}

include sized

theorem length_toList_page : page.toList.length = 4104 := by
  rw [Buffer.length_toList, sized]
  rfl

/-- The page behind a report: the opcode, the text, a NUL, and what was there before. -/
theorem toList_record (terminal : call.isTerminal = true) :
    (record page call).toList = Bytes.ofNat textStart call.op.code.toNat ++
      (kept call ++ 0 :: page.toList.drop (textStart + (kept call).length + 1)) := by
  have written : record page call = (page.blit textStart (kept call ++ [0])).blit 0
      (Bytes.ofNat textStart call.op.code.toNat) := if_pos terminal
  have inside : (kept call ++ [0]).length ≤ page.size - textStart := by
    have short := length_kept_le call
    rw [sized, List.length_append]
    exact Nat.succ_le_succ short
  have text : (page.blit textStart (kept call ++ [0])).toList = page.toList.take textStart ++
      (kept call ++ 0 :: page.toList.drop (textStart + (kept call).length + 1)) := by
    rw [Buffer.toList_blit, List.take_of_length_le inside, List.length_append, List.append_assoc,
      List.append_assoc]
    rfl
  have front : (page.toList.take textStart).length = textStart := by
    rw [List.length_take, length_toList_page sized]
    rfl
  have opcode : (Bytes.ofNat textStart call.op.code.toNat).length ≤
      (page.blit textStart (kept call ++ [0])).size := by
    rw [Bytes.length_ofNat, Buffer.size_blit, sized]
    decide
  rw [written, Buffer.toList_blit_front opcode, text, Bytes.length_ofNat, List.drop_left' front]

/-- Keeping a report comes to an end without a fault, also where it fills the page. -/
theorem keep?_eq (call : Call) : keep? page.toList call = some (record page call).toList := by
  cases terminal : call.isTerminal with
  | false =>
      rw [record_of_nonterminal page terminal, keep?, terminal]
      rfl
  | true =>
      have size := length_toList_page sized
      have inside : textStart + (kept call).length < page.toList.length := by
        have short := length_kept_le call
        rw [size]
        exact Nat.add_lt_add_left (Nat.lt_succ_of_le short) 8
      obtain ⟨front, old, b, parts, length_front, length_old⟩ := Bytes.exists_parts inside
      rw [toList_record sized terminal]
      rw [parts] at size
      have kept := keep?_of_parts terminal size length_front length_old
      rwa [← parts] at kept

/-- What is read of the page is the opcode and the text of this report. -/
theorem op?_record (terminal : call.isTerminal = true) : op? (record page call) = some call.op := by
  have code : Bytes.toNat (Bytes.ofNat textStart call.op.code.toNat) = call.op.code.toNat := by
    rw [Bytes.toNat_ofNat]
    exact Nat.mod_eq_of_lt call.op.code.toNat_lt
  rw [op?, Buffer.take_eq, toList_record sized terminal,
    List.take_left' (Bytes.length_ofNat _ _), code, UInt64.ofNat_toNat, Hypercall.ofCode?_code]

theorem text_record (terminal : call.isTerminal = true) : text (record page call) = kept call := by
  rw [text, Buffer.toList_drop, toList_record sized terminal,
    List.drop_left' (Bytes.length_ofNat _ _),
    Bytes.takeWhile_append_of_not_mem (nul_not_mem_kept call)]
  exact List.append_nil _

end

/-! ## Any number of calls -/

/-- What a call reports: a crash or an abort, with the C string that its argument leads to. -/
def report? : Call → Option (Hypercall × Bytes)
  | .panicExtended text => some (.panicExtended, text.takeWhile (· != 0))
  | .userAbort text => some (.userAbort, text.takeWhile (· != 0))
  | _ => none

theorem report?_of_terminal {call : Call} (terminal : call.isTerminal = true) :
    report? call = some (call.op, cText call) := by
  cases call with
  | panicExtended text => rfl
  | userAbort text => rfl
  | _ => cases terminal

theorem report?_of_nonterminal {call : Call} (other : call.isTerminal = false) :
    report? call = none := by
  cases call with
  | panicExtended text => cases other
  | userAbort text => cases other
  | _ => rfl

theorem isSome_report? (call : Call) : (report? call).isSome = call.isTerminal := by
  cases call <;> rfl

/-- What is reported last. -/
def last? (calls : List Call) : Option (Hypercall × Bytes) := calls.reverse.findSome? report?

theorem last?_append (early late : List Call) :
    last? (early ++ late) = (last? late).or (last? early) := by
  rw [last?, List.reverse_append, List.findSome?_append]
  rfl

theorem size_run (calls : List Call) (page : Buffer) :
    (calls.foldl record page).size = page.size := by
  induction calls generalizing page with
  | nil => rfl
  | cons call rest ih => rw [List.foldl_cons, ih, size_record]

/-- Keeping reports one after another comes to an end without a fault. -/
theorem keep?_run {page : Buffer} (sized : page.size = pageSize) (calls : List Call) :
    calls.foldlM keep? page.toList = some (calls.foldl record page).toList := by
  induction calls generalizing page with
  | nil => rfl
  | cons call rest ih =>
      have next : (record page call).size = pageSize := (size_record page call).trans sized
      rw [List.foldlM_cons, keep?_eq sized, List.foldl_cons, ← ih next]
      rfl

/-- Calls that report nothing might as well not have been made. -/
theorem run_filter (calls : List Call) (page : Buffer) :
    (calls.filter Call.isTerminal).foldl record page = calls.foldl record page := by
  induction calls generalizing page with
  | nil => rfl
  | cons call rest ih =>
      cases terminal : call.isTerminal with
      | true => rw [List.filter_cons_of_pos terminal, List.foldl_cons, List.foldl_cons, ih]
      | false =>
          rw [List.filter_cons_of_neg (by rw [terminal]; decide), List.foldl_cons, ih,
            record_of_nonterminal page terminal]

/-- The last report decides what is read. -/
theorem read_run (calls : List Call) :
    op? (calls.foldl record empty) = (last? calls).map Prod.fst ∧
      text (calls.foldl record empty) =
        ((last? calls).map fun report => report.2.take 4095).getD [] := by
  induction calls using List.reverseRecOn with
  | nil => exact ⟨by decide, by decide +kernel⟩
  | append_singleton early call ih =>
      have sized : (early.foldl record empty).size = pageSize := size_run early empty
      rw [List.foldl_append, List.foldl_cons, List.foldl_nil, last?_append]
      cases terminal : call.isTerminal with
      | true =>
          have last : last? [call] = some (call.op, cText call) := by
            rw [last?, List.reverse_singleton, List.findSome?_singleton,
              report?_of_terminal terminal]
          rw [last, op?_record sized terminal, text_record sized terminal]
          exact ⟨rfl, rfl⟩
      | false =>
          have none : last? [call] = none := by
            rw [last?, List.reverse_singleton, List.findSome?_singleton,
              report?_of_nonterminal terminal]
          rwa [none, record_of_nonterminal _ terminal]

/-- What is handed out of a text for the host is no longer than what is kept. -/
theorem take_cString (written : HostString) : written.cString.take 4095 = written.cString := by
  refine List.take_of_length_le ?_
  rw [TextBuffer.cString_eq]
  refine Nat.le_trans (List.takeWhile_prefix _).length_le ?_
  rw [TextBuffer.length_bytes]
  exact written.len_le

/-- Whatever calls are made, in whatever order and with whatever texts: no write goes beyond the
page, and calls that report nothing do not change it.  What is read of it afterwards is the opcode
of the last report and the first 4095 bytes of its C string, or neither where there was no report;
shown as text, what is no UTF-8 in it is replaced.  A text for the host is read whole, and of
anything that was reported earlier nothing is read. -/
theorem last_report_read (calls : List Call) :
    let page := calls.foldl record empty
    let shown := Utf8.lossy (text page)
    calls.foldlM keep? empty.toList = some page.toList ∧
      (calls.filter fun call => (report? call).isSome).foldl record empty = page ∧
      op? page = (last? calls).map Prod.fst ∧
      text page = ((last? calls).map fun report => report.2.take 4095).getD [] ∧
      Utf8.Mended (text page) shown.toList ∧
      (∀ said, text page = Utf8.ofString said → shown = said) ∧
      (∀ written : HostString, (last? calls).map Prod.snd = some written.cString →
        text page = written.cString) ∧
      ∀ early, last? calls ≠ none →
        op? ((early ++ calls).foldl record empty) = op? page ∧
          text ((early ++ calls).foldl record empty) = text page := by
  intro page shown
  obtain ⟨op, read⟩ := read_run calls
  have reports : (calls.filter fun call => (report? call).isSome) =
      calls.filter Call.isTerminal := List.filter_congr fun call _ => isSome_report? call
  refine ⟨keep?_run rfl calls, reports ▸ run_filter calls empty, op, read, Utf8.mended_lossy _,
    ?_, ?_, ?_⟩
  · intro said whole
    rw [show shown = _ from congrArg Utf8.lossy whole, Utf8.lossy_ofString]
  · intro written handedOut
    obtain ⟨report, last, text⟩ := Option.map_eq_some_iff.mp handedOut
    rw [show Sink.text page = _ from read, last, Option.map_some, Option.getD_some, text,
      take_cString]
  · intro early reported
    obtain ⟨report, last⟩ := Option.ne_none_iff_exists'.mp reported
    obtain ⟨opToo, readToo⟩ := read_run (early ++ calls)
    rw [opToo, readToo, show op? page = _ from op, show text page = _ from read, last?_append, last]
    exact ⟨rfl, rfl⟩

/-- A crash report that fills the page is cut, and behind it a short abort is read as it is. -/
theorem last_report_read_shorter :
    let early : List Call := [.panicExtended (List.replicate 5000 0x61)]
    let calls : List Call := [.printf (hostText "on"), .userAbort (hostText "end"), .release 0]
    let full := early.foldl record empty
    let page := calls.foldl record empty
    let written : HostString := TextBuffer.ofText "end"
    op? full = some .panicExtended ∧ text full = List.replicate 4095 0x61 ∧
      last? calls ≠ none ∧ (last? calls).map Prod.snd = some written.cString ∧
      op? page = some .userAbort ∧ text page = Utf8.ofString "end" ∧
      Utf8.lossy (text page) = "end" ∧
      op? ((early ++ calls).foldl record empty) = op? page ∧
      text ((early ++ calls).foldl record empty) = text page := by
  intro early calls full page written
  have last : last? calls ≠ none :=
    show some (Hypercall.userAbort, (hostText "end").takeWhile (· != 0)) ≠ none from
      Option.some_ne_none _
  obtain ⟨-, -, opFull, textFull, -⟩ := last_report_read early
  obtain ⟨-, -, op, -, -, shown, whole, covered⟩ := last_report_read calls
  have letters : (0 : UInt8) ∉ List.replicate 5000 0x61 := by
    rw [List.mem_replicate]
    decide
  have cut : text full = List.replicate 4095 0x61 := by
    refine textFull.trans ?_
    show ((List.replicate 5000 (0x61 : UInt8)).takeWhile (· != 0)).take 4095 = _
    rw [Bytes.takeWhile_of_not_mem letters, List.take_replicate, Nat.min_eq_left (by decide)]
  have ends : (last? calls).map Prod.snd = some written.cString := by decide +kernel
  have said : text page = Utf8.ofString "end" := (whole written ends).trans (by decide +kernel)
  exact ⟨opFull, cut, last, ends, op, said, shown "end" said, covered early last⟩

end Sink

end Rewind
