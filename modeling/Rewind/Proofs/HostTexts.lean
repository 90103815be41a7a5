/-
# Rewind.Proofs.HostTexts -- which texts reach the host whole

A text is handed to the host as a C string of at most 4095 bytes.  What the host reads is
the text itself just if it fits and has no NUL.  A NUL is a byte of its own in UTF-8, and a
text that is cut loses whole characters at its end.

Main statements: `Utf8.zero_mem_ofString`, `Utf8.chars_take_encode` (what is left of a text
that is cut), `Plain.hostText`, `AgentError.hostText_of_incompatible`.
-/
import Mathlib.Data.List.TakeWhile
import Rewind.Agent

namespace Rewind

set_option autoImplicit false

/-! ## NUL -/

namespace Bytes

/-- Reading up to a NUL goes past bytes that have none. -/
theorem takeWhile_append_of_not_mem {front : Bytes} (plain : 0 ∉ front) (rest : Bytes) :
    (front ++ rest).takeWhile (· != 0) = front ++ rest.takeWhile (· != 0) := by
  apply List.takeWhile_append_of_pos
  intro b member
  rw [bne_iff_ne]
  rintro rfl
  exact plain member

/-- All of them are read where there is none. -/
theorem takeWhile_of_not_mem {bytes : Bytes} (plain : 0 ∉ bytes) :
    bytes.takeWhile (· != 0) = bytes := by
  have all := takeWhile_append_of_not_mem plain []
  rwa [List.takeWhile_nil, List.append_nil] at all

/-- What was read up to a NUL has none. -/
theorem nul_not_mem_takeWhile (bytes : Bytes) : 0 ∉ bytes.takeWhile (· != 0) := fun member =>
  absurd (List.mem_takeWhile_imp member) (by decide)

end Bytes

namespace Utf8

theorem ofNat_ne_zero {n : Nat} (positive : 0 < n) (small : n < 256) : UInt8.ofNat n ≠ 0 := by
  intro zero
  have same := congrArg UInt8.toNat zero
  rw [UInt8.toNat_ofNat_of_lt' small] at same
  exact Nat.ne_of_gt positive same

/-- Only NUL has a byte that is zero. -/
theorem zero_mem_encodeChar {c : Char} : 0 ∈ String.utf8EncodeChar c ↔ c = '\x00' := by
  constructor
  · intro member
    unfold String.utf8EncodeChar at member
    simp only at member
    split at member
    · next single =>
        by_contra other
        have positive : 0 < c.val.toNat := by
          refine Nat.pos_of_ne_zero fun zero => other ?_
          exact Char.ext (UInt32.toNat_inj.mp zero)
        exact ofNat_ne_zero positive (by omega) (List.mem_singleton.mp member).symm
    · -- Every byte of a longer encoding has its highest bit set.
      have high (n base : Nat) (top : 128 ≤ base) (small : n + base < 256) :
          (0 : UInt8) ≠ UInt8.ofNat (n + base) :=
        (ofNat_ne_zero (by omega) small).symm
      split at member
      · simp only [List.mem_cons, List.not_mem_nil, or_false] at member
        rcases member with first | second
        · exact absurd first (high _ _ (by decide) (by omega))
        · exact absurd second (high _ _ (by decide) (by omega))
      · split at member
        · simp only [List.mem_cons, List.not_mem_nil, or_false] at member
          rcases member with first | second | third
          · exact absurd first (high _ _ (by decide) (by omega))
          · exact absurd second (high _ _ (by decide) (by omega))
          · exact absurd third (high _ _ (by decide) (by omega))
        · simp only [List.mem_cons, List.not_mem_nil, or_false] at member
          rcases member with first | second | third | fourth
          · exact absurd first (high _ _ (by decide) (by omega))
          · exact absurd second (high _ _ (by decide) (by omega))
          · exact absurd third (high _ _ (by decide) (by omega))
          · exact absurd fourth (high _ _ (by decide) (by omega))
  · rintro rfl
    decide

theorem zero_mem_ofString {text : String} : 0 ∈ ofString text ↔ '\x00' ∈ text.toList := by
  rw [ofString, encode, List.mem_flatMap]
  constructor
  · rintro ⟨c, member, zero⟩
    rwa [← zero_mem_encodeChar.mp zero]
  · intro member
    exact ⟨'\x00', member, zero_mem_encodeChar.mpr rfl⟩

theorem ofString_append (front back : String) :
    ofString (front ++ back) = ofString front ++ ofString back := by
  rw [ofString, String.toList_append, encode_append]
  rfl

theorem ofString_join (texts : List String) :
    ofString (String.join texts) = texts.flatMap ofString := by
  induction texts with
  | nil => rw [String.join_nil]; rfl
  | cons text rest ih => rw [String.join_cons, ofString_append, ih, List.flatMap_cons]

/-- A character takes at most four bytes. -/
theorem length_ofString_le (text : String) : (ofString text).length ≤ 4 * text.toList.length := by
  unfold ofString
  induction text.toList with
  | nil => exact Nat.le_refl _
  | cons c rest ih =>
      have short := c.utf8Size_le_four
      rw [encode_cons, List.length_append, String.length_utf8EncodeChar, List.length_cons]
      omega

/-! ## A text that is cut -/

theorem chars_of_next? {bytes rest : Bytes} {c : Char} (read : next? bytes = some (c, rest)) :
    chars bytes = c :: chars rest := by
  rw [chars]
  split
  · next nothing =>
      rw [nothing] at read
      cases read
  · next other tail found =>
      obtain ⟨rfl, rfl⟩ := Prod.mk.inj (Option.some.inj (found.symm.trans read))
      rfl

theorem chars_of_none {bytes : Bytes} (nothing : next? bytes = none) : chars bytes = [] := by
  rw [chars]
  split
  · rfl
  · next found =>
      rw [nothing] at found
      cases found

/-- The start of one character is no other. -/
theorem next?_take_encodeChar {c : Char} {n : Nat} (short : n < c.utf8Size) :
    next? ((String.utf8EncodeChar c).take n) = none := by
  cases read : next? ((String.utf8EncodeChar c).take n) with
  | none => rfl
  | some found =>
      obtain ⟨d, rest⟩ := found
      have start := eq_of_next? read
      have whole : String.utf8EncodeChar c ++ [] =
          String.utf8EncodeChar d ++ (rest ++ (String.utf8EncodeChar c).drop n) := by
        rw [List.append_nil, ← List.append_assoc, ← start, List.take_append_drop]
      have same := next?_encodeChar_append c []
      rw [whole, next?_encodeChar_append] at same
      obtain ⟨rfl, -⟩ := Prod.mk.inj (Option.some.inj same)
      have size := congrArg List.length start
      simp only [List.length_take, List.length_append, String.length_utf8EncodeChar] at size
      omega

/-- What is read of a text that is cut: characters from its start on, as many as fit. -/
theorem chars_take_encode (text : List Char) (n : Nat) :
    ∃ kept lost, text = kept ++ lost ∧ chars ((encode text).take n) = kept ∧
      (encode kept).length ≤ n ∧
      (lost = [] ∨ ∃ c rest, lost = c :: rest ∧ n < (encode kept).length + c.utf8Size) := by
  induction text generalizing n with
  | nil =>
      refine ⟨[], [], rfl, ?_, Nat.zero_le n, .inl rfl⟩
      rw [encode_nil, List.take_nil]
      exact chars_of_none (by decide)
  | cons c rest ih =>
      by_cases fits : c.utf8Size ≤ n
      · obtain ⟨kept, lost, split, read, short, ends⟩ := ih (n - c.utf8Size)
        have cut : (encode (c :: rest)).take n =
            String.utf8EncodeChar c ++ (encode rest).take (n - c.utf8Size) := by
          rw [encode_cons, List.take_append, String.length_utf8EncodeChar,
            List.take_of_length_le (by rw [String.length_utf8EncodeChar]; exact fits)]
        have size : (encode (c :: kept)).length = c.utf8Size + (encode kept).length := by
          rw [encode_cons, List.length_append, String.length_utf8EncodeChar]
        refine ⟨c :: kept, lost, by rw [split, List.cons_append], ?_, by omega, ?_⟩
        · rw [cut, chars_of_next? (next?_encodeChar_append c _), read]
        · rcases ends with rfl | ⟨d, more, rfl, beyond⟩
          · exact .inl rfl
          · exact .inr ⟨d, more, rfl, by omega⟩
      · have short : n < c.utf8Size := Nat.lt_of_not_le fits
        have cut : (encode (c :: rest)).take n = (String.utf8EncodeChar c).take n := by
          rw [encode_cons, List.take_append_of_le_length]
          rw [String.length_utf8EncodeChar]
          exact Nat.le_of_lt short
        refine ⟨[], c :: rest, rfl, ?_, Nat.zero_le n, .inr ⟨c, rest, rfl, ?_⟩⟩
        · rw [cut]
          exact chars_of_none (next?_take_encodeChar short)
        · rw [encode_nil, List.length_nil, Nat.zero_add]
          exact short

end Utf8

/-! ## What the host reads -/

/-- A text of at most so many characters and without a NUL. -/
structure Plain (text : String) (size : Nat) : Prop where
  short : text.toList.length ≤ size
  noNul : '\x00' ∉ text.toList

theorem Plain.append {front back : String} {n m : Nat} (first : Plain front n)
    (second : Plain back m) : Plain (front ++ back) (n + m) where
  short := by
    rw [String.toList_append, List.length_append]
    exact Nat.add_le_add first.short second.short
  noNul := by
    rw [String.toList_append, List.mem_append, not_or]
    exact ⟨first.noNul, second.noNul⟩

/-- A text that fits and has no NUL is read as it is. -/
theorem Plain.hostText {text : String} {size : Nat} (plain : Plain text size)
    (fits : 4 * size ≤ hostCapacity) : Rewind.hostText text = Utf8.ofString text := by
  have bytes : (Utf8.ofString text).length ≤ hostCapacity := by
    have wide := Utf8.length_ofString_le text
    have short := plain.short
    omega
  have noNul : 0 ∉ Utf8.ofString text := fun member =>
    plain.noNul (Utf8.zero_mem_ofString.mp member)
  rw [hostText_eq, List.take_of_length_le bytes, Bytes.takeWhile_of_not_mem noNul]

namespace Text

theorem digitChar_ne_nul : ∀ n : Fin 16, Nat.digitChar n.val ≠ '\x00' := by decide

/-- What holds of each digit holds of each character of a numeral. -/
theorem forall_mem_toDigits (holds : Char → Prop) (digits : ∀ n : Fin 16, holds (Nat.digitChar n))
    {base : Nat} (numeral : 1 < base) (small : base ≤ 16) (n : Nat) :
    ∀ c ∈ Nat.toDigits base n, holds c := by
  induction n using Nat.strong_induction_on with
  | h n ih =>
      intro c member
      rw [Nat.toDigits_eq_if numeral] at member
      split at member
      · next single =>
          obtain rfl := List.mem_singleton.mp member
          exact digits ⟨n, by omega⟩
      · next large =>
          have last : n % base < 16 := Nat.lt_of_lt_of_le (Nat.mod_lt n (by omega)) small
          rcases List.mem_append.mp member with front | digit
          · exact ih (n / base) (Nat.div_lt_self (by omega) numeral) c front
          · obtain rfl := List.mem_singleton.mp digit
            exact digits ⟨n % base, last⟩

theorem nul_not_mem_toDigits {base : Nat} (numeral : 1 < base) (small : base ≤ 16) (n : Nat) :
    '\x00' ∉ Nat.toDigits base n := by
  intro member
  exact forall_mem_toDigits (· ≠ '\x00') digitChar_ne_nul numeral small n _ member rfl

theorem plain_decimal (n : UInt32) : Plain (decimal n.toNat) 10 where
  short := by
    have small : n.toNat < 10 ^ 10 := Nat.lt_trans n.toNat_lt (by decide)
    rw [decimal, String.toList_ofList]
    exact (Nat.length_toDigits_le_iff (by decide) (by decide)).mpr small
  noNul := by
    rw [decimal, String.toList_ofList]
    exact nul_not_mem_toDigits (by decide) (by decide) _

theorem plain_hex (n : UInt32) : Plain (hex n.toNat) 10 := by
  have digits : Plain (hexDigits n.toNat) 8 := by
    constructor
    · rw [hexDigits, String.toList_ofList]
      exact (Nat.length_toDigits_le_iff (by decide) (by decide)).mpr n.toNat_lt
    · rw [hexDigits, String.toList_ofList]
      exact nul_not_mem_toDigits (by decide) (by decide) _
  exact Plain.append ⟨by decide, by decide⟩ digits

end Text

namespace AgentError

theorem plain_hostMagic (found expected : UInt32) :
    Plain (hostMagic found expected).message 96 := by
  have front : Plain "host magic " 11 := ⟨by decide, by decide⟩
  have middle : Plain " does not match " 16 := ⟨by decide, by decide⟩
  have back : Plain ", the hypervisor is probably outdated" 49 := ⟨by decide, by decide⟩
  exact (((front.append (Text.plain_hex found)).append middle).append
    (Text.plain_hex expected)).append back

theorem plain_hostVersion (found expected : UInt32) :
    Plain (hostVersion found expected).message 98 := by
  have front : Plain "host version " 13 := ⟨by decide, by decide⟩
  have middle : Plain " does not match " 16 := ⟨by decide, by decide⟩
  have back : Plain ", the hypervisor is probably outdated" 49 := ⟨by decide, by decide⟩
  exact (((front.append (Text.plain_decimal found)).append middle).append
    (Text.plain_decimal expected)).append back

/-- The host reads why its configuration is refused, word for word. -/
theorem hostText_of_incompatible {config : HostConfig} {error : AgentError}
    (refused : Agent.incompatibility? config = some error) :
    hostText error.message = Utf8.ofString error.message := by
  unfold Agent.incompatibility? at refused
  split at refused
  · obtain rfl := Option.some.inj refused
    exact (plain_hostMagic _ _).hostText (by decide)
  · split at refused
    · obtain rfl := Option.some.inj refused
      exact (plain_hostVersion _ _).hostText (by decide)
    · cases refused

/-- The host reads that the session is taken, word for word. -/
theorem hostText_sessionBusy :
    hostText sessionBusy.message = Utf8.ofString sessionBusy.message := by
  have plain : Plain sessionBusy.message 80 := ⟨by decide, by decide⟩
  exact plain.hostText (by decide)

end AgentError

end Rewind
