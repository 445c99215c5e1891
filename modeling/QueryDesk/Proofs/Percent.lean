import QueryDesk.OData.Literal
import QueryDesk.Proofs.Utf8
import QueryDesk.Text.Percent

/-!
# Parts of a text and escaped parameters

Joining parts by a separator that none of them holds is undone by splitting at it
(`splitAt_intercalate`). A parameter value is its own percent-decoding undone: decoding what
`OData.encodeParam` wrote gives back the value (`decodeSegment?_encodeParam`).
-/

namespace QueryDesk.Text

/-! ### Splitting -/

section
variable {separator : Char}

theorem splitAt_of_not_mem {part : List Char} (h : separator ∉ part) : splitAt separator part = [part] := by
  induction part with
  | nil => rfl
  | cons c part ih =>
    simp only [List.mem_cons, not_or] at h
    rw [splitAt, if_neg (Ne.symm h.1), ih h.2]

theorem splitAt_append_cons {part rest : List Char} (h : separator ∉ part) :
    splitAt separator (part ++ separator :: rest) = part :: splitAt separator rest := by
  induction part with
  | nil => rw [List.nil_append, splitAt, if_pos rfl]
  | cons c part ih =>
    simp only [List.mem_cons, not_or] at h
    rw [List.cons_append, splitAt, if_neg (Ne.symm h.1), ih h.2]

theorem splitAt_intercalate {parts : List (List Char)} (hne : parts ≠ []) (h : ∀ p ∈ parts, separator ∉ p) :
    splitAt separator ([separator].intercalate parts) = parts := by
  induction parts with
  | nil => exact absurd rfl hne
  | cons p parts ih =>
    have hp := h p List.mem_cons_self
    cases parts with
    | nil => rw [List.intercalate_singleton, splitAt_of_not_mem hp]
    | cons p' parts =>
      rw [List.intercalate_cons_cons, List.append_assoc, List.singleton_append, splitAt_append_cons hp,
        ih (by simp) fun x hx => h x (List.mem_cons_of_mem _ hx)]

end

/-! ### Percent-decoding -/

theorem percentDecode_cons {b : UInt8} {rest : List UInt8} (h : b ≠ 0x25) :
    percentDecode (b :: rest) = b :: percentDecode rest := by
  rw [percentDecode.eq_def]
  split
  · next heq => exact absurd (List.cons.inj heq).1 h
  · next heq => obtain ⟨rfl, rfl⟩ := List.cons.inj heq; rfl
  · next heq => cases heq

theorem percentDecode_append {bytes rest : List UInt8} (h : (0x25 : UInt8) ∉ bytes) :
    percentDecode (bytes ++ rest) = bytes ++ percentDecode rest := by
  induction bytes with
  | nil => rfl
  | cons b bytes ih =>
    simp only [List.mem_cons, not_or] at h
    rw [List.cons_append, percentDecode_cons (Ne.symm h.1), ih h.2, List.cons_append]

theorem percentDecode_escape {a b : UInt8} {x y : UInt8} {rest : List UInt8} (ha : hexByte? a = some x)
    (hb : hexByte? b = some y) : percentDecode (0x25 :: a :: b :: rest) = (x * 16 + y) :: percentDecode rest := by
  rw [percentDecode, ha, hb]

/-- Only the percent sign itself has the byte of a percent sign. -/
theorem percent_not_mem_encodeChar {c : Char} (h : c ≠ '%') : (0x25 : UInt8) ∉ String.utf8EncodeChar c := by
  have hv : c.val.toNat ≠ 0x25 := fun hv => h (Char.ext (UInt32.toNat_inj.1 hv))
  have byte_ne {n : Nat} (hn : n < 256) (hne : n ≠ 0x25) : (0x25 : UInt8) ≠ UInt8.ofNat n := fun heq => by
    rw [← toNat_ofNat_byte hn, ← heq] at hne
    exact hne rfl
  unfold String.utf8EncodeChar
  simp only
  split
  · simpa using byte_ne (by omega) hv
  · split
    · simp only [List.mem_cons, List.not_mem_nil, or_false, not_or]
      exact ⟨byte_ne (by omega) (by omega), byte_ne (by omega) (by omega)⟩
    · split
      · simp only [List.mem_cons, List.not_mem_nil, or_false, not_or]
        exact ⟨byte_ne (by omega) (by omega), byte_ne (by omega) (by omega), byte_ne (by omega) (by omega)⟩
      · simp only [List.mem_cons, List.not_mem_nil, or_false, not_or]
        exact ⟨byte_ne (by omega) (by omega), byte_ne (by omega) (by omega), byte_ne (by omega) (by omega),
          byte_ne (by omega) (by omega)⟩

/-! ### Parameter values -/

open OData

theorem percentDecode_encodeChar (c : Char) (rest : List UInt8) :
    percentDecode (utf8 (encodeChar c) ++ rest) = String.utf8EncodeChar c ++ percentDecode rest := by
  unfold encodeChar
  split
  · next h => subst h; exact percentDecode_escape (x := 2) (y := 5) rfl rfl
  · next hpercent =>
    split
    · next h => subst h; exact percentDecode_escape (x := 2) (y := 6) rfl rfl
    · split
      · next h => subst h; exact percentDecode_escape (x := 2) (y := 3) rfl rfl
      · split
        · next h => subst h; exact percentDecode_escape (x := 2) (y := 11) rfl rfl
        · rw [utf8, List.flatMap_singleton, percentDecode_append (percent_not_mem_encodeChar hpercent)]

theorem percentDecode_encodeParam (cs : List Char) : percentDecode (utf8 (cs.flatMap encodeChar)) = utf8 cs := by
  induction cs with
  | nil => simp [utf8, percentDecode]
  | cons c cs ih =>
    rw [List.flatMap_cons, utf8, List.flatMap_append, ← utf8, ← utf8, percentDecode_encodeChar, ih]
    rfl

theorem decodeSegment?_encodeParam (s : String) : decodeSegment? (encodeParam s).toList = some s := by
  rw [decodeSegment?, encodeParam, String.toList_ofList, percentDecode_encodeParam, ofUtf8?_utf8, Option.map_some,
    String.ofList_toList]

end QueryDesk.Text
