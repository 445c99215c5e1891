import QueryDesk.Text.Utf8

/-!
# Text read back from its bytes

The bytes of a text are read as that text (`ofUtf8?_utf8`). The first byte of a character settles how many
follow and which the next may be; each later byte adds six bits to the code point.
-/

namespace QueryDesk.Text
variable {rest : List UInt8} {c : Char}

theorem toNat_ofNat_byte {n : Nat} (h : n < 256) : (UInt8.ofNat n).toNat = n := by
  rw [UInt8.toNat_ofNat', Nat.mod_eq_of_lt h]

/-! ### One byte of a character -/

theorem decodeBytes_single {b : UInt8} (h : leadByte b.toNat = .ok (some c)) :
    decodeBytes none (b :: rest) = some c :: decodeBytes none rest := by
  rw [decodeBytes, h]

theorem decodeBytes_lead {b : UInt8} {p : PartialChar} (h : leadByte b.toNat = .error p) :
    decodeBytes none (b :: rest) = decodeBytes (some p) rest := by
  rw [decodeBytes, h]

theorem decodeBytes_more {n bits low high x : Nat} (hx : x < 0x40) (hlow : low ≤ x + 0x80) (hhigh : x + 0x80 ≤ high) :
    decodeBytes (some ⟨n + 1, bits, low, high⟩) (UInt8.ofNat (x + 0x80) :: rest) =
      decodeBytes (some ⟨n, bits * 0x40 + x, 0x80, 0xBF⟩) rest := by
  rw [decodeBytes, toNat_ofNat_byte (by omega), if_pos ⟨hlow, hhigh⟩, Nat.add_sub_cancel]

theorem decodeBytes_last {bits low high x : Nat} (hx : x < 0x40) (hlow : low ≤ x + 0x80) (hhigh : x + 0x80 ≤ high) :
    decodeBytes (some ⟨0, bits, low, high⟩) (UInt8.ofNat (x + 0x80) :: rest) =
      some (Char.ofNat (bits * 0x40 + x)) :: decodeBytes none rest := by
  rw [decodeBytes, toNat_ofNat_byte (by omega), if_pos ⟨hlow, hhigh⟩, Nat.add_sub_cancel]

/-! ### The first byte

The bounds on the next byte leave out overlong forms (after `E0` and `F0`), surrogates (after `ED`) and
what lies above the last code point (after `F4`). -/

theorem leadByte_two {x : Nat} (h2 : 2 ≤ x) (hx : x < 0x20) : leadByte (x + 0xC0) = .error ⟨0, x, 0x80, 0xBF⟩ := by
  unfold leadByte
  rw [if_neg (by omega), if_neg (by omega), if_pos (by omega), Nat.add_sub_cancel]

theorem leadByte_three {x y : Nat} (hx : x < 0x10) (hy : y < 0x40) (hlong : x = 0 → 0x20 ≤ y)
    (hsurrogate : x = 0xD → y < 0x20) :
    ∃ low high, leadByte (x + 0xE0) = .error ⟨1, x, low, high⟩ ∧ low ≤ y + 0x80 ∧ y + 0x80 ≤ high := by
  unfold leadByte
  rw [if_neg (by omega), if_neg (by omega), if_neg (by omega)]
  by_cases h0 : x = 0
  · subst h0
    exact ⟨0xA0, 0xBF, rfl, by omega, by omega⟩
  by_cases hD : x = 0xD
  · subst hD
    exact ⟨0x80, 0x9F, rfl, by omega, by omega⟩
  rw [if_neg (by omega), if_neg (by omega), if_pos (by omega), Nat.add_sub_cancel]
  exact ⟨0x80, 0xBF, rfl, by omega, by omega⟩

theorem leadByte_four {x y : Nat} (hx : x ≤ 4) (hy : y < 0x40) (hlong : x = 0 → 0x10 ≤ y)
    (hlast : x = 4 → y < 0x10) :
    ∃ low high, leadByte (x + 0xF0) = .error ⟨2, x, low, high⟩ ∧ low ≤ y + 0x80 ∧ y + 0x80 ≤ high := by
  unfold leadByte
  rw [if_neg (by omega), if_neg (by omega), if_neg (by omega), if_neg (by omega), if_neg (by omega),
    if_neg (by omega)]
  by_cases h0 : x = 0
  · subst h0
    exact ⟨0x90, 0xBF, rfl, by omega, by omega⟩
  rw [if_neg (by omega)]
  by_cases h4 : x = 4
  · subst h4
    exact ⟨0x80, 0x8F, rfl, by omega, by omega⟩
  rw [if_pos (by omega), Nat.add_sub_cancel]
  exact ⟨0x80, 0xBF, rfl, by omega, by omega⟩

/-! ### Whole characters -/

/-- A code point is no surrogate and not above the last one. -/
theorem toNat_isCodePoint (c : Char) : c.toNat < 0xD800 ∨ 0xDFFF < c.toNat ∧ c.toNat < 0x110000 := c.valid

theorem decodeBytes_encodeChar (c : Char) :
    decodeBytes none (String.utf8EncodeChar c ++ rest) = some c :: decodeBytes none rest := by
  have hc := toNat_isCodePoint c
  have hval : c.val.toNat = c.toNat := rfl
  have hofNat : Char.ofNat c.toNat = c := Char.ofNat_toNat c
  unfold String.utf8EncodeChar
  simp only [hval]
  generalize c.toNat = v at hc hofNat ⊢
  split
  · next h1 =>
    rw [List.cons_append, List.nil_append, decodeBytes_single]
    rw [toNat_ofNat_byte (by omega), leadByte, if_pos (by omega), hofNat]
  · split
    · next h1 h2 =>
      have hlead := leadByte_two (x := v / 64 % 0x20) (by omega) (by omega)
      simp only [List.cons_append, List.nil_append]
      rw [decodeBytes_lead (by rw [toNat_ofNat_byte (by omega)]; exact hlead),
        decodeBytes_last (by omega) (by omega) (by omega), show v / 64 % 0x20 * 0x40 + v % 0x40 = v by omega, hofNat]
    · split
      · next h1 h2 h3 =>
        obtain ⟨low, high, hlead, hlow, hhigh⟩ := leadByte_three (x := v / 4096 % 0x10) (y := v / 64 % 0x40)
          (by omega) (by omega) (by omega) (by omega)
        simp only [List.cons_append, List.nil_append]
        rw [decodeBytes_lead (by rw [toNat_ofNat_byte (by omega)]; exact hlead),
          decodeBytes_more (by omega) hlow hhigh, decodeBytes_last (by omega) (by omega) (by omega),
          show (v / 4096 % 0x10 * 0x40 + v / 64 % 0x40) * 0x40 + v % 0x40 = v by omega, hofNat]
      · next h1 h2 h3 =>
        obtain ⟨low, high, hlead, hlow, hhigh⟩ := leadByte_four (x := v / 262144 % 0x08) (y := v / 4096 % 0x40)
          (by omega) (by omega) (by omega) (by omega)
        simp only [List.cons_append, List.nil_append]
        rw [decodeBytes_lead (by rw [toNat_ofNat_byte (by omega)]; exact hlead),
          decodeBytes_more (by omega) hlow hhigh, decodeBytes_more (by omega) (by omega) (by omega),
          decodeBytes_last (by omega) (by omega) (by omega),
          show ((v / 262144 % 0x08 * 0x40 + v / 4096 % 0x40) * 0x40 + v / 64 % 0x40) * 0x40 + v % 0x40 = v by omega,
          hofNat]

theorem decodeBytes_utf8 (cs : List Char) : decodeBytes none (utf8 cs) = cs.map some := by
  induction cs with
  | nil => rfl
  | cons c cs ih => rw [utf8, List.flatMap_cons, decodeBytes_encodeChar, ← utf8, ih, List.map_cons]

theorem ofUtf8?_utf8 (cs : List Char) : ofUtf8? (utf8 cs) = some cs := by
  rw [ofUtf8?, decodeBytes_utf8]
  induction cs with
  | nil => rfl
  | cons c cs ih => rw [List.map_cons, List.mapM_cons, ih]; rfl

end QueryDesk.Text
