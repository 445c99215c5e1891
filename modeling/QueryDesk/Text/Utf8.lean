/-!
# Text and bytes

A text is encoded as the UTF-8 bytes of its characters. `decodeBytes` reads bytes back one character after
the other and says where they are not UTF-8: a sequence that breaks off is one gap, and the byte that
breaks it off begins anew.
-/

namespace QueryDesk.Text

/-- The bytes of a text. -/
def utf8 (cs : List Char) : List UInt8 := cs.flatMap String.utf8EncodeChar

/-- A character of which bytes are still to come. -/
structure PartialChar where
  /-- how many bytes are needed after the next one -/
  needed : Nat
  /-- the bits so far -/
  bits : Nat
  /-- the least and the greatest byte that may come next -/
  low : Nat
  high : Nat
  deriving DecidableEq, Repr

/-- What the first byte of a character says: the whole of it, the part of one, or nothing. -/
def leadByte (b : Nat) : Except PartialChar (Option Char) :=
  if b < 0x80 then .ok (some (Char.ofNat b))
  else if b < 0xC2 then .ok none
  else if b < 0xE0 then .error ⟨0, b - 0xC0, 0x80, 0xBF⟩
  else if b = 0xE0 then .error ⟨1, 0, 0xA0, 0xBF⟩
  else if b = 0xED then .error ⟨1, 0xD, 0x80, 0x9F⟩
  else if b < 0xF0 then .error ⟨1, b - 0xE0, 0x80, 0xBF⟩
  else if b = 0xF0 then .error ⟨2, 0, 0x90, 0xBF⟩
  else if b < 0xF4 then .error ⟨2, b - 0xF0, 0x80, 0xBF⟩
  else if b = 0xF4 then .error ⟨2, 4, 0x80, 0x8F⟩
  else .ok none

/-- The characters of bytes, with `none` for each gap. -/
def decodeBytes : Option PartialChar → List UInt8 → List (Option Char)
  | none, [] => []
  | some _, [] => [none]
  | none, b :: rest =>
    match leadByte b.toNat with
    | .ok c => c :: decodeBytes none rest
    | .error p => decodeBytes (some p) rest
  | some p, b :: rest =>
    if p.low ≤ b.toNat ∧ b.toNat ≤ p.high then
      let bits := p.bits * 0x40 + (b.toNat - 0x80)
      match p.needed with
      | 0 => some (Char.ofNat bits) :: decodeBytes none rest
      | n + 1 => decodeBytes (some ⟨n, bits, 0x80, 0xBF⟩) rest
    else
      none :: match leadByte b.toNat with
        | .ok c => c :: decodeBytes none rest
        | .error p => decodeBytes (some p) rest
termination_by structural _ bytes => bytes

/-- The text of bytes, if they are UTF-8. -/
def ofUtf8? (bytes : List UInt8) : Option (List Char) := (decodeBytes none bytes).mapM id

/-- The text of bytes, with a replacement character in each gap. -/
def ofUtf8Lossy (bytes : List UInt8) : List Char :=
  (decodeBytes none bytes).map (·.getD '\ufffd')

end QueryDesk.Text
