import QueryDesk.Text.Hex

/-!
# Unique ids

An id is a number of 128 bits. It is written as 32 lower-case hexadecimal digits in groups of 8, 4, 4, 4
and 12, and read in any case from that form, without the hyphens, between braces, or behind `urn:uuid:`.
-/

namespace QueryDesk

structure Uuid where
  value : Fin (Nat.pow 2 128)
  deriving DecidableEq, Repr, Inhabited

namespace Uuid

def ofNat (n : Nat) : Uuid := ⟨Fin.ofNat (Nat.pow 2 128) n⟩

/-- The id that names nothing. -/
def nil : Uuid := ofNat 0

/-- The last digits of a number in base 16, most significant first. -/
def hexDigits (n : Nat) : Nat → List Char
  | 0 => []
  | k + 1 => hexDigits (n / 16) k ++ [Nat.digitChar (n % 16)]

/-- The hyphenated text. -/
def print (u : Uuid) : String :=
  let ds := hexDigits u.value.val 32
  String.ofList (ds.take 8 ++ '-' :: ((ds.drop 8).take 4 ++ '-' :: ((ds.drop 12).take 4
    ++ '-' :: ((ds.drop 16).take 4 ++ '-' :: ds.drop 20))))

/-- The id of 32 digits. -/
def ofDigits? (ds : List Char) : Option Uuid :=
  if ds.length = 32 then (Text.ofHex? ds).map ofNat else none

/-- The digits of a hyphenated text, which has hyphens in four places. -/
def withoutHyphens? (cs : List Char) : Option (List Char) :=
  if cs.length = 36 ∧ [8, 13, 18, 23].all (cs[·]? == some '-') then
    some (cs.take 8 ++ (cs.drop 9).take 4 ++ (cs.drop 14).take 4 ++ (cs.drop 19).take 4 ++ cs.drop 24)
  else none

/-- Reads an id. -/
def parse? (s : String) : Option Uuid :=
  let cs := s.toList
  let urn := "urn:uuid:".toList
  if cs.length = 32 then ofDigits? cs
  else if cs.length = 36 then (withoutHyphens? cs).bind ofDigits?
  else if cs.length = 38 ∧ cs.head? = some '\x7b' ∧ cs.getLast? = some '\x7d' then
    (withoutHyphens? ((cs.drop 1).take 36)).bind ofDigits?
  else if cs.length = 45 ∧ (cs.take 9).map Char.toLower = urn then (withoutHyphens? (cs.drop 9)).bind ofDigits?
  else none

end Uuid

end QueryDesk
