/-!
# Hexadecimal digits
-/

namespace QueryDesk.Text

/-- The value of a hexadecimal digit, which may be of either case. -/
def hexValue? (c : Char) : Option Nat :=
  if '0' ≤ c ∧ c ≤ '9' then some (c.toNat - '0'.toNat)
  else if 'a' ≤ c ∧ c ≤ 'f' then some (c.toNat - 'a'.toNat + 10)
  else if 'A' ≤ c ∧ c ≤ 'F' then some (c.toNat - 'A'.toNat + 10)
  else none

/-- The value of a digit to a base that is at most 16. -/
def digitValue? (base : Nat) (c : Char) : Option Nat := (hexValue? c).filter (· < base)

/-- The number of digits to a base, most significant first. -/
def ofDigits? (base : Nat) (ds : List Char) : Option Nat :=
  ds.foldlM (fun n d => (digitValue? base d).map (n * base + ·)) 0

/-- The number of hexadecimal digits, most significant first. -/
def ofHex? (ds : List Char) : Option Nat := ofDigits? 16 ds

end QueryDesk.Text
