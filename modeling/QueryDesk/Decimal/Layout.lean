import QueryDesk.Decimal.Shortest

/-!
# Writing a decimal

`Layout` holds the decisions a format makes about the text of a number; `Layout.write` applies them to
the shortest digits.
-/

namespace QueryDesk.Decimal

/-- How a format writes a double. -/
structure Layout where
  /-- the decimal exponents written without an exponent part -/
  positional : Int → Bool
  /-- whether an integral value keeps `.0` -/
  keepsPoint : Bool
  /-- whether a positive exponent carries a plus sign -/
  signsExponent : Bool
  tie : Tie

/-- Decimal digits of a natural number, most significant first. -/
def digits (n : Nat) : List Char := Nat.toDigits 10 n

/-- The text of an integer: its digits after a minus sign where it is negative. -/
def integer (i : Int) : List Char :=
  if i < 0 then '-' :: digits i.natAbs else digits i.natAbs

/-- Digits `ds` with the point before the digit at place `point`, zeros filling the gap. -/
def Layout.place (l : Layout) (ds : List Char) (point : Int) : List Char :=
  if point ≤ 0 then '0' :: '.' :: (List.replicate (-point).toNat '0' ++ ds)
  else if point.toNat < ds.length then ds.take point.toNat ++ '.' :: ds.drop point.toNat
  else ds ++ List.replicate (point.toNat - ds.length) '0' ++ (if l.keepsPoint then ['.', '0'] else [])

/-- One digit, the point and the rest, then the exponent. -/
def Layout.scientific (l : Layout) (ds : List Char) (exponent : Int) : List Char :=
  let sign := if l.signsExponent && 0 ≤ exponent then ['+'] else []
  let rest := ds.drop 1
  ds.take 1 ++ (if rest.isEmpty then [] else '.' :: rest) ++ 'e' :: (sign ++ integer exponent)

/-- The text of a double. -/
def Layout.write (l : Layout) (x : Double) : List Char :=
  let (d, k) := shortest x l.tie
  let ds := digits d
  let point := ds.length + k
  let body := if d = 0 ∨ l.positional (point - 1) then l.place ds point else l.scientific ds (point - 1)
  if x.negative then '-' :: body else body

end QueryDesk.Decimal
