/-!
# Points in time

Nanoseconds since the start of 1970, and their text in years, months and days of the Gregorian calendar.
-/

namespace QueryDesk

structure Time where
  nanoseconds : Nat
  deriving DecidableEq, Repr, Inhabited

namespace Time

instance : LT Time := ⟨fun a b => a.nanoseconds < b.nanoseconds⟩
instance : LE Time := ⟨fun a b => a.nanoseconds ≤ b.nanoseconds⟩
instance (a b : Time) : Decidable (a < b) := inferInstanceAs (Decidable (a.nanoseconds < b.nanoseconds))
instance (a b : Time) : Decidable (a ≤ b) := inferInstanceAs (Decidable (a.nanoseconds ≤ b.nanoseconds))

/-- A number with zeros in front of it up to a width. -/
def padded (width n : Nat) : String :=
  let ds := Nat.toDigits 10 n
  String.ofList (List.replicate (width - ds.length) '0' ++ ds)

/-- Year, month and day of a day counted from the start of 1970. Days are counted in eras of 400 years
that begin on the first of March, so that the leap day ends a year. -/
def civil (day : Nat) : Nat × Nat × Nat :=
  let z := day + 719468
  let era := z / 146097
  let dayOfEra := z % 146097
  let yearOfEra := (dayOfEra - dayOfEra / 1460 + dayOfEra / 36524 - dayOfEra / 146096) / 365
  let dayOfYear := dayOfEra - (365 * yearOfEra + yearOfEra / 4 - yearOfEra / 100)
  let shifted := (5 * dayOfYear + 2) / 153
  let month := if shifted < 10 then shifted + 3 else shifted - 9
  (yearOfEra + era * 400 + (if month ≤ 2 then 1 else 0), month, dayOfYear - (153 * shifted + 2) / 5 + 1)

/-- Fractions of a second, in as many groups of three digits as they need. -/
def fraction (n : Nat) : String :=
  if n = 0 then ""
  else if n % 1000000 = 0 then "." ++ padded 3 (n / 1000000)
  else if n % 1000 = 0 then "." ++ padded 6 (n / 1000)
  else "." ++ padded 9 n

/-- The text of a point in time, in universal time. -/
def print (t : Time) : String :=
  let seconds := t.nanoseconds / 1000000000
  let (year, month, day) := civil (seconds / 86400)
  let inDay := seconds % 86400
  padded 4 year ++ "-" ++ padded 2 month ++ "-" ++ padded 2 day ++ "T" ++ padded 2 (inDay / 3600) ++ ":"
    ++ padded 2 (inDay / 60 % 60) ++ ":" ++ padded 2 (inDay % 60) ++ fraction (t.nanoseconds % 1000000000)
    ++ "Z"

end Time

end QueryDesk
