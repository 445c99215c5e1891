import QueryDesk.Text.Identifier

/-!
# Dates and times

The dates, times and both together that a document may hold, and the one text each of them has. A fraction
of a second keeps nine digits; the `T` between date and time may be written in lower case or as a blank.
-/

namespace QueryDesk.Toml

/-- A number of so many digits at the front of a text. -/
def fixedNumber? (width : Nat) (cs : List Char) : Option (Nat × List Char) :=
  let ds := cs.take width
  if ds.length = width ∧ ds.all Text.isAsciiDigit then
    some (ds.foldl (fun n d => n * 10 + (d.toNat - '0'.toNat)) 0, cs.drop width)
  else none

/-- What follows a character at the front of a text. -/
def after? (c : Char) : List Char → Option (List Char)
  | [] => none
  | d :: rest => if d = c then some rest else none

/-- A number in a range, so many digits wide, as it stands at the front of a text. -/
def part? (width low high : Nat) (cs : List Char) : Option (List Char × List Char) := do
  let (n, rest) ← fixedNumber? width cs
  if low ≤ n ∧ n ≤ high then return (cs.take width, rest) else none

/-- A date at the front of a text, and what follows. -/
def date? (cs : List Char) : Option (List Char × List Char) := do
  let (year, rest) ← part? 4 0 9999 cs
  let (month, rest) ← part? 2 1 12 (← after? '-' rest)
  let (day, rest) ← part? 2 1 31 (← after? '-' rest)
  return (year ++ '-' :: month ++ '-' :: day, rest)

/-- A fraction of a second at the front of a text, without the zeros at its end. -/
def fraction? (cs : List Char) : Option (List Char × List Char) :=
  match cs with
  | '.' :: rest =>
    let ds := rest.takeWhile Text.isAsciiDigit
    if ds.isEmpty then none
    else
      let kept := ((ds.take 9).reverse.dropWhile (· == '0')).reverse
      some (if kept.isEmpty then [] else '.' :: kept, rest.drop ds.length)
  | _ => some ([], cs)

/-- A time of day at the front of a text. -/
def time? (cs : List Char) : Option (List Char × List Char) := do
  let (hour, rest) ← part? 2 0 24 cs
  let (minute, rest) ← part? 2 0 59 (← after? ':' rest)
  let (second, rest) ← part? 2 0 59 (← after? ':' rest)
  let (fraction, rest) ← fraction? rest
  return (hour ++ ':' :: minute ++ ':' :: second ++ fraction, rest)

/-- The distance from universal time, which is the whole text. Less than an hour counts as ahead. -/
def offset? : List Char → Option (List Char)
  | [] => some []
  | ['Z'] | ['z'] => some ['Z']
  | sign :: rest =>
    if sign = '+' ∨ sign = '-' then do
      let (hours, rest) ← part? 2 0 99 rest
      let (minutes, rest) ← part? 2 0 99 (← after? ':' rest)
      let sign := if hours = ['0', '0'] then '+' else sign
      if rest.isEmpty then return sign :: (hours ++ ':' :: minutes) else none
    else none

/-- The text of a date, a time, or both. -/
def moment? (cs : List Char) : Option String :=
  match date? cs with
  | some (date, []) => some (String.ofList date)
  | some (date, separator :: rest) =>
    if separator = 'T' ∨ separator = 't' ∨ separator = ' ' then do
      let (time, rest) ← time? rest
      return String.ofList (date ++ 'T' :: time ++ (← offset? rest))
    else none
  | none => do
    let (time, rest) ← time? cs
    if rest.isEmpty then return String.ofList time else none

end QueryDesk.Toml
