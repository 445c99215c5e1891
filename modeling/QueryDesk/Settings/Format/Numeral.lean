import QueryDesk.Settings.Value
import QueryDesk.Toml.Scalar

/-!
# Numerals

The numbers of settings files as they are written. Integers have 64 bits; what is out of the range of
doubles is infinite.
-/

namespace QueryDesk.Setting

/-- A sign in front of a text and what follows it. -/
def splitSign (cs : List Char) : Bool × List Char :=
  match cs with
  | '-' :: rest => (true, rest)
  | '+' :: rest => (false, rest)
  | _ => (false, cs)

/-- The integer of a text. -/
def integer? (radix : Nat) (cs : List Char) : Option Int :=
  let (negative, ds) := splitSign cs
  let n := Toml.digitsValue radix ds
  let i : Int := if negative then -n else n
  if !ds.isEmpty && ds.all (fun d => ((Text.hexValue? d).filter (· < radix)).isSome)
    && -9223372036854775808 ≤ i && i < 9223372036854775808 then some i else none

/-- The number of a decimal. -/
def ofDecimal (negative : Bool) (whole fraction : List Char) (exponent : Int) : Setting :=
  match Toml.decimal? negative whole fraction exponent with
  | some x => .number x
  | none => .infinite negative

/-- The exponent of a decimal, which is the rest of it. -/
def exponent? (cs : List Char) : Option Int :=
  match cs with
  | [] => some 0
  | e :: rest =>
    let (negative, ds) := splitSign rest
    if (e = 'e' ∨ e = 'E') ∧ ds ≠ [] ∧ ds.all Text.isAsciiDigit then
      let n : Int := Toml.digitsValue 10 ds
      some (if negative then -n else n)
    else none

/-- The number of a text: a decimal with digits before or behind the point, or a word. -/
def decimal? (cs : List Char) : Option Setting :=
  let (negative, cs) := splitSign cs
  let word := String.ofList (cs.map Char.toLower)
  if word = "inf" ∨ word = "infinity" then some (.infinite negative)
  else if word = "nan" then some .notANumber
  else
    let whole := cs.takeWhile Text.isAsciiDigit
    let rest := cs.dropWhile Text.isAsciiDigit
    let behind := match rest with
      | '.' :: behind => behind
      | _ => []
    let fraction := behind.takeWhile Text.isAsciiDigit
    let rest := if rest.head? = some '.' then behind.dropWhile Text.isAsciiDigit else rest
    if whole.isEmpty ∧ fraction.isEmpty then none
    else (exponent? rest).map (ofDecimal negative whole fraction)

end QueryDesk.Setting
