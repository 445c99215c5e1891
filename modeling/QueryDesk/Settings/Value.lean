import QueryDesk.Decimal.Layout
import QueryDesk.Text.Case
import QueryDesk.Named

/-!
# What a setting can be

The value of a setting, whatever the format of the file that it stands in. A setting is taken leniently:
what is written as a text, a number or a truth value can be used as any of the three where it makes sense.
Lists and tables cannot, nor can what is nothing.
-/

namespace QueryDesk

inductive Setting
  | nothing
  | bool (b : Bool)
  | integer (i : Int)
  | number (x : Double)
  | infinite (negative : Bool)
  | notANumber
  | text (s : String)
  | list (items : List Setting)
  | table (members : List (String × Setting))
  deriving Repr, Inhabited

namespace Setting

/-- The members of a table, none where there is no table. -/
def members : Setting → Named Setting
  | .table ms => ms
  | _ => []

/-- The items of a list, none where there is no list. -/
def items : Setting → List Setting
  | .list xs => xs
  | _ => []

/-- A member of a table. -/
def member? (t : Setting) (name : String) : Option Setting := t.members.lookup name

/-- Numbers in texts have no exponent, and a whole one has no point. -/
def numberLayout : Decimal.Layout where
  positional _ := true
  keepsPoint := false
  signsExponent := false
  tie := .up

def asText? : Setting → Option String
  | .bool b => some (if b then "true" else "false")
  | .integer i => some (String.ofList (Decimal.integer i))
  | .number x => some (String.ofList (numberLayout.write x))
  | .infinite negative => some (if negative then "-inf" else "inf")
  | .notANumber => some "NaN"
  | .text s => some s
  | .nothing | .list _ | .table _ => none

/-- What the words for yes and no mean. -/
def truthWord? (s : String) : Option Bool :=
  [("true", true), ("on", true), ("yes", true), ("false", false), ("off", false), ("no", false)].lookup
    (Text.toLower s)

def asBool? : Setting → Option Bool
  | .bool b => some b
  | .integer i => some (i != 0)
  | .number x => some !x.isZero
  | .infinite _ | .notANumber => some true
  | .text s => if s = "1" then some true else if s = "0" then some false else truthWord? s
  | .nothing | .list _ | .table _ => none

/-- The largest number a setting can have. -/
def maxNat : Nat := 18446744073709551615

/-- The number written in a text, which may have a plus sign. -/
def writtenNat? (s : String) : Option Nat :=
  let cs := s.toList
  let ds := if cs.head? = some '+' then cs.drop 1 else cs
  let n := ds.foldl (fun n d => n * 10 + (d.toNat - '0'.toNat)) 0
  if !ds.isEmpty && ds.all (fun d => '0' ≤ d && d ≤ '9') && n ≤ maxNat then some n else none

/-- A number of 64 bits. Fractions are rounded, a half away from zero, into the range. -/
def asNat? : Setting → Option Nat
  | .bool b => some b.toNat
  | .integer i => if 0 ≤ i then some i.toNat else none
  | .number x => some (min x.round.toNat maxNat)
  | .infinite negative => some (if negative then 0 else maxNat)
  | .notANumber => some 0
  | .text s =>
    match truthWord? s with
    | some b => some b.toNat
    | none => writtenNat? s
  | .nothing | .list _ | .table _ => none

/-- The last so many bits of a number. -/
def asBits? (width : Nat) (t : Setting) : Option Nat := t.asNat?.map (· % Nat.pow 2 width)

end Setting

end QueryDesk
