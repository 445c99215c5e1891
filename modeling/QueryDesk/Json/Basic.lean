import QueryDesk.Decimal.Layout

/-!
# JSON values

A number is an integer of the 64-bit ranges or a double. The members of an object are kept in the order
of their names, each name once; `Members.insert` and `Members.get?` are the two ways to touch them.
-/

namespace QueryDesk

/-- A JSON number: an integer from `-2^63` to `2^64 - 1`, or any other number as the nearest double. -/
inductive Number
  | int (i : Int)
  | double (x : Double)
  deriving DecidableEq, Repr, Inhabited

/-- A JSON value. -/
inductive Json
  | null
  | bool (b : Bool)
  | number (n : Number)
  | text (s : String)
  | array (items : List Json)
  | object (members : List (String × Json))
  deriving Repr, BEq, Inhabited

/-- The members of an object, in the order of their names. -/
abbrev Members := List (String × Json)

namespace Members

/-- The value of a member. -/
def get? (ms : Members) (name : String) : Option Json := ms.lookup name

/-- The members with the value of one of them set. -/
def insert : Members → String → Json → Members
  | [], name, v => [(name, v)]
  | (n, w) :: rest, name, v =>
    if name < n then (name, v) :: (n, w) :: rest
    else if name = n then (name, v) :: rest
    else (n, w) :: insert rest name v

/-- The members of a list, of which a later one replaces an earlier one of the same name. -/
def ofList (ms : List (String × Json)) : Members :=
  ms.foldl (fun acc (name, v) => acc.insert name v) []

end Members

namespace Json

def ofNat (n : Nat) : Json := .number (.int n)

/-- An object with the given members. -/
def ofMembers (ms : List (String × Json)) : Json := .object (Members.ofList ms)

def isNull : Json → Bool
  | .null => true
  | _ => false

/-- The members of an object. -/
def members? : Json → Option Members
  | .object ms => some ms
  | _ => none

/-- The items of an array. -/
def items? : Json → Option (List Json)
  | .array xs => some xs
  | _ => none

/-- The text of a string value. -/
def text? : Json → Option String
  | .text s => some s
  | _ => none

/-- The value of a number that is not negative and an integer. -/
def nat? : Json → Option Nat
  | .number (.int (.ofNat n)) => some n
  | _ => none

/-- A member of an object. -/
def member? (j : Json) (name : String) : Option Json := j.members?.bind (·.get? name)

end Json

/-- The members whose value is present; an absent field is left out. -/
def presentMembers (fields : List (String × Option Json)) : List (String × Json) :=
  fields.filterMap fun (name, v?) => v?.map (name, ·)

end QueryDesk
