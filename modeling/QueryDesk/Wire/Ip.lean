import QueryDesk.Text.Identifier
import QueryDesk.Text.Percent

/-!
# Internet addresses

The numbers of hosts in version 4 and version 6 of the Internet protocol, read leniently and written in one
way. Version 4 may be written in up to four parts to different bases, of which the last one fills what the
others leave; it is given in four decimal parts. Version 6 is given with its longest run of zero groups left
out.
-/

namespace QueryDesk.Wire

structure Ipv4 where
  number : UInt32
  deriving DecidableEq, Repr

namespace Ipv4

/-- The number of a part: hexadecimal behind `0x`, octal behind a zero, and else decimal. -/
def part? : List Char → Option Nat
  | [] => none
  | '0' :: 'x' :: ds | '0' :: 'X' :: ds => Text.ofDigits? 16 ds
  | '0' :: d :: ds => Text.ofDigits? 8 (d :: ds)
  | ds => Text.ofDigits? 10 ds

/-- The address of parts. All but the last are bytes. -/
def ofParts? (bytes : List Nat) (last : Nat) : Option Ipv4 :=
  let room := Nat.pow 256 (4 - bytes.length)
  if bytes.length < 4 ∧ bytes.all (· < 256) ∧ last < room then
    some ⟨.ofNat (bytes.foldl (fun n b => n * 256 + b) 0 * room + last)⟩
  else none

/-- The parts of a name between dots, without an empty one at the end. -/
def parts (name : List Char) : List (List Char) :=
  let parts := Text.splitAt '.' name
  if parts.getLast? = some [] then parts.dropLast else parts

/-- Whether a name is meant as an address: its last part is a number, or at least all digits. -/
def isMeant (name : List Char) : Bool :=
  (parts name).getLast?.any fun p => (p ≠ [] && p.all Text.isAsciiDigit) || (part? p).isSome

/-- The address of a text. -/
def ofText? (cs : List Char) : Option Ipv4 := do
  let numbers ← (parts cs).mapM part?
  ofParts? numbers.dropLast (← numbers.getLast?)

/-- The text of an address. -/
def text (a : Ipv4) : String :=
  let n := a.number.toNat
  ".".intercalate ([0x1000000, 0x10000, 0x100, 1].map fun place => toString (n / place % 0x100))

end Ipv4

structure Ipv6 where
  groups : List Nat
  length_groups : groups.length = 8
  deriving DecidableEq, Repr

namespace Ipv6

/-- A group of up to four hexadecimal digits. -/
def group? (cs : List Char) : Option Nat := if cs ≠ [] ∧ cs.length ≤ 4 then Text.ofHex? cs else none

/-- A byte in decimal digits, without zeros in front. -/
def byte? (cs : List Char) : Option Nat :=
  if cs = [] ∨ (cs.head? = some '0' ∧ cs ≠ ['0']) then none else (Text.ofDigits? 10 cs).filter (· < 256)

/-- The two groups of an address of version 4. -/
def dotted? (cs : List Char) : Option (List Nat) := do
  match ← (Text.splitAt '.' cs).mapM byte? with
  | [a, b, c, d] => some [a * 256 + b, c * 256 + d]
  | _ => none

/-- The groups at the end of an address, where an address of version 4 may stand. -/
def lastGroups? : List (List Char) → Option (List Nat)
  | [] => some []
  | [g] => (group? g).map ([·]) <|> dotted? g
  | g :: gs => do return (← group? g) :: (← lastGroups? gs)

/-- What stands in front of two colons in a row and what stands behind them. -/
def splitGap : List Char → List Char × Option (List Char)
  | [] => ([], none)
  | ':' :: ':' :: rest => ([], some rest)
  | c :: rest =>
    let (front, back) := splitGap rest
    (c :: front, back)

/-- The groups of a text between colons, of which there need not be any. -/
def split (cs : List Char) : List (List Char) := if cs = [] then [] else Text.splitAt ':' cs

/-- The address of a text. Two colons in a row stand for at least one group of zeros. -/
def ofText? (cs : List Char) : Option Ipv6 :=
  match splitGap cs with
  | (_, none) => do
    let gs ← lastGroups? (split cs)
    if h : gs.length = 8 then some ⟨gs, h⟩ else none
  | (front, some back) => do
    let fs ← (split front).mapM group?
    let bs ← lastGroups? (split back)
    if h : fs.length + bs.length < 8 then
      some ⟨fs ++ List.replicate (8 - (fs.length + bs.length)) 0 ++ bs, by
        simp only [List.length_append, List.length_replicate]; omega⟩
    else none

/-- How many zeros there are from a place on. -/
def zerosFrom (gs : List Nat) (i : Nat) : Nat := ((gs.drop i).takeWhile (· == 0)).length

/-- Where the longest run of zeros begins, the first of several, and how long it is. -/
def gap (gs : List Nat) : Nat × Nat :=
  (List.range gs.length).foldl
    (fun (start, n) i => if n < zerosFrom gs i then (i, zerosFrom gs i) else (start, n)) (0, 0)

def groupsText (gs : List Nat) : String :=
  ":".intercalate (gs.map fun g => String.ofList (Nat.toDigits 16 g))

/-- The text of an address. A single group of zeros is not left out. -/
def text (a : Ipv6) : String :=
  let (start, n) := gap a.groups
  if n < 2 then groupsText a.groups
  else groupsText (a.groups.take start) ++ "::" ++ groupsText (a.groups.drop (start + n))

end Ipv6

end QueryDesk.Wire
