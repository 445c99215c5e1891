import QueryDesk.Settings.Value
import QueryDesk.Text.Identifier

/-!
# Overriding settings

A setting has a path from the outermost table down: a name, then names behind dots and places of lists in
brackets, of which negative ones count from the end. The names at the top of a document are such paths, and
so are the names of environment variables that begin with `APP_`, in any case, with two underscores for a
dot. What is set later wins; tables set at one path are merged.
-/

namespace QueryDesk

/-- A step from a table or list to what it holds. -/
inductive PathStep
  | name (s : String)
  | place (i : Int)
  deriving DecidableEq, Repr

namespace PathStep

def isNameChar (c : Char) : Bool :=
  Text.isAsciiLetter c || Text.isAsciiDigit c || c == ' ' || c == '_' || c == '-'

def skipBlanks (cs : List Char) : List Char := cs.dropWhile fun c => c == ' ' || c == '\t'

/-- The place of 64 bits that is written at the front of a text, and what follows it. -/
def place? (cs : List Char) : Option (Int × List Char) :=
  let (negative, cs) := match cs with
    | '-' :: rest => (true, rest)
    | _ => (false, cs)
  let ds := cs.takeWhile Text.isAsciiDigit
  let n := ds.foldl (fun n d => n * 10 + (d.toNat - '0'.toNat)) 0
  let i : Int := if negative then -n else n
  if ds ≠ [] ∧ -9223372036854775808 ≤ i ∧ i < 9223372036854775808 then some (i, cs.dropWhile Text.isAsciiDigit)
  else none

/-- The steps after the first, if they can be read. -/
def more? : Nat → List Char → Option (List PathStep)
  | 0, _ => none
  | _, [] => some []
  | fuel + 1, '.' :: rest =>
    let part := rest.takeWhile isNameChar
    if part.isEmpty then none
    else (more? fuel (rest.dropWhile isNameChar)).map (.name (String.ofList part) :: ·)
  | fuel + 1, '[' :: rest => do
    let (i, rest) ← place? (skipBlanks rest)
    match skipBlanks rest with
    | ']' :: rest => return .place i :: (← more? fuel rest)
    | _ => none
  | _, _ => none

/-- The steps of a path. A text that cannot be read as one is a single name. -/
def ofText (s : String) : List PathStep :=
  let cs := s.toList
  let part := cs.takeWhile isNameChar
  match if part.isEmpty then none else more? (cs.length + 1) (cs.dropWhile isNameChar) with
  | some steps => .name (String.ofList part) :: steps
  | none => [.name s]

end PathStep

namespace Setting

mutual
/-- A value put in place of what was there. A table is merged into it. -/
def merge (old : Option Setting) : Setting → Setting
  | .table ms => mergeMembers (match old with
    | some o => o
    | none => .table []) ms
  | v => v
termination_by structural t => t

/-- Members put one after the other into a table. What is no table becomes one with the first of them. -/
def mergeMembers (old : Setting) : List (String × Setting) → Setting
  | [] => old
  | (name, v) :: rest =>
    mergeMembers (.table (Named.set name (merge (old.member? name) v) old.members)) rest
termination_by structural ms => ms
end

/-- A list that reaches a place, with what stands there changed. There is nothing before its start. -/
def setItem (i : Int) (f : Option Setting → Setting) (xs : List Setting) : List Setting :=
  let place := if 0 ≤ i then i else i + xs.length
  if 0 ≤ place then
    let xs := xs ++ List.replicate (place.toNat + 1 - xs.length) .nothing
    xs.set place.toNat (f xs[place.toNat]?)
  else xs

/-- A value set at a path. What is in the way becomes a table or list. Only a name at the end of the path
merges tables. -/
def setAt (v : Setting) : List PathStep → Option Setting → Setting
  | [], _ => v
  | [.name s], t =>
    let t := t.getD (.table [])
    .table (Named.set s (merge (t.member? s) v) t.members)
  | .name s :: path, t =>
    let t := t.getD (.table [])
    .table (Named.set s (setAt v path (t.member? s)) t.members)
  | .place i :: path, t => .list (setItem i (setAt v path) (t.getD (.list [])).items)

/-- The settings of a source put over others, each at the path that its name is. -/
def overlay (base : Setting) (source : Named Setting) : Setting :=
  source.foldl (fun t (name, v) => setAt v (PathStep.ofText name) (some t)) base

/-- Two underscores as a dot. -/
def dotted : List Char → List Char
  | '_' :: '_' :: rest => '.' :: dotted rest
  | c :: rest => c :: dotted rest
  | [] => []

/-- The settings among environment variables. -/
def ofVariables (pairs : List (String × String)) : Named Setting :=
  pairs.filterMap fun (name, value) =>
    let cs := (Text.toLower name).toList
    if cs.take 4 = "app_".toList then some (String.ofList (dotted (cs.drop 4)), .text value) else none

end Setting

end QueryDesk
