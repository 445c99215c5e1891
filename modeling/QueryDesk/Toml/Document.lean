import QueryDesk.Toml.Reader

/-!
# The meaning of a document

The sections of a document become one table. A header opens a table, or another item of a list of tables,
and may do so below one that stands further up, but nothing is defined twice. A table that begins with the
name `momentName` is not a table but the date or time of which that member is the text.
-/

namespace QueryDesk.Toml

/-- A table or list of tables under construction. -/
inductive Node
  /-- a value that is finished -/
  | value (v : Toml)
  /-- a table, which has had its header or only stands above one that has -/
  | table (opened : Bool) (members : List (String × Node))
  /-- the items of a list of tables, the last of which is still open -/
  | items (finished : List (List (String × Node))) (last : List (String × Node))
  deriving Repr

/-- The lines of a section added to members. -/
def addLines (lines : List (List String × Toml)) (ms : List (String × Node)) :
    Option (List (String × Node)) := do
  let entries ← lines.foldlM (fun es (key, v) => assign v key es) []
  entries.foldlM
    (fun ms (name, e) => if (ms.lookup name).isSome then none else some (ms ++ [(name, .value e.toToml)])) ms

/-- A section put in its place. -/
def addSection (s : Section) : List String → List (String × Node) → Option (List (String × Node))
  | [], ms => addLines s.lines ms
  | [name], ms => do
    match ms.lookup name with
    | none =>
      let inner ← addLines s.lines []
      return ms ++ [(name, if s.isItem then .items [] inner else .table true inner)]
    | some (.table false inner) =>
      if s.isItem then none
      else return Named.set name (.table true (← addLines s.lines inner)) ms
    | some (.items finished last) =>
      if s.isItem then return Named.set name (.items (finished ++ [last]) (← addLines s.lines [])) ms
      else none
    | some _ => none
  | name :: path, ms => do
    match ms.lookup name with
    | none => return ms ++ [(name, .table false (← addSection s path []))]
    | some (.table opened inner) => return Named.set name (.table opened (← addSection s path inner)) ms
    | some (.items finished last) => return Named.set name (.items finished (← addSection s path last)) ms
    | some (.value _) => none

mutual
/-- What has been constructed. -/
def Node.toToml : Node → Toml
  | .value v => v
  | .table _ ms => .table (nodesToToml ms)
  | .items finished last => .list (itemsToToml finished ++ [.table (nodesToToml last)])
termination_by structural n => n

def nodesToToml : List (String × Node) → List (String × Toml)
  | [] => []
  | (name, n) :: rest => (name, n.toToml) :: nodesToToml rest
termination_by structural ns => ns

def itemsToToml : List (List (String × Node)) → List Toml
  | [] => []
  | ms :: rest => .table (nodesToToml ms) :: itemsToToml rest
termination_by structural xs => xs
end

/-- The name of the member that holds the text of a date or time. -/
def momentName : String := "$__toml_private_datetime"

/-- The date or time with the text that comes first among members. -/
def momentOf? : List (String × Toml) → Option Toml
  | (_, .text s) :: _ => (moment? s.toList).map .moment
  | _ => none

mutual
/-- A value with the dates and times in it that are written as tables. -/
def withMoments? : Toml → Option Toml
  | .list items => (itemsWithMoments? items).map .list
  | .table members =>
    if members.head?.map (·.1) = some momentName then momentOf? members
    else (membersWithMoments? members).map .table
  | v => some v
termination_by structural t => t

def itemsWithMoments? : List Toml → Option (List Toml)
  | [] => some []
  | v :: rest => do return (← withMoments? v) :: (← itemsWithMoments? rest)
termination_by structural xs => xs

def membersWithMoments? : List (String × Toml) → Option (List (String × Toml))
  | [] => some []
  | (name, v) :: rest => do return (name, ← withMoments? v) :: (← membersWithMoments? rest)
termination_by structural ms => ms
end

/-- The table of a text, if it is a document. -/
def parse? (text : String) : Option Toml := do
  let sections ← sections? text
  let ms ← sections.foldlM (fun ms s => addSection s s.path ms) []
  withMoments? (.table (nodesToToml ms))

end QueryDesk.Toml
