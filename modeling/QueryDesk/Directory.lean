import QueryDesk.Text.Percent

/-!
# Directories

The files below a directory, by their paths from it, and what comes of reading at a path. A path goes from
name to name between slashes; one dot stays, two dots go up. Nothing is known of what lies outside but that
it is there.
-/

namespace QueryDesk

/-- The files below a directory: path and text. -/
structure Directory where
  files : List (String × String)

/-- Why nothing can be read at a path. -/
inductive PathFault
  | missing
  | notADirectory
  | isADirectory
  | nameTooLong
  deriving DecidableEq, Repr

def PathFault.message : PathFault → String
  | .missing => "No such file or directory (os error 2)"
  | .notADirectory => "Not a directory (os error 20)"
  | .isADirectory => "Is a directory (os error 21)"
  | .nameTooLong => "File name too long (os error 36)"

namespace Directory

/-- Where a path has led to. -/
inductive Place
  /-- a directory, by the names that lead to it -/
  | inside (names : List (List Char))
  /-- a directory so many steps above -/
  | above (steps : Nat)
  /-- the root of everything -/
  | root
  | file (text : String)
  deriving DecidableEq, Repr

/-- The files, with their paths as names. -/
def paths (d : Directory) : List (List (List Char) × String) :=
  d.files.map fun (path, text) => (Text.splitAt '/' path.toList, text)

/-- What lies below a directory under a name. -/
def enter (d : Directory) (names : List (List Char)) (name : List Char) : Except PathFault Place :=
  let names := names ++ [name]
  match d.paths.lookup names with
  | some text => .ok (.file text)
  | none =>
    if d.paths.any fun (path, _) => path.take names.length == names then .ok (.inside names) else .error .missing

/-- The longest name there can be, in bytes. -/
def maxName : Nat := 255

/-- One step of a path. -/
def step (d : Directory) (p : Place) (name : List Char) : Except PathFault Place :=
  match p with
  | .file _ => .error .notADirectory
  | _ =>
    if name = [] ∨ name = ['.'] then .ok p
    else if name = ['.', '.'] then
      match p with
      | .inside [] => .ok (.above 1)
      | .inside names => .ok (.inside names.dropLast)
      | .above n => .ok (.above (n + 1))
      | p => .ok p
    else if maxName < (String.ofList name).utf8ByteSize then .error .nameTooLong
    else
      match p with
      | .inside names => d.enter names name
      | _ => .error .missing

/-- The longest path there can be, in bytes. -/
def maxPath : Nat := 4095

/-- Where a path leads to. -/
def find (d : Directory) (path : String) : Except PathFault Place :=
  let cs := path.toList
  if cs.isEmpty then .error .missing
  else if maxPath < path.utf8ByteSize then .error .nameTooLong
  else (Text.splitAt '/' cs).foldlM d.step (if cs.head? = some '/' then .root else .inside [])

/-- The text of the file at a path. -/
def read (d : Directory) (path : String) : Except PathFault String := do
  match ← d.find path with
  | .file text => return text
  | _ => .error .isADirectory

end Directory

end QueryDesk
