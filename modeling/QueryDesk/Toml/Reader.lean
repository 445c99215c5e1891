import QueryDesk.Toml.Scalar

/-!
# Reading a document

A document is a list of sections, each with a header and lines that give values to keys; the lines before
the first header belong to a section without one. `sections?` reads them; what they mean together is the
matter of `Toml.Document`. Values take the length of the text as fuel, since every value inside another
begins behind a character of it.
-/

namespace QueryDesk.Toml

/-- Passes over blanks, line ends and comments. -/
def skipLines (inComment : Bool) : List Char → Option (List Char)
  | [] => some []
  | c :: rest =>
    if c = '\n' then skipLines false rest
    else if inComment then
      if c = '\t' ∨ ' ' ≤ c then skipLines true rest else none
    else if isBlank c then skipLines false rest
    else if c = '#' then skipLines true rest
    else some (c :: rest)

/-- Passes over what may stand at the end of a line. -/
def skipLineEnd (cs : List Char) : Option (List Char) :=
  match skipBlanks cs with
  | [] => some []
  | '\n' :: rest => some rest
  | '#' :: comment =>
    match comment.dropWhile fun c => c == '\t' || ' ' ≤ c with
    | [] => some []
    | '\n' :: rest => some rest
    | _ => none
  | _ => none

/-- One part of a key: a word, or a string on one line. -/
def readKeyPart (cs : List Char) : Option (String × List Char) :=
  match cs with
  | '"' :: rest => if rest.take 2 = ['"', '"'] then none else (readText '"' false false rest).map named
  | '\'' :: rest => if rest.take 2 = ['\'', '\''] then none else (readText '\'' false false rest).map named
  | _ =>
    let word := cs.takeWhile isWordChar
    if word.isEmpty then none else some (String.ofList word, cs.dropWhile isWordChar)
where
  named : List Char × List Char → String × List Char := fun (name, rest) => (String.ofList name, rest)

/-- The parts of a key between dots. The fuel bounds their number. -/
def readKey : Nat → List Char → Option (List String × List Char)
  | 0, _ => none
  | fuel + 1, cs => do
    let (part, rest) ← readKeyPart (skipBlanks cs)
    match skipBlanks rest with
    | '.' :: rest =>
      let (parts, rest) ← readKey fuel rest
      return (part :: parts, rest)
    | rest => return ([part], rest)

/-- What becomes of the keys of a table: a value is finished, a dotted key leaves a table open to other
dotted keys. -/
inductive Entry
  | value (v : Toml)
  | dotted (members : List (String × Entry))
  deriving Repr

/-- Gives a value to a key, which must not have one. -/
def assign (v : Toml) : List String → List (String × Entry) → Option (List (String × Entry))
  | [], _ => none
  | [name], ms => if (ms.lookup name).isSome then none else some (ms ++ [(name, .value v)])
  | name :: path, ms =>
    match ms.lookup name with
    | none => (assign v path []).map fun inner => ms ++ [(name, .dotted inner)]
    | some (.dotted inner) => (assign v path inner).map fun inner => Named.set name (.dotted inner) ms
    | some (.value _) => none

mutual
/-- What an entry stands for. -/
def Entry.toToml : Entry → Toml
  | .value v => v
  | .dotted ms => .table (entriesToToml ms)
termination_by structural e => e

def entriesToToml : List (String × Entry) → List (String × Toml)
  | [] => []
  | (name, e) :: rest => (name, e.toToml) :: entriesToToml rest
termination_by structural es => es
end

mutual
/-- A value at the front of a text. -/
def readValue : Nat → List Char → Option (Toml × List Char)
  | 0, _ => none
  | fuel + 1, cs =>
    match cs with
    | '"' :: rest => (readString '"' rest).map fun (s, rest) => (.text (String.ofList s), rest)
    | '\'' :: rest => (readString '\'' rest).map fun (s, rest) => (.text (String.ofList s), rest)
    | '[' :: rest => (readItems fuel rest).map fun (xs, rest) => (.list xs, rest)
    | '\x7b' :: rest =>
      match skipBlanks rest with
      | '\x7d' :: rest => some (.table [], rest)
      | rest => (readMembers fuel [] rest).map fun (ms, rest) => (.table (entriesToToml ms), rest)
    | _ => readWord cs
termination_by structural fuel => fuel

/-- The items of a list up to its closing bracket. -/
def readItems : Nat → List Char → Option (List Toml × List Char)
  | 0, _ => none
  | fuel + 1, cs => do
    match ← skipLines false cs with
    | ']' :: rest => return ([], rest)
    | cs =>
      let (v, rest) ← readValue fuel cs
      match ← skipLines false rest with
      | ',' :: rest =>
        let (vs, rest) ← readItems fuel rest
        return (v :: vs, rest)
      | ']' :: rest => return ([v], rest)
      | _ => none
termination_by structural fuel => fuel

/-- The members of a table on one line, up to its closing brace, after those in front of them. -/
def readMembers : Nat → List (String × Entry) → List Char → Option (List (String × Entry) × List Char)
  | 0, _, _ => none
  | fuel + 1, before, cs => do
    let (key, rest) ← readKey cs.length cs
    let (v, rest) ← readValue fuel (skipBlanks (← after? '=' rest))
    let ms ← assign v key before
    match skipBlanks rest with
    | ',' :: rest => readMembers fuel ms rest
    | '\x7d' :: rest => return (ms, rest)
    | _ => none
termination_by structural fuel => fuel
end

/-- A section: its header, whether it is one of a list, and the keys with their values. -/
structure Section where
  path : List String
  isItem : Bool
  lines : List (List String × Toml)
  deriving Repr

/-- A header up to the end of its line. -/
def readHeader (cs : List Char) : Option (List String × Bool × List Char) := do
  let (isItem, cs) := match cs with
    | '[' :: rest => (true, rest)
    | _ => (false, cs)
  let (path, rest) ← readKey (cs.length + 1) cs
  let rest ← after? ']' rest
  let rest ← if isItem then after? ']' rest else some rest
  return (path, isItem, ← skipLineEnd rest)

/-- A key with its value, up to the end of the line. -/
def readLine (cs : List Char) : Option ((List String × Toml) × List Char) := do
  let (key, rest) ← readKey (cs.length + 1) cs
  let (v, rest) ← readValue (cs.length + 1) (skipBlanks (← after? '=' rest))
  return ((key, v), ← skipLineEnd rest)

/-- The sections of a text, of which the first has no header. -/
def readSections : Nat → List Char → Option (List (List String × Toml) × List Section)
  | 0, _ => none
  | fuel + 1, cs => do
    match ← skipLines false cs with
    | [] => return ([], [])
    | '[' :: rest =>
      let (path, isItem, rest) ← readHeader rest
      let (lines, sections) ← readSections fuel rest
      return ([], ⟨path, isItem, lines⟩ :: sections)
    | cs =>
      let (line, rest) ← readLine cs
      let (lines, sections) ← readSections fuel rest
      return (line :: lines, sections)

/-- Line ends as single line feeds. -/
def unifyLineEnds : List Char → List Char
  | '\r' :: '\n' :: rest => '\n' :: unifyLineEnds rest
  | c :: rest => c :: unifyLineEnds rest
  | [] => []

/-- A text without the mark that may stand in front of it. -/
def withoutMark (cs : List Char) : List Char :=
  match cs with
  | '\ufeff' :: rest => rest
  | _ => cs

/-- The sections of a document, with the section without a header first. -/
def sections? (text : String) : Option (List Section) :=
  let cs := unifyLineEnds (withoutMark text.toList)
  (readSections (cs.length + 1) cs).map fun (lines, sections) => ⟨[], false, lines⟩ :: sections

end QueryDesk.Toml
