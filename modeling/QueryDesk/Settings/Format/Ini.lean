import QueryDesk.Settings.Value
import QueryDesk.Text.Blank
import QueryDesk.Text.Hex

/-!
# Settings as lines under headers

A section has a header in brackets; its lines are names and values with an equality sign or a colon between
them, and every value is a text. Lines in front of the first section stand at the top. A comment has a line
of its own. Backslashes escape, and a value may stand in quotes.
-/

namespace QueryDesk.Setting.Ini

/-- Puts a character in front of the text read from the rest. -/
def push (c : Char) (r : Option (List Char × List Char)) : Option (List Char × List Char) :=
  r.map fun (s, rest) => (c :: s, rest)

/-- The character that a letter behind a backslash stands for. -/
def escaped (c : Char) : Char :=
  ([('0', '\x00'), ('a', '\x07'), ('b', '\x08'), ('t', '\t'), ('r', '\r'), ('n', '\n')].lookup c).getD c

/-- The text in front of one of the ends, without what is escaped in it. -/
def readUntil (ends : List Char) (mayEnd : Bool) : List Char → Option (List Char × List Char)
  | [] => if mayEnd then some ([], []) else none
  | '\\' :: 'x' :: a :: b :: d :: e :: rest => do
    let n ← Text.ofHex? [a, b, d, e]
    if 0xD800 ≤ n ∧ n < 0xE000 then none else push (Char.ofNat n) (readUntil ends mayEnd rest)
  | '\\' :: '\n' :: rest => readUntil ends mayEnd rest
  | '\\' :: c :: rest => if c = 'x' then none else push (escaped c) (readUntil ends mayEnd rest)
  | ['\\'] => none
  | c :: rest => if ends.contains c then some ([], c :: rest) else push c (readUntil ends mayEnd rest)

/-- The rest of a line. -/
def readLine (cs : List Char) : Option (List Char × List Char) := readUntil ['\n', '\r'] true cs

/-- A value up to the end of its line. -/
def readValue (cs : List Char) : Option (List Char × List Char) :=
  match cs.dropWhile fun c => Text.isBlank c && c != '\n' && c != '\r' with
  | [] => some ([], [])
  | c :: rest =>
    if c = '"' ∨ c = '\'' then do
      let (quoted, rest) ← readUntil [c] false rest
      let (more, rest) ← readLine (rest.drop 1)
      return (quoted ++ more, rest)
    else readLine (c :: rest)

def trimmed (cs : List Char) : String := Text.trim (String.ofList cs)

/-- A line given to the section that is open, if there is one. -/
def addLine (name value : String) (section? : Option String) (t : Named Setting) : Named Setting :=
  match section? with
  | none => Named.set name (.text value) t
  | some s => Named.set s (.table (Named.set name (.text value) (((t.lookup s).getD .nothing).members))) t

/-- The sections of a text, of which the part in front has been read. A section that comes again begins
anew. `lineStart` holds at the start of a line. -/
def readSections : Nat → Bool → Option String → Named Setting → List Char → Option (Named Setting)
  | 0, _, _, _, _ => none
  | fuel + 1, lineStart, section?, t, cs =>
    match cs with
    | [] => some t
    | c :: rest =>
      if Text.isBlank c then readSections fuel (c = '\n') section? t rest
      else if c = ';' ∨ c = '#' then
        if lineStart then readSections fuel false section? t (rest.dropWhile (· != '\n')) else none
      else if c = '[' then do
        let (name, rest) ← readUntil [']'] false rest
        let name := trimmed name
        readSections fuel false (some name) (Named.set name (.table []) t) (rest.drop 1)
      else if c = '=' ∨ c = ':' then none
      else do
        let (name, rest) ← readUntil ['=', ':'] false (c :: rest)
        let (value, rest) ← readValue (rest.drop 1)
        readSections fuel false section? (addLine (trimmed name) (trimmed value) section? t) rest

/-- The settings of a text. -/
def parse? (text : String) : Option (Named Setting) := readSections (text.length + 1) true none [] text.toList

end QueryDesk.Setting.Ini
