import QueryDesk.Settings.Format.Gap
import QueryDesk.Settings.Format.Numeral

/-!
# Settings in object notation with records

Records are named fields or plain values in round brackets, perhaps behind the name of their type; maps have
values as names. What is optional is `None` or `Some` with the value in round brackets. Values take the
length of the text as fuel, since each begins behind a character of the one around it.
-/

namespace QueryDesk.Setting.Ron

def gap : GapStyle where
  isBlank c := c == ' ' || c == '\t' || c == '\n' || c == '\r'
  isLineEnd c := c == '\n'
  nests := true

def skip (cs : List Char) : Option (List Char) := gap.skip .blank cs

def isNameStart (c : Char) : Bool := Text.isAsciiLetter c || c == '_'

def isNamePart (c : Char) : Bool := isNameStart c || Text.isAsciiDigit c

def isNumberPart (c : Char) : Bool := isNamePart c || c == '.' || c == '+' || c == '-'

/-- Puts a character in front of the text read from the rest. -/
def push (c : Char) (r : Option (List Char × List Char)) : Option (List Char × List Char) :=
  r.map fun (s, rest) => (c :: s, rest)

/-- The character of a number, unless it is half of a pair or too large. -/
def numbered? (n : Nat) : Option Char :=
  if n < 0xD800 ∨ (0xE000 ≤ n ∧ n < 0x110000) then some (Char.ofNat n) else none

/-- The character that a letter behind a backslash stands for. -/
def escaped? (c : Char) : Option Char :=
  [('"', '"'), ('\'', '\''), ('\\', '\\'), ('b', '\x08'), ('f', '\x0c'), ('n', '\n'), ('r', '\r'),
    ('t', '\t')].lookup c

/-- A string from behind its opening quote. `digits?` gathers the digits of a number escape. -/
def readText (quote : Char) (digits? : Option (List Char)) : List Char → Option (List Char × List Char)
  | [] => none
  | c :: rest =>
    match digits? with
    | some ds =>
      if c = '\x7d' then do push (← numbered? (← Text.ofHex? ds)) (readText quote none rest)
      else if ds.length < 6 then readText quote (some (ds ++ [c])) rest
      else none
    | none =>
      if c = quote then some ([], rest)
      else if c = '\\' then
        match rest with
        | 'x' :: a :: b :: rest => do push (Char.ofNat (← Text.ofHex? [a, b])) (readText quote none rest)
        | 'u' :: '\x7b' :: rest => readText quote (some []) rest
        | e :: rest => do push (← escaped? e) (readText quote none rest)
        | [] => none
      else push c (readText quote none rest)

/-- A string without escapes, from behind its opening quote up to a quote and so many number signs. -/
def readRaw (signs : Nat) : List Char → Option (List Char × List Char)
  | [] => none
  | c :: rest =>
    if c = '"' ∧ rest.take signs = List.replicate signs '#' then some ([], rest.drop signs)
    else push c (readRaw signs rest)

/-- A raw string from behind the letter in front of it. -/
def rawText? (cs : List Char) : Option (List Char × List Char) :=
  let signs := (cs.takeWhile (· == '#')).length
  match cs.drop signs with
  | '"' :: rest => readRaw signs rest
  | _ => none

/-- The digits of a number in base 16, 8 or 2. -/
def radix? : List Char → Option (Nat × List Char)
  | '0' :: 'x' :: ds => some (16, ds)
  | '0' :: 'o' :: ds => some (8, ds)
  | '0' :: 'b' :: ds => some (2, ds)
  | _ => none

/-- A number, which may have underscores in it. -/
def number? (cs : List Char) : Option Setting :=
  let cs := cs.filter (· != '_')
  let (negative, ds) := splitSign cs
  match radix? ds with
  | some (radix, ds) => (integer? radix ds).map fun i => .integer (if negative then -i else i)
  | none => ((integer? 10 cs).map .integer) <|> decimal? cs

/-- The text of a name in a map. -/
def asName? : Setting → Option String
  | .text s => some s
  | _ => none

/-- Whether a text begins with a name and a colon. -/
def beginsField (cs : List Char) : Bool :=
  match cs with
  | [] => false
  | c :: _ => isNameStart c && (match skip (cs.dropWhile isNamePart) with
    | some (':' :: _) => true
    | _ => false)

mutual
/-- A value and what follows it. -/
def readValue : Nat → List Char → Option (Setting × List Char)
  | 0, _ => none
  | fuel + 1, cs => do
    let cs ← skip cs
    match cs with
    | [] => none
    | c :: rest =>
      if c = '[' then (readItems fuel ']' rest).map fun (xs, rest) => (.list xs, rest)
      else if c = '\x7b' then (readEntries fuel rest).map fun (ms, rest) => (.table (Named.ofList ms), rest)
      else if c = '(' then readRecord fuel rest
      else if c = '"' then (readText '"' none rest).map fun (s, rest) => (.text (String.ofList s), rest)
      else if c = 'r' ∧ (rest.head? = some '"' ∨ rest.head? = some '#') then
        (rawText? rest).map fun (s, rest) => (.text (String.ofList s), rest)
      else if c = '\'' then do
        let (s, rest) ← readText '\'' none rest
        if s.length = 1 then return (.text (String.ofList s), rest) else none
      else if isNameStart c then
        let name := String.ofList (cs.takeWhile isNamePart)
        let rest := cs.dropWhile isNamePart
        if name = "true" then return (.bool true, rest)
        else if name = "false" then return (.bool false, rest)
        else if name = "None" then return (.nothing, rest)
        else if name = "inf" then return (.infinite false, rest)
        else if name = "NaN" then return (.notANumber, rest)
        else match ← skip rest with
          | '(' :: rest =>
            if name = "Some" then do
              let (v, rest) ← readValue fuel rest
              match ← skip rest with
              | ')' :: rest => return (v, rest)
              | _ => none
            else readRecord fuel rest
          | _ => return (.nothing, rest)
      else
        let word := cs.takeWhile isNumberPart
        if word = "-inf".toList then return (.infinite true, cs.drop word.length)
        else return (← number? word, cs.drop word.length)
termination_by structural fuel => fuel

/-- A record from behind its opening bracket. One that holds nothing is nothing. -/
def readRecord : Nat → List Char → Option (Setting × List Char)
  | 0, _ => none
  | fuel + 1, cs => do
    match ← skip cs with
    | ')' :: rest => return (.nothing, rest)
    | cs =>
      if beginsField cs then (readFields fuel cs).map fun (ms, rest) => (.table (Named.ofList ms), rest)
      else (readItems fuel ')' cs).map fun (xs, rest) => (.list xs, rest)
termination_by structural fuel => fuel

/-- The items up to the closing bracket. -/
def readItems : Nat → Char → List Char → Option (List Setting × List Char)
  | 0, _, _ => none
  | fuel + 1, closing, cs => do
    match ← skip cs with
    | [] => none
    | c :: rest =>
      if c = closing then return ([], rest)
      else
        let (v, rest) ← readValue fuel (c :: rest)
        match ← skip rest with
        | ',' :: rest =>
          let (vs, rest) ← readItems fuel closing rest
          return (v :: vs, rest)
        | d :: rest => if d = closing then return ([v], rest) else none
        | [] => none
termination_by structural fuel => fuel

/-- The fields up to the closing bracket. -/
def readFields : Nat → List Char → Option (List (String × Setting) × List Char)
  | 0, _ => none
  | fuel + 1, cs => do
    match ← skip cs with
    | ')' :: rest => return ([], rest)
    | cs =>
      if !beginsField cs then none
      let (v, rest) ← readValue fuel ((← skip (cs.dropWhile isNamePart)).drop 1)
      let name := String.ofList (cs.takeWhile isNamePart)
      match ← skip rest with
      | ',' :: rest =>
        let (ms, rest) ← readFields fuel rest
        return ((name, v) :: ms, rest)
      | ')' :: rest => return ([(name, v)], rest)
      | _ => none
termination_by structural fuel => fuel

/-- The entries of a map up to the closing brace. -/
def readEntries : Nat → List Char → Option (List (String × Setting) × List Char)
  | 0, _ => none
  | fuel + 1, cs => do
    match ← skip cs with
    | '\x7d' :: rest => return ([], rest)
    | cs =>
      let (k, rest) ← readValue fuel cs
      let name ← asName? k
      match ← skip rest with
      | ':' :: rest =>
        let (v, rest) ← readValue fuel rest
        match ← skip rest with
        | ',' :: rest =>
          let (ms, rest) ← readEntries fuel rest
          return ((name, v) :: ms, rest)
        | '\x7d' :: rest => return ([(name, v)], rest)
        | _ => none
      | _ => none
termination_by structural fuel => fuel
end

/-- The text behind the line that asks for extensions, if there is one. -/
def skipExtensions (cs : List Char) : Option (List Char) := do
  match ← skip cs with
  | '#' :: '!' :: '[' :: rest => some ((rest.dropWhile (· != ']')).drop 1)
  | cs => some cs

/-- The value of a text. -/
def parse? (text : String) : Option Setting := do
  let cs ← skipExtensions text.toList
  let (v, rest) ← readValue (3 * text.length + 3) cs
  if (← skip rest).isEmpty then return v else none

end QueryDesk.Setting.Ron
