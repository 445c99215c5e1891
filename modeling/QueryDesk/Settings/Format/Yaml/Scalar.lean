import QueryDesk.Settings.Format.Numeral

/-!
# Scalars of indented documents

A scalar stands in quotes, in a block of its own, or plain. The value of a plain one is told from its text.
Lines that are folded are joined by a blank, or by one line feed less than there are line ends between them.
-/

namespace QueryDesk.Setting.Yaml

/-- What is left of a document: its characters, the column of the first of them, and the values that were
given names. -/
structure Source where
  rest : List Char
  column : Nat
  anchors : Named Setting

namespace Source

/-- The source without its first character. -/
def next (s : Source) : Source :=
  match s.rest with
  | [] => s
  | c :: rest => { s with rest := rest, column := if c = '\n' then 0 else s.column + 1 }

/-- The source without so many characters. -/
def skip (s : Source) : Nat → Source
  | 0 => s
  | n + 1 => s.next.skip n

/-- The source at what is left of it, after characters that were read. -/
def moveTo (s : Source) (rest : List Char) : Source := s.skip (s.rest.length - rest.length)

end Source

def isGap (c : Char) : Bool := c == ' ' || c == '\t'

def isEnd (c : Char) : Bool := c == ' ' || c == '\t' || c == '\n'

/-- Whether a text goes on with a blank, a line end or not at all. -/
def atEnd (cs : List Char) : Bool := cs.head?.all isEnd

/-- How many lines end in the blanks in front of a text, and what follows them. -/
def lineEnds : List Char → Nat × List Char
  | [] => (0, [])
  | c :: rest =>
    if c = '\n' then let (n, rest) := lineEnds rest; (n + 1, rest)
    else if isGap c then lineEnds rest
    else (0, c :: rest)

/-- What stands for so many line ends between folded lines. -/
def folded : Nat → List Char
  | 0 => []
  | 1 => [' ']
  | n + 1 => List.replicate n '\n'

/-- Text in front of text that was read. -/
def prepend (cs : List Char) (r : Option (List Char × List Char)) : Option (List Char × List Char) :=
  r.map fun (s, rest) => (cs ++ s, rest)

/-- The text without the blanks at its end. -/
def withoutEnd (cs : List Char) : List Char := (cs.reverse.dropWhile isGap).reverse

/-- A single-quoted scalar from behind its opening quote. The fuel bounds its length. -/
def readSingle : Nat → List Char → Option (List Char × List Char)
  | 0, _ => none
  | fuel + 1, cs =>
    match cs with
    | [] => none
    | '\'' :: '\'' :: rest => prepend ['\''] (readSingle fuel rest)
    | '\'' :: rest => some ([], rest)
    | c :: rest =>
      if isEnd c then
        let (n, rest') := lineEnds (c :: rest)
        if n = 0 then prepend [c] (readSingle fuel rest) else prepend (folded n) (readSingle fuel rest')
      else prepend [c] (readSingle fuel rest)

/-- The character that a letter behind a backslash stands for. -/
def escaped? (c : Char) : Option Char :=
  [('0', '\x00'), ('a', '\x07'), ('b', '\x08'), ('t', '\t'), ('\t', '\t'), ('n', '\n'), ('v', '\x0b'),
    ('f', '\x0c'), ('r', '\r'), ('e', '\x1b'), (' ', ' '), ('"', '"'), ('\'', '\''), ('/', '/'), ('\\', '\\'),
    ('N', '\u0085'), ('_', '\u00a0'), ('L', '\u2028'), ('P', '\u2029')].lookup c

/-- How many digits follow the letter of a number escape. -/
def escapeWidth? (c : Char) : Option Nat := [('x', 2), ('u', 4), ('U', 8)].lookup c

/-- The character written with so many digits at the front of a text. -/
def numbered? (width : Nat) (cs : List Char) : Option Char := do
  if cs.length < width then none
  let n ← Text.ofHex? (cs.take width)
  if n < 0xD800 ∨ (0xE000 ≤ n ∧ n < 0x110000) then return Char.ofNat n else none

/-- A double-quoted scalar from behind its opening quote. The fuel bounds its length. -/
def readDouble : Nat → List Char → Option (List Char × List Char)
  | 0, _ => none
  | fuel + 1, cs =>
    match cs with
    | [] => none
    | '"' :: rest => some ([], rest)
    | '\\' :: '\n' :: rest =>
      let (n, rest) := lineEnds rest
      prepend (List.replicate n '\n') (readDouble fuel rest)
    | '\\' :: c :: rest =>
      match escapeWidth? c with
      | some width => do prepend [← numbered? width rest] (readDouble fuel (rest.drop width))
      | none => do prepend [← escaped? c] (readDouble fuel rest)
    | c :: rest =>
      if isEnd c then
        let (n, rest') := lineEnds (c :: rest)
        if n = 0 then prepend [c] (readDouble fuel rest) else prepend (folded n) (readDouble fuel rest')
      else prepend [c] (readDouble fuel rest)

/-- A scalar in quotes, of which the first is given. -/
def readQuoted (quote : Char) (cs : List Char) : Option (List Char × List Char) :=
  if quote = '"' then readDouble (cs.length + 1) cs else readSingle (cs.length + 1) cs

def isFlowMark (c : Char) : Bool := c == ',' || c == '[' || c == ']' || c == '\x7b' || c == '\x7d'

/-- Whether a plain scalar can begin here. -/
def beginsPlain (inFlow : Bool) (cs : List Char) : Bool :=
  match cs with
  | [] => false
  | c :: rest =>
    if c = '-' ∨ c = '?' ∨ c = ':' then !atEnd rest && !(inFlow && rest.head?.any isFlowMark)
    else !isEnd c && !isFlowMark c && !"#&*!|>'\"%@\x60".toList.contains c

/-- A plain scalar as far as it stands on one line. `gap` holds behind a blank. -/
def plainLine (inFlow gap : Bool) : List Char → List Char × List Char
  | [] => ([], [])
  | c :: rest =>
    if c = '\n' ∨ (gap ∧ c = '#') then ([], c :: rest)
    else if c = ':' ∧ (atEnd rest ∨ (inFlow ∧ rest.head?.any isFlowMark)) then ([], c :: rest)
    else if inFlow ∧ isFlowMark c then ([], c :: rest)
    else
      let (line, rest) := plainLine inFlow (isGap c) rest
      (c :: line, rest)

/-- A plain scalar; the lines after the first begin behind a column. The fuel bounds their number. -/
def readPlain (inFlow : Bool) (indent : Int) : Nat → Source → List Char × Source
  | 0, s => ([], s)
  | fuel + 1, s =>
    let (line, rest) := plainLine inFlow false s.rest
    let line := withoutEnd line
    let s := s.moveTo rest
    let (n, rest) := lineEnds s.rest
    let after := s.moveTo rest
    if 0 < n ∧ rest ≠ [] ∧ rest.head? ≠ some '#' ∧ indent < after.column
        ∧ !(inFlow && rest.head?.any isFlowMark) then
      let (more, s) := readPlain inFlow indent fuel after
      (line ++ folded n ++ more, s)
    else (line, s)

/-- The value of a plain scalar. -/
def plainValue (cs : List Char) : Option Setting :=
  let s := String.ofList cs
  let radixInteger? (radix : Nat) : Option Setting := (integer? radix (cs.drop 2)).map .integer
  let written? : Option Setting :=
    match cs with
    | '0' :: 'x' :: _ => radixInteger? 16
    | '0' :: 'o' :: _ => radixInteger? 8
    | _ => none
  match written? with
  | some v => some v
  | none =>
    if s = "~" ∨ s = "null" then some .nothing
    else if s = "true" then some (.bool true)
    else if s = "false" then some (.bool false)
    else if s ∈ [".inf", ".Inf", ".INF", "+.inf", "+.Inf", "+.INF", "-.inf", "-.Inf", "-.INF", ".nan", ".NAN"] then
      none
    else
      match integer? 10 cs with
      | some i => some (.integer i)
      | none => some ((decimal? cs).getD (.text s))

/-- The value of a plain scalar with a tag. -/
def taggedValue (tag : String) (cs : List Char) : Option Setting :=
  let s := String.ofList cs
  if tag = "!!bool" then
    some (if s = "true" then .bool true else if s = "false" then .bool false else .nothing)
  else if tag = "!!int" then some (((integer? 10 cs).map .integer).getD .nothing)
  else if tag = "!!float" then some ((decimal? cs).getD .nothing)
  else if tag = "!!null" then some .nothing
  else some (.text s)

/-- The lines of a block scalar: each its indentation and text, with what follows them. A line that is not
blank and not indented beyond a column ends them. -/
def blockLines (indent : Int) : Nat → List Char → List (Nat × List Char) × List Char
  | 0, cs => ([], cs)
  | fuel + 1, cs =>
    if cs.isEmpty then ([], [])
    else
      let spaces := (cs.takeWhile (· == ' ')).length
      let line := (cs.drop spaces).takeWhile (· != '\n')
      if line ≠ [] ∧ (spaces : Int) ≤ indent then ([], cs)
      else
        let (lines, rest) := blockLines indent fuel (((cs.drop spaces).drop line.length).drop 1)
        ((spaces, line) :: lines, rest)

/-- The lines of a folded block as one text. Lines that are indented further are not folded. -/
def foldLines : List (List Char) → List Char
  | [] => []
  | [line] => line
  | line :: next :: rest =>
    let further (l : List Char) : Bool := l.head?.any isGap
    let joint :=
      if further line || further next then ['\n']
      else if next.isEmpty then []
      else if line.isEmpty then ['\n'] else [' ']
    line ++ joint ++ foldLines (next :: rest)

/-- A block scalar from behind its mark, below a column. -/
def readBlockScalar (isFolded : Bool) (indent : Int) (cs : List Char) : Option (List Char × List Char) := do
  let header := cs.takeWhile (· != '\n')
  let signs := header.takeWhile fun c => c == '+' || c == '-' || ('1' ≤ c && c ≤ '9')
  let after := (header.drop signs.length).dropWhile isGap
  if after.head?.any (· != '#') then none
  let given? := (signs.find? fun c => '1' ≤ c && c ≤ '9').map fun d => d.toNat - '0'.toNat
  let rest := (cs.drop header.length).drop 1
  let (lines, rest) := blockLines indent (rest.length + 1) rest
  let first? := (lines.find? fun (_, line) => line ≠ []).map (·.1)
  let width := match given? with
    | some d => (max indent 0).toNat + d
    | none => first?.getD 0
  let texts := lines.map fun (spaces, line) => List.replicate (spaces - width) ' ' ++ line
  let kept := (texts.reverse.dropWhile (·.isEmpty)).reverse
  let body := if isFolded then foldLines kept else "\n".toList.intercalate kept
  let ending :=
    if signs.contains '-' then []
    else if signs.contains '+' then List.replicate (texts.length - kept.length + (if kept.isEmpty then 0 else 1)) '\n'
    else if kept.isEmpty then [] else ['\n']
  return (body ++ ending, rest)

end QueryDesk.Setting.Yaml
