import QueryDesk.Settings.Format.Yaml.Scalar
import QueryDesk.Text.Percent

/-!
# Indented documents

A text of one document, in which lists and tables are told from the columns that their parts begin in, or
stand between brackets. A value may be given a name and be used again. Every step from a value to one inside
it consumes a character, or is the only step that does not, so that twice the length of the text is fuel
enough.
-/

namespace QueryDesk.Setting.Yaml

/-- Passes over blanks, comments and line ends; the flags hold in a comment and once a line has ended. -/
def Source.gap (inComment newLine : Bool) (column : Nat) (anchors : Named Setting) : List Char → Bool × Source
  | [] => (newLine, ⟨[], column, anchors⟩)
  | c :: rest =>
    if c = '\n' then Source.gap false true 0 anchors rest
    else if inComment ∨ isGap c then Source.gap inComment newLine (column + 1) anchors rest
    else if c = '#' then Source.gap true newLine (column + 1) anchors rest
    else (newLine, ⟨c :: rest, column, anchors⟩)

/-- What follows a gap, and whether a line ends in it. -/
def Source.skipGap (s : Source) : Bool × Source := Source.gap false false s.column s.anchors s.rest

/-- Whether a mark stands here on its own. -/
def Source.atMark (s : Source) (mark : Char) : Bool :=
  match s.rest with
  | c :: rest => c == mark && atEnd rest
  | [] => false

/-- The name of a member of a table. -/
def asName? : Setting → Option String
  | .text s => some s
  | .integer i => some (String.ofList (Decimal.integer i))
  | _ => none

/-- A word of a tag or a name for a value. -/
def readWord (s : Source) : String × Source :=
  let word := s.rest.takeWhile fun c => !isEnd c && !isFlowMark c
  (String.ofList word, s.skip word.length)

/-- A scalar on one line that a colon follows: the name of a member. -/
def readKey? (s : Source) : Option (Setting × Source) := do
  let (key, after) ← match s.rest with
    | [] => none
    | c :: rest =>
      if c = '"' ∨ c = '\'' then
        (readQuoted c rest).map fun (t, rest) => (Setting.text (String.ofList t), s.moveTo rest)
      else if beginsPlain false s.rest then
        let (line, rest) := plainLine false false s.rest
        (plainValue (withoutEnd line)).map fun v => (v, s.moveTo rest)
      else none
  let after := after.moveTo (after.rest.dropWhile isGap)
  if after.atMark ':' && !((s.rest.take (s.rest.length - after.rest.length)).contains '\n') then
    return (key, after.next)
  else none

mutual
/-- A value between brackets, or a scalar among such values. -/
def readFlow : Nat → Source → Option (Setting × Source)
  | 0, _ => none
  | fuel + 1, s =>
    match s.rest with
    | [] => none
    | c :: rest =>
      if c = '[' then (readFlowItems fuel s.next).map fun (xs, s) => (.list xs, s)
      else if c = '\x7b' then (readFlowMembers fuel s.next).map fun (ms, s) => (.table (Named.ofList ms), s)
      else if c = '"' ∨ c = '\'' then
        (readQuoted c rest).map fun (t, rest) => (.text (String.ofList t), s.moveTo rest)
      else if c = '*' then
        let (name, s) := readWord s.next
        (s.anchors.lookup name).map (·, s)
      else if c = '&' then do
        let (name, s) := readWord s.next
        let (v, s) ← readFlow fuel s.skipGap.2
        return (v, { s with anchors := Named.set name v s.anchors })
      else if c = '!' then do
        let (tag, s) := readWord s
        let s := s.skipGap.2
        if beginsPlain true s.rest then
          let (t, s) := readPlain true (-1) s.rest.length s
          return (← taggedValue tag t, s)
        else readFlow fuel s
      else if beginsPlain true s.rest then
        let (t, s) := readPlain true (-1) s.rest.length s
        (plainValue t).map (·, s)
      else none
termination_by structural fuel => fuel

/-- The items up to the closing bracket. A pair among them is a table. -/
def readFlowItems : Nat → Source → Option (List Setting × Source)
  | 0, _ => none
  | fuel + 1, s =>
    let s := s.skipGap.2
    match s.rest with
    | ']' :: _ => some ([], s.next)
    | _ => do
      let (v, s) ← readFlow fuel s
      let s := s.skipGap.2
      let (v, s) ← if s.rest.head? = some ':' then do
          let (w, s) ← readFlow fuel s.next.skipGap.2
          pure (Setting.table [(← asName? v, w)], s.skipGap.2)
        else some (v, s)
      match s.rest with
      | ',' :: _ =>
        let (vs, s) ← readFlowItems fuel s.next
        return (v :: vs, s)
      | ']' :: _ => return ([v], s.next)
      | _ => none
termination_by structural fuel => fuel

/-- The members up to the closing brace. One without a value is nothing. -/
def readFlowMembers : Nat → Source → Option (List (String × Setting) × Source)
  | 0, _ => none
  | fuel + 1, s =>
    let s := s.skipGap.2
    match s.rest with
    | '\x7d' :: _ => some ([], s.next)
    | _ => do
      let (k, s) ← readFlow fuel s
      let name ← asName? k
      let s := s.skipGap.2
      let (v, s) ← if s.rest.head? = some ':' then
          let s := s.next.skipGap.2
          if s.rest.head? = some ',' ∨ s.rest.head? = some '\x7d' then some (Setting.nothing, s)
          else (readFlow fuel s).map fun (v, s) => (v, s.skipGap.2)
        else some (.nothing, s)
      match s.rest with
      | ',' :: _ =>
        let (ms, s) ← readFlowMembers fuel s.next
        return ((name, v) :: ms, s)
      | '\x7d' :: _ => return ([(name, v)], s.next)
      | _ => none
termination_by structural fuel => fuel
end

mutual
/-- A value whose parts begin behind a column. `onLine` holds behind the name of a member on its line, where
neither a table nor a list can begin. -/
def readNode : Nat → Int → Bool → Source → Option (Setting × Source)
  | 0, _, _, _ => none
  | fuel + 1, indent, onLine, s =>
    match s.rest with
    | [] => some (.nothing, s)
    | c :: _ =>
      if (s.column : Int) ≤ indent then some (.nothing, s)
      else if c = '&' then do
        let (name, s) := readWord s.next
        let (newLine, s) := s.skipGap
        let (v, s) ← readNode fuel indent (onLine && !newLine) s
        return (v, { s with anchors := Named.set name v s.anchors })
      else if c = '!' then do
        let (tag, s) := readWord s
        let (newLine, s) := s.skipGap
        if beginsPlain false s.rest ∧ (readKey? s).isNone then
          let (t, s) := readPlain false indent s.rest.length s
          return (← taggedValue tag t, s)
        else readNode fuel indent (onLine && !newLine) s
      else if s.atMark '-' then
        if onLine then none
        else (readList fuel s.column s).map fun (xs, s) => (.list xs, s)
      else if c = '|' ∨ c = '>' then
        (readBlockScalar (c = '>') indent s.next.rest).map fun (t, rest) =>
          (.text (String.ofList t), { s with rest := rest, column := 0 })
      else if (readKey? s).isSome then
        if onLine then none
        else (readTable fuel s.column s).map fun (ms, s) => (.table (Named.ofList ms), s)
      else if beginsPlain false s.rest then
        let (t, s) := readPlain false indent s.rest.length s
        (plainValue t).map (·, s)
      else readFlow fuel s
termination_by structural fuel => fuel

/-- The items of a list that begins at a column. -/
def readList : Nat → Nat → Source → Option (List Setting × Source)
  | 0, _, _ => none
  | fuel + 1, column, s => do
    let (v, s) ← readNode fuel column false s.next.skipGap.2
    let s := s.skipGap.2
    if s.rest = [] ∨ s.column < column ∨ (s.column = column ∧ !s.atMark '-') then return ([v], s)
    else if s.column = column then
      let (vs, s) ← readList fuel column s
      return (v :: vs, s)
    else none
termination_by structural fuel => fuel

/-- The members of a table that begins at a column. -/
def readTable : Nat → Nat → Source → Option (List (String × Setting) × Source)
  | 0, _, _ => none
  | fuel + 1, column, s => do
    let (k, s) ← readKey? s
    let name ← asName? k
    let (newLine, s) := s.skipGap
    let (v, s) ←
      if newLine ∧ s.column = column ∧ s.atMark '-' then
        (readList fuel column s).map fun (xs, s) => (Setting.list xs, s)
      else readNode fuel column (!newLine) s
    let (_, s) := s.skipGap
    if s.rest = [] ∨ s.column < column then return ([(name, v)], s)
    else if s.column = column then
      let (ms, s) ← readTable fuel column s
      return ((name, v) :: ms, s)
    else none
termination_by structural fuel => fuel
end

/-- The lines of a text, of which a line end may be a carriage return and a line feed. -/
def linesOf (text : String) : List (List Char) :=
  (Text.splitAt '\n' text.toList).map fun line => (line.reverse.dropWhile (· == '\r')).reverse

/-- Whether a line begins with a mark of three characters that stands alone. -/
def hasMark (mark : String) (line : List Char) : Bool := line.take 3 == mark.toList && atEnd (line.drop 3)

def isBlankLine (line : List Char) : Bool := ((line.dropWhile isGap).head?).all (· == '#')

/-- The documents of a text, each its lines. Lines in front of the first mark are one if they hold
anything. `begun` holds behind a mark that begins a document. -/
def documents (begun : Bool) (current : List (List Char)) : List (List Char) → List (List (List Char))
  | [] => finished
  | line :: rest =>
    if hasMark "---" line then
      finished ++ documents true ["   ".toList ++ line.drop 3] rest
    else if hasMark "..." line then finished ++ documents false [] rest
    else if !begun && line.head? == some '%' then documents false [] rest
    else if begun || !isBlankLine line then documents true (current ++ [line]) rest
    else documents false [] rest
where
  finished : List (List (List Char)) := if begun then [current] else []

/-- The value of a text, which is one document. An empty text is an empty table. -/
def parse? (text : String) : Option Setting :=
  match documents false [] (linesOf text) with
  | [] => some (.table [])
  | [lines] => do
    let cs := "\n".toList.intercalate lines
    let s : Source := (Source.mk cs 0 []).skipGap.2
    let (v, s) ← readNode (2 * cs.length + 4) (-1) false s
    if s.skipGap.2.rest = [] then return v else none
  | _ => none

end QueryDesk.Setting.Yaml
