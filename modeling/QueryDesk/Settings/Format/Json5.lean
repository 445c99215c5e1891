import QueryDesk.Settings.Format.Gap
import QueryDesk.Settings.Format.Numeral
import QueryDesk.Text.Blank

/-!
# Settings as a script object

JSON with comments, names without quotes, strings in single quotes, commas behind the last item, and numbers
in hexadecimal, with a plus sign, without digits on one side of the point, or infinite. The whole is an
object. Values take the length of the text as fuel, since each begins behind a character of the one around
it.
-/

namespace QueryDesk.Setting.Json5

def isLineEnd (c : Char) : Bool := c == '\n' || c == '\r' || c == '\u2028' || c == '\u2029'

def gap : GapStyle where
  isBlank c := (Text.isBlank c && c != '\u0085') || c == '\ufeff'
  isLineEnd := isLineEnd
  nests := false

def skip (cs : List Char) : Option (List Char) := gap.skip .blank cs

/-- What a name may begin with. -/
def isNameStart (c : Char) : Bool :=
  Text.isAsciiLetter c || c == '$' || c == '_' || ('\u0080' ≤ c && !gap.isBlank c && !isLineEnd c)

def isNamePart (c : Char) : Bool := isNameStart c || Text.isAsciiDigit c

/-- Puts a character in front of the text read from the rest. -/
def push (c : Char) (r : Option (List Char × List Char)) : Option (List Char × List Char) :=
  r.map fun (s, rest) => (c :: s, rest)

/-- The character that a letter behind a backslash stands for. -/
def escaped (c : Char) : Char :=
  ([('b', '\x08'), ('f', '\x0c'), ('n', '\n'), ('r', '\r'), ('t', '\t'), ('v', '\x0b'), ('0', '\x00')].lookup c).getD c

/-- The character of a number, unless it is half of a pair. -/
def numbered? (n : Nat) : Option Char := if 0xD800 ≤ n ∧ n < 0xE000 then none else some (Char.ofNat n)

/-- A string from behind its opening quote. -/
def readText (quote : Char) : List Char → Option (List Char × List Char)
  | [] | ['\\'] => none
  | '\\' :: 'x' :: a :: b :: rest => do push (Char.ofNat (← Text.ofHex? [a, b])) (readText quote rest)
  | '\\' :: 'u' :: a :: b :: d :: e :: rest => do
    push (← numbered? (← Text.ofHex? [a, b, d, e])) (readText quote rest)
  | '\\' :: '\r' :: '\n' :: rest => readText quote rest
  | '\\' :: c :: rest =>
    if isLineEnd c then readText quote rest
    else if c = 'x' ∨ c = 'u' ∨ ('1' ≤ c ∧ c ≤ '9') then none
    else push (escaped c) (readText quote rest)
  | c :: rest =>
    if c = quote then some ([], rest)
    else if c = '\n' ∨ c = '\r' then none
    else push c (readText quote rest)

/-- The value of a word or number. -/
def wordValue? (cs : List Char) : Option Setting :=
  let (negative, word) := splitSign cs
  match word with
  | '0' :: x :: ds =>
    if x = 'x' ∨ x = 'X' then
      (integer? 16 ds).map fun i => .integer (if negative then -i else i)
    else if Text.isAsciiDigit x then none
    else decimal? cs
  | _ =>
    let s := String.ofList word
    if s = "Infinity" then some (.infinite negative)
    else if s = "NaN" then some .notANumber
    else if cs = "null".toList then some .nothing
    else if cs = "true".toList then some (.bool true)
    else if cs = "false".toList then some (.bool false)
    else if word.all Text.isAsciiDigit then (integer? 10 cs).map .integer
    else if word.head?.any fun c => Text.isAsciiDigit c || c == '.' then decimal? cs
    else none

/-- What words and numbers are made of; a sign stands in front or behind the letter of an exponent. -/
def spanWord (before : Char) : List Char → List Char × List Char
  | [] => ([], [])
  | c :: rest =>
    if isNamePart c || c == '.' || ((c == '+' || c == '-') && (before == 'e' || before == 'E' || before == ' ')) then
      let (word, rest) := spanWord c rest
      (c :: word, rest)
    else ([], c :: rest)

/-- The name of a member. -/
def readName (cs : List Char) : Option (String × List Char) :=
  match cs with
  | [] => none
  | c :: rest =>
    if c = '"' ∨ c = '\'' then (readText c rest).map fun (s, rest) => (String.ofList s, rest)
    else if isNameStart c then some (String.ofList (cs.takeWhile isNamePart), cs.dropWhile isNamePart)
    else none

mutual
/-- A value and what follows it. -/
def readValue : Nat → List Char → Option (Setting × List Char)
  | 0, _ => none
  | fuel + 1, cs => do
    match ← skip cs with
    | '\x7b' :: rest => (readMembers fuel rest).map fun (ms, rest) => (.table (Named.ofList ms), rest)
    | '[' :: rest => (readItems fuel rest).map fun (xs, rest) => (.list xs, rest)
    | '"' :: rest => (readText '"' rest).map fun (s, rest) => (.text (String.ofList s), rest)
    | '\'' :: rest => (readText '\'' rest).map fun (s, rest) => (.text (String.ofList s), rest)
    | cs =>
      let (word, rest) := spanWord ' ' cs
      return (← wordValue? word, rest)
termination_by structural fuel => fuel

/-- The items up to the closing bracket. -/
def readItems : Nat → List Char → Option (List Setting × List Char)
  | 0, _ => none
  | fuel + 1, cs => do
    match ← skip cs with
    | ']' :: rest => return ([], rest)
    | cs =>
      let (v, rest) ← readValue fuel cs
      match ← skip rest with
      | ',' :: rest =>
        let (vs, rest) ← readItems fuel rest
        return (v :: vs, rest)
      | ']' :: rest => return ([v], rest)
      | _ => none
termination_by structural fuel => fuel

/-- The members up to the closing brace. -/
def readMembers : Nat → List Char → Option (List (String × Setting) × List Char)
  | 0, _ => none
  | fuel + 1, cs => do
    match ← skip cs with
    | '\x7d' :: rest => return ([], rest)
    | cs =>
      let (name, rest) ← readName cs
      match ← skip rest with
      | ':' :: rest =>
        let (v, rest) ← readValue fuel rest
        match ← skip rest with
        | ',' :: rest =>
          let (ms, rest) ← readMembers fuel rest
          return ((name, v) :: ms, rest)
        | '\x7d' :: rest => return ([(name, v)], rest)
        | _ => none
      | _ => none
termination_by structural fuel => fuel
end

/-- The settings of a text. -/
def parse? (text : String) : Option Setting := do
  let (v, rest) ← readValue (3 * text.length + 3) text.toList
  match v, ← skip rest with
  | .table ms, [] => return .table ms
  | _, _ => none

end QueryDesk.Setting.Json5
