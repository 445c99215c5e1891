import QueryDesk.Text.Hex
import QueryDesk.Toml.Basic
import QueryDesk.Toml.Moment

/-!
# Strings and numbers of a document

Each reader takes what it reads from the front of a text and gives it together with the rest. Line ends are
single line feeds here.
-/

namespace QueryDesk.Toml

def isBlank (c : Char) : Bool := c == ' ' || c == '\t'

def skipBlanks (cs : List Char) : List Char := cs.dropWhile isBlank

/-- What names and numbers are made of. -/
def isWordChar (c : Char) : Bool := Text.isAsciiLetter c || Text.isAsciiDigit c || c == '-' || c == '_'

/-- What may stand in a string as it is. -/
def isTextChar (c : Char) : Bool := c == '\t' || (' ' ≤ c && c != '\x7f')

/-- The character a one-letter escape stands for. -/
def escaped? (c : Char) : Option Char :=
  [('"', '"'), ('\\', '\\'), ('b', '\x08'), ('f', '\x0c'), ('n', '\n'), ('r', '\r'), ('t', '\t')].lookup c

/-- The character of a number escape. -/
def numbered? (ds : List Char) : Option Char :=
  (Text.ofHex? ds).bind fun n => if n < 0xD800 ∨ (0xE000 ≤ n ∧ n < 0x110000) then some (Char.ofNat n) else none

/-- Puts a character in front of the text read from the rest. -/
def push (c : Char) (r : Option (List Char × List Char)) : Option (List Char × List Char) :=
  r.map fun (s, rest) => (c :: s, rest)

/-- What follows three quotes: of up to two more, the text keeps as many. -/
def closeBlock (quote : Char) (rest : List Char) : List Char × List Char :=
  let more := (rest.take 2).takeWhile (· == quote)
  (more, rest.drop more.length)

/-- A string from behind its opening quote or, over several lines, quotes. A backslash escapes between
double quotes; at the end of a line it joins what follows the blanks after it. `joining` holds while these
blanks are passed over. -/
def readText (quote : Char) (block joining : Bool) : List Char → Option (List Char × List Char)
  | [] => none
  | c :: rest =>
    if joining && (isBlank c || c == '\n') then readText quote block true rest
    else if c = quote then
      if block then
        if rest.take 2 = [quote, quote] then some (closeBlock quote (rest.drop 2))
        else push c (readText quote block false rest)
      else some ([], rest)
    else if c = '\\' ∧ quote = '"' then
      match rest with
      | 'u' :: a :: b :: d :: e :: rest' => do push (← numbered? [a, b, d, e]) (readText quote block false rest')
      | 'U' :: a :: b :: d :: e :: f :: g :: h :: i :: rest' => do
        push (← numbered? [a, b, d, e, f, g, h, i]) (readText quote block false rest')
      | e :: rest' =>
        match escaped? e with
        | some x => push x (readText quote block false rest')
        | none =>
          if block && (skipBlanks (e :: rest')).head? == some '\n' then readText quote block true rest' else none
      | [] => none
    else if isTextChar c || (block && c == '\n') then push c (readText quote block false rest)
    else none

/-- A string from behind its first quote. A line feed behind three quotes does not count. -/
def readString (quote : Char) (cs : List Char) : Option (List Char × List Char) :=
  if cs.take 2 = [quote, quote] then
    match cs.drop 2 with
    | '\n' :: rest => readText quote true false rest
    | rest => readText quote true false rest
  else readText quote false false cs

/-- Digits with underscores between them, from behind the first digit. `zero` holds if that was a zero
after which no other digit may stand, and `gap` behind an underscore. -/
def moreDigits (radix : Nat) (zero gap : Bool) : List Char → Option (List Char × List Char)
  | [] => if gap then none else some ([], [])
  | c :: rest =>
    if ((Text.hexValue? c).filter (· < radix)).isSome then
      if zero then none else push c (moreDigits radix false false rest)
    else if gap then none
    else if c = '_' then moreDigits radix zero true rest
    else some ([], c :: rest)

/-- The digits at the front of a text, without the underscores between them. -/
def readDigits (radix : Nat) (leadingZeros : Bool) (cs : List Char) : Option (List Char × List Char) :=
  match cs with
  | [] => none
  | c :: rest =>
    if ((Text.hexValue? c).filter (· < radix)).isSome then
      push c (moreDigits radix (c = '0' && !leadingZeros) false rest)
    else none

/-- A sign, if there is one, and what follows. -/
def readSign (cs : List Char) : Bool × List Char :=
  match cs with
  | '-' :: rest => (true, rest)
  | '+' :: rest => (false, rest)
  | _ => (false, cs)

def digitsValue (radix : Nat) (ds : List Char) : Nat :=
  ds.foldl (fun n d => n * radix + (Text.hexValue? d).getD 0) 0

/-- An integer that is the whole word. -/
def integer? (radix : Nat) (signed : Bool) (word : List Char) : Option Toml := do
  let (negative, cs) := if signed then readSign word else (false, word)
  let (ds, rest) ← readDigits radix (radix ≠ 10) cs
  let n := digitsValue radix ds
  let i : Int := if negative then -n else n
  if rest = [] ∧ -9223372036854775808 ≤ i ∧ i < 9223372036854775808 then return .integer i else none

/-- The double nearest to a decimal, if it is finite. -/
def decimal? (negative : Bool) (whole fraction : List Char) (exponent : Int) : Option Double :=
  let n := digitsValue 10 (whole ++ fraction)
  let e := exponent - fraction.length
  let size := e + (Nat.toDigits 10 n).length
  if n = 0 ∨ size < -400 then some (Double.zero negative)
  else if 400 < size then none
  else if 0 ≤ e then Double.nearest? negative (n * Nat.pow 10 e.toNat) 1
  else Double.nearest? negative n (Nat.pow 10 (-e).toNat)

/-- The exponent of a number: behind the letter in its word or, when the word ends there, a word of its own
that a plus sign may precede. -/
def readExponent (suffix rest : List Char) : Option (Int × List Char) :=
  match suffix with
  | [] => some (0, rest)
  | e :: more =>
    if e = 'e' ∨ e = 'E' then
      if more.isEmpty then do
        let rest := (after? '+' rest).getD rest
        let (ds, left) ← readDigits 10 true (rest.takeWhile isWordChar)
        if left.isEmpty then return (digitsValue 10 ds, rest.dropWhile isWordChar) else none
      else do
        let (negative, more) := readSign more
        let (ds, left) ← readDigits 10 true more
        let n : Int := digitsValue 10 ds
        if left.isEmpty then return (if negative then -n else n, rest) else none
    else none

/-- A number with a point or an exponent. The words before and behind the point are given. -/
def readDecimal (word : List Char) (behind : Option (List Char)) (rest : List Char) :
    Option (Toml × List Char) := do
  let (negative, cs) := readSign word
  let (whole, suffix) ← readDigits 10 false cs
  let (fraction, suffix) ← match behind with
    | none => some ([], suffix)
    | some b => if suffix.isEmpty then readDigits 10 true b else none
  let (exponent, rest) ← readExponent suffix rest
  return (.number (← decimal? negative whole fraction exponent), rest)

/-- A number that begins with a word, and what follows. -/
def readNumber (word rest : List Char) : Option (Toml × List Char) :=
  match word with
  | '0' :: 'x' :: ds => (integer? 16 false ds).map (·, rest)
  | '0' :: 'o' :: ds => (integer? 8 false ds).map (·, rest)
  | '0' :: 'b' :: ds => (integer? 2 false ds).map (·, rest)
  | _ =>
    if word.contains 'e' ∨ word.contains 'E' then readDecimal word none rest
    else match rest with
      | '.' :: rest =>
        let behind := rest.takeWhile isWordChar
        if behind.isEmpty then none else readDecimal word (some behind) (rest.dropWhile isWordChar)
      | _ =>
        if word = "inf".toList then some (.infinite false, rest)
        else if word = "-inf".toList then some (.infinite true, rest)
        else if word = "nan".toList ∨ word = "-nan".toList then some (.notANumber, rest)
        else (integer? 10 true word).map (·, rest)

/-- How much of a text belongs to a date or time: the words and the signs between them, and one blank
with a word behind it. -/
def spanMoment (cs : List Char) : List Char × List Char :=
  let word := cs.takeWhile isWordChar
  let (word, rest) := match cs.drop word.length with
    | ' ' :: c :: rest =>
      if isWordChar c then
        let more := (c :: rest).takeWhile isWordChar
        (word ++ ' ' :: more, (c :: rest).drop more.length)
      else (word, ' ' :: c :: rest)
    | rest => (word, rest)
  if rest.head? = some ':' then
    let more := rest.takeWhile fun c => isWordChar c || c == ':' || c == '.' || c == '+'
    (word ++ more, rest.drop more.length)
  else (word, rest)

/-- Whether a word begins a date or time. -/
def beginsMoment (word rest : List Char) : Bool :=
  word.contains 'T' || word.contains 't'
    || ((word.drop 1).contains '-' && !word.contains 'e' && !word.contains 'E') || rest.head? == some ':'

/-- A truth value, a number, a date or a time. -/
def readWord (cs : List Char) : Option (Toml × List Char) :=
  let word := cs.takeWhile isWordChar
  let rest := cs.dropWhile isWordChar
  match word with
  | [] =>
    match cs with
    | '+' :: cs => readNumber (cs.takeWhile isWordChar) (cs.dropWhile isWordChar)
    | _ => none
  | c :: _ =>
    if word = "true".toList then some (.bool true, rest)
    else if word = "false".toList then some (.bool false, rest)
    else if word = "inf".toList ∨ word = "nan".toList then readNumber word rest
    else if c = '-' ∨ Text.isAsciiDigit c then
      if beginsMoment word rest then
        let (span, rest) := spanMoment cs
        (moment? span).map fun s => (.moment s, rest)
      else readNumber word rest
    else none

end QueryDesk.Toml
