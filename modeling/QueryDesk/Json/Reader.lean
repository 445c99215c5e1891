import QueryDesk.Json.Document
import QueryDesk.Text.Hex

/-!
# Reading JSON

`Document.ofText` reads a text into a document and a fault for what follows it. Strings and numerals are
read by recursion on the characters; values take the length of the text as fuel, since every step from a
value to one inside it consumes a character.
-/

namespace QueryDesk.Json

/-- The blanks of JSON. -/
def isSpace (c : Char) : Bool := c == ' ' || c == '\n' || c == '\t' || c == '\r'

def skipSpace (cs : List Char) : List Char := cs.dropWhile isSpace

/-- The first character of a stretch that is not blank. -/
def Stretch.first? (s : Stretch) : Option Char := (skipSpace s.start).head?

/-- The number written with four hexadecimal digits. -/
def hex4? (a b c d : Char) : Option Nat := Text.ofHex? [a, b, c, d]

/-- The character a one-letter escape stands for. -/
def escaped? (c : Char) : Option Char :=
  if c = '"' ∨ c = '\\' ∨ c = '/' then some c
  else if c = 'b' then some '\x08'
  else if c = 'f' then some '\x0c'
  else if c = 'n' then some '\n'
  else if c = 'r' then some '\r'
  else if c = 't' then some '\t'
  else none

def isLeading (u : Nat) : Bool := 0xD800 ≤ u && u ≤ 0xDBFF
def isTrailing (u : Nat) : Bool := 0xDC00 ≤ u && u ≤ 0xDFFF

/-- The character of a surrogate pair. -/
def surrogatePair (u v : Nat) : Char := Char.ofNat ((u - 0xD800) * 0x400 + (v - 0xDC00) + 0x10000)

/-- The fault of fewer than four digits after a number escape: four more bytes of text make it a wrong
escape, fewer the end of the text. -/
def shortEscape (cs : List Char) : Fault :=
  if (String.ofList cs).utf8ByteSize < 4 then .endInString else .invalidEscape

/-- Puts a character in front of the text read from the rest. -/
def push (c : Char) (r : Except Fault (List Char × List Char)) : Except Fault (List Char × List Char) :=
  r.map fun (s, rest) => (c :: s, rest)

/-- The text of a string up to its closing quote, and what follows the quote. -/
def readString : List Char → Except Fault (List Char × List Char)
  | [] => .error .endInString
  | '\\' :: 'u' :: a :: b :: c :: d :: rest =>
    match hex4? a b c d with
    | none => .error .invalidEscape
    | some u =>
      if isTrailing u then .error .loneSurrogate
      else if isLeading u then
        match rest with
        | '\\' :: 'u' :: a' :: b' :: c' :: d' :: rest' =>
          match hex4? a' b' c' d' with
          | none => .error .invalidEscape
          | some v =>
            if isTrailing v then push (surrogatePair u v) (readString rest') else .error .loneSurrogate
        | '\\' :: 'u' :: short => .error (shortEscape short)
        | [] | ['\\'] => .error .endInString
        | _ => .error .endOfSurrogate
      else push (Char.ofNat u) (readString rest)
  | '\\' :: 'u' :: short => .error (shortEscape short)
  | '\\' :: c :: rest =>
    match escaped? c with
    | some x => push x (readString rest)
    | none => .error .invalidEscape
  | ['\\'] => .error .endInString
  | c :: rest =>
    if c = '"' then .ok ([], rest)
    else if c < ' ' then .error .controlInString
    else push c (readString rest)
termination_by structural cs => cs

/-- What follows a string for whoever passes over it: surrogates need no partner. -/
def passString : List Char → Except Fault (List Char)
  | [] => .error .endInString
  | '\\' :: 'u' :: a :: b :: c :: d :: rest =>
    if (hex4? a b c d).isSome then passString rest else .error .invalidEscape
  | '\\' :: 'u' :: short => .error (shortEscape short)
  | '\\' :: c :: rest => if (escaped? c).isSome then passString rest else .error .invalidEscape
  | ['\\'] => .error .endInString
  | c :: rest =>
    if c = '"' then .ok rest
    else if c < ' ' then .error .controlInString
    else passString rest
termination_by structural cs => cs

/-- The value of decimal digits. -/
def ofDigits (ds : List Char) : Nat := ds.foldl (fun n d => n * 10 + (d.toNat - '0'.toNat)) 0

/-- A number as it is written. -/
structure Numeral where
  negative : Bool
  whole : List Char
  fraction : List Char
  exponent : Option Int
  deriving DecidableEq, Repr

namespace Numeral

/-- The digits taken into a significand as long as it fits in 64 bits, and the digits left over. -/
def keep (significand : Nat) : List Char → Nat × List Char
  | [] => (significand, [])
  | d :: ds =>
    let next := significand * 10 + (d.toNat - '0'.toNat)
    if next < Nat.pow 2 64 then keep next ds else (significand, d :: ds)

/-- The number a numeral stands for: an integer of the 64-bit ranges if it is written as one, otherwise a
double from the digits that fit in 64 bits, unless that is out of range. -/
def number? (n : Numeral) : Option Number :=
  let (whole, dropped) := keep 0 n.whole
  if n.fraction.isEmpty ∧ n.exponent.isNone ∧ dropped.isEmpty then
    if ¬ n.negative then some (.int whole)
    else if 0 < whole ∧ whole ≤ Nat.pow 2 63 then some (.int (-whole))
    else (Double.nearest? true whole 1).map .double
  else
    let (significand, unused) := keep whole n.fraction
    let places : Int := (n.fraction.length : Int) - unused.length
    let exponent := (dropped.length : Int) - places + n.exponent.getD 0
    (Double.scaled? n.negative significand exponent).map .double

end Numeral

/-- Digits at the front of a text, of which there must be one. -/
def readDigits (cs : List Char) : Except Fault (List Char × List Char) :=
  match cs with
  | [] => .error .endInNumber
  | c :: _ =>
    if c.isDigit then .ok (cs.takeWhile Char.isDigit, cs.dropWhile Char.isDigit)
    else .error .invalidNumber

/-- The digits in front of the point: a zero stands alone. -/
def readWhole (cs : List Char) : Except Fault (List Char × List Char) :=
  match cs with
  | '0' :: c :: rest => if c.isDigit then .error .invalidNumber else .ok (['0'], c :: rest)
  | _ => readDigits cs

/-- The digits after a point, if there is one. -/
def readFraction (cs : List Char) : Except Fault (List Char × List Char) :=
  match cs with
  | '.' :: rest => readDigits rest
  | _ => .ok ([], cs)

/-- The exponent, if there is one. -/
def readExponent (cs : List Char) : Except Fault (Option Int × List Char) :=
  match cs with
  | e :: rest =>
    if e = 'e' ∨ e = 'E' then
      match rest with
      | '-' :: ds => (readDigits ds).map fun (x, rest) => (some (-(ofDigits x : Int)), rest)
      | '+' :: ds => (readDigits ds).map fun (x, rest) => (some (ofDigits x), rest)
      | ds => (readDigits ds).map fun (x, rest) => (some (ofDigits x), rest)
    else .ok (none, cs)
  | [] => .ok (none, [])

/-- A numeral, whose first character is a minus sign or a digit. -/
def readNumeral (cs : List Char) : Except Fault (Numeral × List Char) := do
  let (negative, cs) := match cs with
    | '-' :: rest => (true, rest)
    | _ => (false, cs)
  let (whole, cs) ← readWhole cs
  let (fraction, cs) ← readFraction cs
  let (exponent, cs) ← readExponent cs
  return (⟨negative, whole, fraction, exponent⟩, cs)

/-- What follows a word such as `null`, of which the first letter has been read. -/
def readWord : List Char → List Char → Except Fault (List Char)
  | [], cs => .ok cs
  | _ :: _, [] => .error .endInValue
  | w :: word, c :: cs => if c = w then readWord word cs else .error .expectedWord

/-- A value that stops the reading. -/
def stopped (f : Fault) : Document × Option (List Char) := (.flawed f (some f), none)

def wordDocument (d : Document) (word rest : List Char) : Document × Option (List Char) :=
  match readWord word rest with
  | .ok rest => (d, some rest)
  | .error f => stopped f

def stringDocument (cs : List Char) : Document × Option (List Char) :=
  match readString cs with
  | .ok (s, rest) => (.text (String.ofList s), some rest)
  | .error f =>
    match passString cs with
    | .ok rest => (.flawed f none, some rest)
    | .error g => (.flawed f (some g), none)

def numberDocument (cs : List Char) : Document × Option (List Char) :=
  match readNumeral cs with
  | .ok (n, rest) =>
    match n.number? with
    | some x => (.number x, some rest)
    | none => (.flawed .numberOutOfRange none, some rest)
  | .error f => (.flawed f (some .invalidNumber), none)

mutual
/-- A value at the front of a text and what follows it, if the text goes on there. -/
def readValue : Nat → List Char → Document × Option (List Char)
  | 0, _ => stopped .tooDeep
  | fuel + 1, cs =>
    match skipSpace cs with
    | [] => stopped .endInValue
    | c :: rest =>
      if c = 'n' then wordDocument .null ['u', 'l', 'l'] rest
      else if c = 't' then wordDocument (.bool true) ['r', 'u', 'e'] rest
      else if c = 'f' then wordDocument (.bool false) ['a', 'l', 's', 'e'] rest
      else if c = '"' then stringDocument rest
      else if c = '-' ∨ c.isDigit then numberDocument (c :: rest)
      else if c = '[' then
        let (items, rest) := readItems fuel true rest
        (.array items, rest)
      else if c = '\x7b' then
        let (fields, rest) := readFields fuel true rest
        (.object fields, rest)
      else stopped .expectedValue
termination_by structural fuel => fuel

/-- The items up to the closing bracket; `first` holds before the first of them. -/
def readItems : Nat → Bool → List Char → Items × Option (List Char)
  | 0, _, _ => (.broken .tooDeep .tooDeep, none)
  | fuel + 1, first, cs =>
    match skipSpace cs with
    | [] => (.broken .endInList .endInList, none)
    | c :: rest =>
      if c = ']' then (.done, some rest)
      else if first then readItem fuel (c :: rest)
      else if c = ',' then
        match skipSpace rest with
        | [] => (.broken .endInValue .endInValue, none)
        | d :: rest' =>
          if d = ']' then (.broken .trailingComma .expectedValue, none) else readItem fuel (d :: rest')
      else (.broken .expectedCommaInList .expectedCommaInList, none)
termination_by structural fuel => fuel

/-- One item and those after it. -/
def readItem : Nat → List Char → Items × Option (List Char)
  | 0, _ => (.broken .tooDeep .tooDeep, none)
  | fuel + 1, cs =>
    match readValue fuel cs with
    | (v, none) => (.item (.whole cs) v .done, none)
    | (v, some rest) =>
      let (items, rest') := readItems fuel false rest
      (.item ⟨cs, rest⟩ v items, rest')
termination_by structural fuel => fuel

/-- The members up to the closing brace; `first` holds before the first of them. -/
def readFields : Nat → Bool → List Char → Fields × Option (List Char)
  | 0, _, _ => (.broken .tooDeep .tooDeep, none)
  | fuel + 1, first, cs =>
    match skipSpace cs with
    | [] => (.broken .endInObject .endInObject, none)
    | c :: rest =>
      if c = '\x7d' then (.done, some rest)
      else if first then
        if c = '"' then readField fuel rest else (.broken .keyNotString .keyNotString, none)
      else if c = ',' then
        match skipSpace rest with
        | [] => (.broken .endInValue .endInObject, none)
        | d :: rest' =>
          if d = '"' then readField fuel rest'
          else if d = '\x7d' then (.broken .trailingComma .keyNotString, none)
          else (.broken .keyNotString .keyNotString, none)
      else (.broken .expectedCommaInObject .expectedCommaInObject, none)
termination_by structural fuel => fuel

/-- One member, from behind the opening quote of its name, and those after it. -/
def readField : Nat → List Char → Fields × Option (List Char)
  | 0, _ => (.broken .tooDeep .tooDeep, none)
  | fuel + 1, cs =>
    match stringDocument cs with
    | (.text name, some rest) => readFieldValue fuel (.ok name) rest
    | (.flawed f _, some rest) => readFieldValue fuel (.error f) rest
    | (.flawed f g, none) => (.broken f (g.getD f), none)
    | _ => (.broken .keyNotString .keyNotString, none)
termination_by structural fuel => fuel

/-- The colon and the value of a member, and the members after it. -/
def readFieldValue : Nat → Except Fault String → List Char → Fields × Option (List Char)
  | 0, _, _ => (.broken .tooDeep .tooDeep, none)
  | fuel + 1, name, cs =>
    match skipSpace cs with
    | [] => (.field name (.whole []) (.flawed .endInObject (some .endInObject)) .done, none)
    | c :: rest =>
      if c = ':' then
        match readValue fuel rest with
        | (v, none) => (.field name (.whole rest) v .done, none)
        | (v, some rest') =>
          let (fields, rest'') := readFields fuel false rest'
          (.field name ⟨skipSpace rest, rest'⟩ v fields, rest'')
      else (.field name (.whole []) (.flawed .expectedColon (some .expectedColon)) .done, none)
termination_by structural fuel => fuel
end

/-- The document of a text, and the fault of what follows the value. -/
def Document.ofText (cs : List Char) : Document × Option Fault :=
  match readValue (3 * cs.length + 3) cs with
  | (d, none) => (d, none)
  | (d, some rest) => (d, if (skipSpace rest).isEmpty then none else some .trailingCharacters)

end QueryDesk.Json
