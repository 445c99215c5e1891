import QueryDesk.Text.Identifier

/-!
# Punycode

A text is written in ASCII: first its ASCII characters, a hyphen, and then the others as numbers that say
how far to go through the characters and places to the next one. A number is written with digits of a
changing base, the least first; `bias` sets the bases and follows the numbers seen so far.
-/

namespace QueryDesk.Text.Punycode

/-- The digit with a value below 36. -/
def digit (d : Nat) : Char := if d < 26 then Char.ofNat (0x61 + d) else Char.ofNat (0x30 + d - 26)

/-- The value of a digit of either case. -/
def value? (c : Char) : Option Nat :=
  if isAsciiDigit c then some (c.toNat - 0x30 + 26)
  else if isAsciiLetter c then some (c.toLower.toNat - 0x61)
  else none

/-- The least digit that does not end a number, `k` being 36 for the first digit, 72 for the next and so
on. -/
def threshold (k bias : Nat) : Nat := if k ≤ bias then 1 else if bias + 26 ≤ k then 26 else k - bias

/-- Halves the distance between bases as long as numbers are large. -/
def settle : Nat → Nat → Nat → Nat
  | 0, _, k => k
  | fuel + 1, delta, k => if 455 < delta then settle fuel (delta / 35) (k + 36) else k + 36 * delta / (delta + 38)

/-- The bias after a number, which was the `count`-th. -/
def adapt (delta count : Nat) (first : Bool) : Nat :=
  let delta := if first then delta / 700 else delta / 2
  settle 16 (delta + delta / count) 0

/-- A number in digits. The fuel bounds how many there are. -/
def encodeNumber (bias : Nat) : Nat → Nat → Nat → List Char
  | 0, _, _ => []
  | fuel + 1, k, n =>
    let t := threshold k bias
    if n < t then [digit n] else digit (t + (n - t) % (36 - t)) :: encodeNumber bias fuel (k + 36) ((n - t) / (36 - t))

/-- How far encoding has come. -/
structure Progress where
  written : List Char
  delta : Nat
  bias : Nat
  count : Nat

/-- Goes over one character of the text while the characters `next` are written. -/
def visit (basic next : Nat) (p : Progress) (c : Char) : Progress :=
  if c.toNat < next then { p with delta := p.delta + 1 }
  else if c.toNat = next then
    { written := p.written ++ encodeNumber p.bias 32 36 p.delta
      delta := 0
      bias := adapt p.delta (p.count + 1) (p.count = basic)
      count := p.count + 1 }
  else p

/-- Writes the given characters, which are in order, behind the number `from_`. -/
def encodeFrom (text : List Char) (basic : Nat) : List Nat → Nat → Progress → List Char
  | [], _, p => p.written
  | next :: rest, from_, p =>
    let p := text.foldl (visit basic next) { p with delta := p.delta + (next - from_) * (p.count + 1) }
    encodeFrom text basic rest (next + 1) { p with delta := p.delta + 1 }

/-- The text in ASCII. -/
def encode (text : List Char) : List Char :=
  let basic := text.filter (·.toNat < 0x80)
  let others := (text.map Char.toNat).filter (0x80 ≤ ·)
  let rest := encodeFrom text basic.length (others.mergeSort (· ≤ ·)).eraseDups 0x80 ⟨[], 0, 72, basic.length⟩
  basic ++ (if basic.isEmpty then rest else '-' :: rest)

/-- A number at the front of digits, added to `i`; the next digit counts `weight`. -/
def decodeNumber (bias : Nat) : List Char → Nat → Nat → Nat → Option (Nat × List Char)
  | [], _, _, _ => none
  | c :: rest, k, weight, i => do
    let d ← value? c
    let t := threshold k bias
    if d < t then return (i + d * weight, rest) else decodeNumber bias rest (k + 36) (weight * (36 - t)) (i + d * weight)

/-- Puts the characters of numbers into a text. The fuel bounds how many there are. -/
def decodeInto (text : List Char) (next i bias : Nat) : Nat → List Char → Option (List Char)
  | _, [] => some text
  | 0, _ :: _ => none
  | fuel + 1, c :: rest => do
    let (j, rest) ← decodeNumber bias (c :: rest) 36 1 i
    let size := text.length + 1
    let n := next + j / size
    let place := j % size
    if n < 0x110000 ∧ ¬ (0xD800 ≤ n ∧ n < 0xE000) then
      decodeInto (text.take place ++ Char.ofNat n :: text.drop place) n (place + 1) (adapt (j - i) size (i = 0)) fuel rest
    else none

/-- The text that is written in ASCII. -/
def decode? (cs : List Char) : Option (List Char) :=
  let rest := (cs.reverse.takeWhile (· != '-')).reverse
  let basic := cs.take (cs.length - rest.length - 1)
  let basic := if rest.length = cs.length then [] else basic
  decodeInto basic 0x80 0 72 rest.length rest

end QueryDesk.Text.Punycode
