import QueryDesk.Json.Basic

/-!
# JSON text

The compact text of a value: no blanks, members in the order of their names, and in strings only the
quote, the backslash and the controls escaped.
-/

namespace QueryDesk

/-- Doubles keep a point, and have an exponent below `1e-5` and from `1e16` on. -/
def Number.layout : Decimal.Layout where
  positional e := -5 ≤ e && e < 16
  keepsPoint := true
  signsExponent := true
  tie := .toEven

/-- The text of a number. -/
def Number.print : Number → List Char
  | .int i => Decimal.integer i
  | .double x => layout.write x

namespace Json

/-- Four lower-case hexadecimal digits. -/
def hex4 (n : Nat) : List Char :=
  let ds := Nat.toDigits 16 n
  List.replicate (4 - ds.length) '0' ++ ds

/-- One character of a string. -/
def printChar (c : Char) : List Char :=
  if c = '"' then ['\\', '"']
  else if c = '\\' then ['\\', '\\']
  else if c = '\n' then ['\\', 'n']
  else if c = '\r' then ['\\', 'r']
  else if c = '\t' then ['\\', 't']
  else if c = '\x08' then ['\\', 'b']
  else if c = '\x0c' then ['\\', 'f']
  else if c < ' ' then '\\' :: 'u' :: hex4 c.toNat
  else [c]

/-- A string between its quotes. -/
def printText (s : String) : List Char := '"' :: (s.toList.flatMap printChar ++ ['"'])

mutual
/-- The compact text of a value. -/
def print : Json → List Char
  | .null => ['n', 'u', 'l', 'l']
  | .bool true => ['t', 'r', 'u', 'e']
  | .bool false => ['f', 'a', 'l', 's', 'e']
  | .number n => n.print
  | .text s => printText s
  | .array [] => ['[', ']']
  | .array (x :: xs) => '[' :: (print x ++ printItems xs)
  | .object [] => ['\x7b', '\x7d']
  | .object ((name, v) :: ms) => '\x7b' :: (printText name ++ ':' :: (print v ++ printMembers ms))
termination_by structural j => j

/-- The items after the first, and the closing bracket. -/
def printItems : List Json → List Char
  | [] => [']']
  | x :: xs => ',' :: (print x ++ printItems xs)
termination_by structural xs => xs

/-- The members after the first, and the closing brace. -/
def printMembers : List (String × Json) → List Char
  | [] => ['\x7d']
  | (name, v) :: ms => ',' :: (printText name ++ ':' :: (print v ++ printMembers ms))
termination_by structural ms => ms
end

/-- The compact text of a value. -/
def compact (j : Json) : String := String.ofList j.print

end Json

end QueryDesk
