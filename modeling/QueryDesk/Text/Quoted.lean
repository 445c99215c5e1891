import QueryDesk.Text.Unprintable

/-!
# Quoted text for people

A text between double quotes with everything a reader could not see or could misread written as an
escape. It is the form in which messages and diagnostic texts show a string.
-/

namespace QueryDesk.Text

/-- Lower-case hexadecimal digits of a number. -/
def hex (n : Nat) : List Char := Nat.toDigits 16 n

/-- One character of a quoted text. -/
def quotedChar (c : Char) : List Char :=
  if c = '"' then ['\\', '"']
  else if c = '\\' then ['\\', '\\']
  else if c = '\n' then ['\\', 'n']
  else if c = '\r' then ['\\', 'r']
  else if c = '\t' then ['\\', 't']
  else if c = '\x00' then ['\\', '0']
  else if isUnprintable c then '\\' :: 'u' :: '\x7b' :: (hex c.toNat ++ ['\x7d'])
  else [c]

/-- The text between double quotes. -/
def quoted (s : String) : String := String.ofList ('"' :: (s.toList.flatMap quotedChar ++ ['"']))

end QueryDesk.Text
