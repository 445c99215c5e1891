import QueryDesk.Text.Hex
import QueryDesk.Text.Identifier
import QueryDesk.Text.Utf8

/-!
# Percent-encoding

In an address a byte may be written as a percent sign and two hexadecimal digits. Decoding leaves a percent
sign alone that no two digits follow. Forms are pairs of names and values in which a plus sign stands for a
blank.
-/

namespace QueryDesk.Text

/-- The value of a hexadecimal digit that is written as a byte. -/
def hexByte? (b : UInt8) : Option UInt8 := (hexValue? (Char.ofNat b.toNat)).map UInt8.ofNat

/-- Undoes percent-encoding. -/
def percentDecode : List UInt8 → List UInt8
  | 0x25 :: a :: b :: rest =>
    match hexByte? a, hexByte? b with
    | some x, some y => (x * 16 + y) :: percentDecode rest
    | _, _ => 0x25 :: percentDecode (a :: b :: rest)
  | b :: rest => b :: percentDecode rest
  | [] => []
termination_by bytes => bytes.length

/-- An upper-case hexadecimal digit. -/
def upperHex (n : Nat) : Char := (Nat.digitChar n).toUpper

/-- A byte as a percent sign and two digits. -/
def percentByte (b : UInt8) : List Char := ['%', upperHex (b.toNat / 16), upperHex (b.toNat % 16)]

/-- Percent-encodes the characters that are not to be kept. -/
def percentEncode (keep : Char → Bool) (cs : List Char) : List Char :=
  cs.flatMap fun c => if keep c then [c] else (String.utf8EncodeChar c).flatMap percentByte

/-- A part of a path as it was meant, if it is text at all. -/
def decodeSegment? (cs : List Char) : Option String :=
  (ofUtf8? (percentDecode (utf8 cs))).map String.ofList

/-- The parts of a text between separators, of which there is at least one. -/
def splitAt (separator : Char) : List Char → List (List Char)
  | [] => [[]]
  | c :: rest =>
    if c = separator then [] :: splitAt separator rest
    else match splitAt separator rest with
      | part :: parts => (c :: part) :: parts
      | [] => [[c]]

/-- A name or value of a form as it was meant. -/
def decodeFormText (cs : List Char) : String :=
  String.ofList (ofUtf8Lossy (percentDecode (utf8 (cs.map fun c => if c = '+' then ' ' else c))))

/-- The names and values of a form. -/
def formPairs (cs : List Char) : List (String × String) :=
  ((splitAt '&' cs).filter (!·.isEmpty)).map fun pair =>
    (decodeFormText (pair.takeWhile (· != '=')), decodeFormText ((pair.dropWhile (· != '=')).drop 1))

/-- What a form keeps as it is. -/
def isFormChar (c : Char) : Bool :=
  isAsciiLetter c || isAsciiDigit c || c == '*' || c == '-' || c == '.' || c == '_'

/-- A name or value of a form as it is sent. -/
def encodeFormText (s : String) : List Char :=
  (percentEncode (fun c => isFormChar c || c == ' ') s.toList).map fun c => if c = ' ' then '+' else c

/-- The text of a form. -/
def formText (pairs : List (String × String)) : String :=
  "&".intercalate (pairs.map fun (name, value) =>
    String.ofList (encodeFormText name ++ '=' :: encodeFormText value))

end QueryDesk.Text
