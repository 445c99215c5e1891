/-!
# White space

The characters with the White_Space property, and trimming by a class of characters. Trimming works on
`List Char`; the functions on `String` wrap it.
-/

namespace QueryDesk.Text

/-- The characters with the White_Space property of Unicode. -/
def isBlank (c : Char) : Bool :=
  let n := c.toNat
  (9 ≤ n && n ≤ 13) || n == 0x20 || n == 0x85 || n == 0xA0 || n == 0x1680 || (0x2000 ≤ n && n ≤ 0x200A)
    || n == 0x2028 || n == 0x2029 || n == 0x202F || n == 0x205F || n == 0x3000

/-- The list without its last characters that satisfy `p`. -/
def dropEndWhile (p : Char → Bool) (cs : List Char) : List Char := (cs.reverse.dropWhile p).reverse

/-- The list without the characters that satisfy `p` at either end. -/
def trimWhile (p : Char → Bool) (cs : List Char) : List Char := dropEndWhile p (cs.dropWhile p)

/-- The text without white space at either end. -/
def trim (s : String) : String := String.ofList (trimWhile isBlank s.toList)

/-- Whether a text holds nothing but white space. -/
def isBlankText (s : String) : Bool := s.toList.all isBlank

/-- The text without the slashes at its end. -/
def trimEndSlashes (s : String) : String := String.ofList (dropEndWhile (· == '/') s.toList)

/-- The text without the slashes at its start. -/
def trimStartSlashes (s : String) : String := String.ofList (s.toList.dropWhile (· == '/'))

end QueryDesk.Text
