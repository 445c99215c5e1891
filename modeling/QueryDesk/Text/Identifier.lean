/-!
# Identifiers

Names that are written into resource paths and query strings are plain ASCII identifiers.
-/

namespace QueryDesk.Text

def isAsciiLetter (c : Char) : Bool := ('a' ≤ c && c ≤ 'z') || ('A' ≤ c && c ≤ 'Z')

def isAsciiDigit (c : Char) : Bool := '0' ≤ c && c ≤ '9'

/-- What an identifier may start with. -/
def isIdentifierStart (c : Char) : Bool := isAsciiLetter c || c == '_'

/-- What an identifier may go on with. -/
def isIdentifierPart (c : Char) : Bool := isIdentifierStart c || isAsciiDigit c

/-- Whether a text is an identifier: a letter or underscore, then letters, digits and underscores. -/
def isIdentifier (s : String) : Bool :=
  match s.toList with
  | [] => false
  | c :: rest => isIdentifierStart c && rest.all isIdentifierPart

end QueryDesk.Text
