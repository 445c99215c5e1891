/-!
# Literals and parameters

A text literal stands between single quotes with the quotes inside it doubled. A parameter value has the
four characters escaped that would end it or be read as an escape or a blank.
-/

namespace QueryDesk.OData

/-- Doubles the single quotes. -/
def doubleQuotes (cs : List Char) : List Char :=
  cs.flatMap fun c => if c = '\'' then ['\'', '\''] else [c]

def escapeLiteral (s : String) : String := String.ofList (doubleQuotes s.toList)

/-- The literal of a text. -/
def quoteLiteral (s : String) : String := String.ofList ('\'' :: (doubleQuotes s.toList ++ ['\'']))

/-- One character of a parameter value. -/
def encodeChar (c : Char) : List Char :=
  if c = '%' then ['%', '2', '5']
  else if c = '&' then ['%', '2', '6']
  else if c = '#' then ['%', '2', '3']
  else if c = '+' then ['%', '2', 'B']
  else [c]

/-- The text of a parameter value. -/
def encodeParam (s : String) : String := String.ofList (s.toList.flatMap encodeChar)

end QueryDesk.OData
