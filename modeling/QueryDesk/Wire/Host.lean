import QueryDesk.Wire.DomainName
import QueryDesk.Wire.Ip

/-!
# Hosts

Who is asked: a name or a number. Hosts on the web are looked up, so their names are brought into the form
in which that is done; elsewhere a name is taken as it is.
-/

namespace QueryDesk.Wire

inductive Host
  | name (s : String)
  | ipv4 (a : Ipv4)
  | ipv6 (a : Ipv6)
  deriving DecidableEq, Repr

namespace Host

/-- The host that is nobody. -/
def nobody : Host := .name ""

def text : Host → String
  | .name s => s
  | .ipv4 a => a.text
  | .ipv6 a => "[" ++ a.text ++ "]"

/-- The number in brackets. -/
def bracketed? (cs : List Char) : Option Host :=
  if cs.getLast? = some ']' then (Ipv6.ofText? (cs.drop 1).dropLast).map .ipv6 else none

/-- The host of a text. Bytes of a name may be percent-encoded. -/
def ofText? (cs : List Char) : Option Host :=
  if cs.head? = some '[' then bracketed? cs
  else do
    let name ← DomainName.toAscii? (← Text.ofUtf8? (Text.percentDecode (Text.utf8 cs)))
    if name = [] then none
    else if Ipv4.isMeant name then (Ipv4.ofText? name).map .ipv4
    else return .name (String.ofList name)

/-- Whether a character may not stand in a name that is taken as it is. -/
def isDenied (c : Char) : Bool := "\x00\t\n\r #/:<>?@[\\]^|".toList.contains c

/-- Whether a character is a visible one of ASCII or a blank. -/
def isPlain (c : Char) : Bool := ' ' ≤ c && c ≤ '~'

/-- The host of a text of which the name is taken as it is. -/
def ofRawText? (cs : List Char) : Option Host :=
  if cs.head? = some '[' then bracketed? cs
  else if cs.any isDenied then none
  else some (.name (String.ofList (Text.percentEncode isPlain cs)))

end Host

end QueryDesk.Wire
