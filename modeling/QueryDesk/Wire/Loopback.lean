import QueryDesk.Wire.Ip

/-!
# The loopback interface

What comes of listening at a host on a computer that has no network but itself, where another program
listens at the same number on `127.0.0.1`.
-/

namespace QueryDesk.Wire

/-- Why nobody can listen at a host. -/
inductive ListenFault
  | taken
  | elsewhere
  /-- a name that nobody can be asked about -/
  | unresolved
  | notAName
  deriving DecidableEq, Repr

def ListenFault.message : ListenFault → String
  | .taken => "Address already in use (os error 98)"
  | .elsewhere => "Cannot assign requested address (os error 99)"
  | .unresolved => "failed to lookup address information: Temporary failure in name resolution"
  | .notAName => "failed to lookup address information: Name or service not known"

namespace Loopback

/-- What hinders listening at an address. One may listen for a group or for everybody without being there. -/
def faultAt (a : Ipv4) : Option ListenFault :=
  let n := a.number.toNat
  if n = 0x7F000001 ∨ n = 0 then some .taken
  else if n / 0x1000000 = 0x7F ∨ n / 0x10000000 = 0xE ∨ n = 0xFFFFFFFF then none
  else some .elsewhere

/-- The same for version 6, of which this computer has one address. -/
def faultAt6 (a : Ipv6) : Option ListenFault :=
  if a.groups = List.replicate 8 0 then some .taken
  else if a.groups = List.replicate 7 0 ++ [1] then none
  else some .elsewhere

/-- Whether a name can be looked up. -/
def isName (cs : List Char) : Bool :=
  cs ≠ [] && cs.head? != some '-'
    && cs.all fun c => Text.isAsciiLetter c || Text.isAsciiDigit c || c == '-' || c == '_' || c == '.'

/-- What hinders listening at a host. -/
def fault (host : String) : Option ListenFault :=
  let cs := host.toList
  match Ipv4.ofText? cs, Ipv6.ofText? cs with
  | some a, _ => faultAt a
  | none, some a => faultAt6 a
  | none, none =>
    if host = "localhost" then some .taken else if isName cs then some .unresolved else some .notAName

end Loopback

end QueryDesk.Wire
