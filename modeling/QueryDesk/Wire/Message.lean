import QueryDesk.Wire.Address

/-!
# Messages on the wire

A request that is sent to an address and the reply to it. A `Peer` gives the reply, if anybody does.
-/

namespace QueryDesk.Wire

structure Request where
  method : String
  address : Address
  /-- names in lower case, with their values -/
  headers : List (String × String)
  body : String
  deriving DecidableEq, Repr

structure Reply where
  status : Nat
  body : String
  deriving DecidableEq, Repr

/-- Whoever a request reaches: their reply, or nothing where nobody is there. -/
abbrev Peer := Request → Option Reply

/-- Whether a request was granted. -/
def Reply.isSuccess (r : Reply) : Bool := 200 ≤ r.status && r.status < 300

/-- What the value of a header may hold. -/
def isHeaderValue (s : String) : Bool := s.toList.all fun c => (' ' ≤ c && c != '\x7f') || c == '\t'

/-- A request to the address in a text. The reply may be of any type unless the headers say which. An
address that is none is not given in the fault, and neither is one that the headers do not let through. -/
def Request.of (method address : String) (headers : List (String × String)) (body : String) :
    Except ConnectionFault Request := do
  let some a := Address.ofText? address | .error (.unsendable none)
  if !a.hasHost then .error (.unsendable (some a.text))
  let a := a.withoutCredentials
  if !headers.all (isHeaderValue ·.2) then .error (.unsendable none)
  if !a.isReachable then .error (.unsendable (some a.text))
  let accept := if headers.any (·.1 == "accept") then [] else [("accept", "*/*")]
  return ⟨method, a, accept ++ headers, body⟩

/-- The reply to a request, or why there is none. -/
def Peer.send (peer : Peer) (request : Except ConnectionFault Request) :
    Except Error Reply :=
  match request with
  | .error f => .error (.connection f)
  | .ok r =>
    match peer r with
    | some reply => .ok reply
    | none => .error (.connection (.unreachable r.address.text))

end QueryDesk.Wire
