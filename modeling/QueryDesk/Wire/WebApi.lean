import QueryDesk.Exchange
import QueryDesk.OData.Payload
import QueryDesk.Wire.SignIn

/-!
# The Web API on the wire

Reading a resource of an environment, and the remote side as a whole as it is reached over a wire.
-/

namespace QueryDesk

namespace Call

/-- The request for a resource. -/
def request (apiVersion : String) (c : Call) : Except ConnectionFault Wire.Request :=
  Wire.Request.of "GET" (c.environment.resourceUrl apiVersion c.resource)
    ([("authorization", "Bearer " ++ c.token.secret), ("odata-maxversion", "4.0"), ("odata-version", "4.0"),
      ("accept", "application/json")]
    ++ (c.prefer.map fun p => ("prefer", p)).toList)
    ""

/-- What a reply holds. -/
def ofReply (r : Wire.Reply) : Except Error Json :=
  if r.isSuccess then (Json.parse r.body).mapError .json
  else .error (.request r.status (OData.errorMessage r.body) none)

/-- Reads a resource. -/
def fetch (peer : Wire.Peer) (apiVersion : String) (c : Call) : Except Error Json := do
  ofReply (← peer.send (c.request apiVersion))

end Call

/-- The remote side behind a wire. -/
def Remote.overWire (peer : Wire.Peer) (authority apiVersion : String) : Remote where
  signIn _ e := Token.obtain peer authority e
  answer _ c := c.fetch peer apiVersion

end QueryDesk
