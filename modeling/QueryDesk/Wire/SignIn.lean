import QueryDesk.Json.Decoder
import QueryDesk.Token
import QueryDesk.Wire.Message

/-!
# Signing in

A token is obtained from the authority of an environment's tenant with the credentials of the application.
-/

namespace QueryDesk

open Json (Record Decoder)

/-- Where the tenants of an authority obtain tokens. -/
def tokenEndpoint (authority tenantId : String) : String :=
  Text.trimEndSlashes authority ++ "/" ++ tenantId ++ "/oauth2/v2.0/token"

namespace Token

/-- The form that asks for a token. -/
def form (e : Environment) : String :=
  Text.formText
    [("grant_type", "client_credentials"), ("client_id", e.clientId), ("client_secret", e.clientSecret),
      ("scope", e.scope)]

/-- The request for a token. -/
def request (authority : String) (e : Environment) : Except ConnectionFault Wire.Request :=
  Wire.Request.of "POST" (tokenEndpoint authority e.tenantId) [("content-type", "application/x-www-form-urlencoded")]
    (form e)

def decoder : Decoder Token :=
  Record.decoder "TokenResponse" <|
    Token.mk <$> .field "access_token" .text <*> .optional "expires_in" .nat64

/-- The code and the description of a refusal. -/
def refusal : Decoder (Option String × Option String) :=
  Record.decoder "TokenError" <|
    Prod.mk <$> .optional "error" .text <*> .optional "error_description" .text

/-- What is said of a refusal: its description, or else its code. -/
def refusalMessage (body : String) : String :=
  match Json.decodeText refusal body with
  | .ok (_, some description) => description
  | .ok (some code, none) => code
  | _ => "token endpoint returned an unreadable response"

/-- The token in a reply. -/
def ofReply (r : Wire.Reply) : Except Error Token :=
  if r.isSuccess then
    (Json.decodeText decoder r.body).mapError fun _ =>
      .signIn r.status "token response did not contain an access_token"
  else .error (.signIn r.status (refusalMessage r.body))

/-- Obtains a token. -/
def obtain (peer : Wire.Peer) (authority : String) (e : Environment) : Except Error Token := do
  ofReply (← peer.send (request authority e))

end Token

end QueryDesk
