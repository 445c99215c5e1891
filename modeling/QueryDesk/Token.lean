import QueryDesk.Environment

/-!
# Access tokens
-/

namespace QueryDesk

/-- A bearer token for one environment. -/
structure Token where
  secret : String
  /-- seconds until it expires, when that was said -/
  expiresIn : Option Nat
  deriving DecidableEq, Repr, Inhabited

/-- The diagnostic text of a token, which does not hold the secret. -/
def Token.describe (t : Token) : String :=
  Environment.describeAs "AccessToken"
    [("secret", Text.quoted "<redacted>"),
      ("expires_in", match t.expiresIn with
        | some n => "Some(" ++ toString n ++ ")"
        | none => "None")]

end QueryDesk
