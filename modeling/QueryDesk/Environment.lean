import QueryDesk.Arrangement
import QueryDesk.Error
import QueryDesk.Json.Basic
import QueryDesk.Text.Blank

/-!
# Environments

An organisation a user has registered, with the credentials of its application. The secret is in no text
made from an environment. `EnvironmentStore` gives environments out to their owners only.
-/

namespace QueryDesk

structure Environment where
  id : String
  userId : String
  name : String
  orgUrl : String
  tenantId : String
  clientId : String
  clientSecret : String
  deriving DecidableEq, Repr, Inhabited

namespace Environment

/-- Address of the Web API, without a slash at the end. -/
def apiBase (e : Environment) (apiVersion : String) : String :=
  Text.trimEndSlashes e.orgUrl ++ "/api/data/" ++ apiVersion

/-- Address of a resource of the Web API. -/
def resourceUrl (e : Environment) (apiVersion resource : String) : String :=
  e.apiBase apiVersion ++ "/" ++ Text.trimStartSlashes resource

/-- The scope a token for the environment is asked for. -/
def scope (e : Environment) : String := Text.trimEndSlashes e.orgUrl ++ "/.default"

/-- What a client sees of an environment. -/
def toJson (e : Environment) : Json :=
  .ofMembers [("id", .text e.id), ("userId", .text e.userId), ("name", .text e.name),
    ("orgUrl", .text e.orgUrl), ("tenantId", .text e.tenantId), ("clientId", .text e.clientId)]

/-- A diagnostic text with named parts. -/
def describeAs (title : String) (parts : List (String × String)) : String :=
  title ++ " \x7b " ++ ", ".intercalate (parts.map fun (name, value) => name ++ ": " ++ value) ++ " \x7d"

/-- The diagnostic text of a registered environment. -/
def describe (e : Environment) : String :=
  describeAs "Environment"
    [("id", Text.quoted e.id), ("user_id", Text.quoted e.userId), ("name", Text.quoted e.name),
      ("org_url", Text.quoted e.orgUrl), ("client_id", Text.quoted e.clientId),
      ("client_secret", Text.quoted "<redacted>")]

/-- The diagnostic text of an environment as it is configured. -/
def describeSeed (e : Environment) : String :=
  describeAs "EnvironmentConfig"
    [("id", Text.quoted e.id), ("user_id", Text.quoted e.userId), ("name", Text.quoted e.name),
      ("org_url", Text.quoted e.orgUrl), ("tenant_id", Text.quoted e.tenantId),
      ("client_id", Text.quoted e.clientId), ("client_secret", Text.quoted "<redacted>")]

end Environment

/-- The registered environments, one for each id, in the order in which a walk of all of them comes to them. -/
structure EnvironmentStore where
  entries : List Environment
  deriving Repr, Inhabited

namespace EnvironmentStore

def empty : EnvironmentStore := ⟨[]⟩

/-- Registers an environment, in place of the one with its id. -/
def insert (s : EnvironmentStore) (e : Environment) : EnvironmentStore :=
  ⟨e :: s.entries.filter (·.id != e.id)⟩

/-- A store with the environments of a list, of which a later one replaces an earlier one. -/
def ofList (es : List Environment) : EnvironmentStore := es.foldl insert empty

/-- The environment of an id, if the user owns it. A foreign one is not told from a missing one. -/
def owned (s : EnvironmentStore) (userId id : String) : Except Error Environment :=
  match s.entries.find? (·.id == id) with
  | some e => if e.userId = userId then .ok e else .error (.notFound (.environment id))
  | none => .error (.notFound (.environment id))

/-- The store when it is walked in an order of the ids. -/
def walked (s : EnvironmentStore) (order : Arrangement String) : EnvironmentStore :=
  ⟨order.arrange (·.id) s.entries⟩

/-- The environments of a user in the order of their names. Those of one name come as they are walked. -/
def listFor (s : EnvironmentStore) (userId : String) : List Environment :=
  (s.entries.filter (·.userId == userId)).mergeSort fun a b => a.name ≤ b.name

end EnvironmentStore

end QueryDesk
