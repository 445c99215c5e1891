import QueryDesk.Query.Json
import QueryDesk.Saved.Store
import QueryDesk.Web.Path

/-!
# Orders

An `Order` is what a request asks for, with everything in it decoded. `Request.order` reads it together
with the user; what cannot be read is turned down with a `Refusal`, of which the first that applies is
given: no such place, wrong method, no user, path, query string, media type, body.
-/

namespace QueryDesk

open Json (Record Decoder)

/-- A query to run, with the page that is wanted. -/
structure ExecuteRequest where
  query : Query
  page : Option Nat
  pageSize : Option Nat
  countOnly : Bool
  deriving Repr

def ExecuteRequest.decoder : Decoder ExecuteRequest :=
  Record.decoder "ExecuteQueryRequest" <|
    ExecuteRequest.mk <$> .field "query" Query.decoder <*> .optionalNamed "page" .nat32
      <*> .optionalNamed "pageSize" .nat32 <*> .fieldOr "countOnly" .bool false

def exportRequest : Decoder Query := Record.decoder "ExportRequest" (.field "query" Query.decoder)

def describeRequest : Decoder (List String) :=
  Record.decoder "DescribeRequest" (.field "entities" (.list .text))

def NewSavedQuery.decoder : Decoder NewSavedQuery :=
  Record.decoder "NewSavedQuery" <|
    NewSavedQuery.mk <$> .field "environmentId" .text <*> .field "name" .text
      <*> .optional "description" .text <*> .field "definition" .source

def SavedQueryUpdate.decoder : Decoder SavedQueryUpdate :=
  Record.decoder "SavedQueryUpdate" <|
    SavedQueryUpdate.mk <$> .optional "name" .text <*> .optional "description" .text
      <*> .optional "definition" .source

namespace Web

/-- Something the service is asked to do. -/
inductive Order
  | environments
  | entities (environment : String)
  | entity (environment name : String)
  | attributes (environment name : String)
  | relationships (environment name : String)
  | describe (environment : String) (names : List String)
  | execute (r : ExecuteRequest)
  | export (query : Query)
  | listSaved (environment : Option String)
  | createSaved (new : NewSavedQuery)
  | getSaved (id : Uuid)
  | updateSaved (id : Uuid) (update : SavedQueryUpdate)
  | deleteSaved (id : Uuid)
  deriving Repr

/-- Why a request is turned down before it is looked into. -/
inductive Refusal
  | noSuchPlace
  | wrongMethod
  | noUser
  | badPath
  | badQuery
  | notJson
  /-- a body that is not JSON -/
  | badSyntax
  /-- a body with the wrong JSON -/
  | badContent
  deriving DecidableEq, Repr

namespace Request

/-- The body, decoded. -/
def decodeBody {α : Type} (r : Request) (decoder : Decoder α) : Except Refusal α :=
  if r.isJson then
    match Json.decodeText decoder r.body with
    | .ok a => .ok a
    | .error e => .error (if e.isSyntax then .badSyntax else .badContent)
  else .error .notJson

/-- The parameter of a name in the query string, which may be given once. -/
def parameter? (r : Request) (name : String) : Except Refusal (Option String) :=
  match (Text.formPairs (r.query.getD "").toList).filter (·.1 == name) with
  | [] => .ok none
  | [(_, value)] => .ok (some value)
  | _ => .error .badQuery

def savedId (text : String) : Except Refusal Uuid :=
  match Uuid.parse? text with
  | some id => .ok id
  | none => .error .badPath

/-- What is asked for at a place. -/
def orderAt (r : Request) : Place → Except Refusal Order
  | .environments => return .environments
  | .entities e => return .entities e
  | .entity e n => return .entity e n
  | .attributes e n => return .attributes e n
  | .relationships e n => return .relationships e n
  | .describe e => return .describe e (← r.decodeBody describeRequest)
  | .execute => return .execute (← r.decodeBody ExecuteRequest.decoder)
  | .export => return .export (← r.decodeBody exportRequest)
  | .savedQueries =>
    if r.method = .post then return .createSaved (← r.decodeBody NewSavedQuery.decoder)
    else return .listSaved (← r.parameter? "environmentId")
  | .savedQuery text => do
    let id ← savedId text
    if r.method = .put then return .updateSaved id (← r.decodeBody SavedQueryUpdate.decoder)
    else if r.method = .delete then return .deleteSaved id
    else return .getSaved id

/-- The user and what the user asks for. -/
def order (r : Request) : Except Refusal (String × Order) := do
  let some place := Place.ofPath? r.path | .error .noSuchPlace
  if r.method ∉ place.methods then .error .wrongMethod
  let some user := r.user? | .error .noUser
  let some place := place.decode? | .error .badPath
  return (user, ← r.orderAt place)

end Request

end Web

end QueryDesk
