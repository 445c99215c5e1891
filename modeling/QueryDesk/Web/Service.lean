import QueryDesk.Export
import QueryDesk.Metadata.Gateway
import QueryDesk.Settings.Basic
import QueryDesk.Web.Response

/-!
# The service

`Service.answer` answers one request. What it needs from outside is given to it: the remote side, an id and
a point in time that are used if a saved query is created or changed. Its state is the saved queries and the
log of what was asked of the remote side.

In which order a walk of all environments or saved queries comes to them is not for the service to say: it can be
another one for each request. A `Walk` is such an order, and `Service.answerAllAlong` is told one for each request.
-/

namespace QueryDesk.Web

structure Service where
  environments : EnvironmentStore
  remote : Remote
  paging : PageOptions
  exporting : ExportOptions

structure ServiceState where
  saved : SavedRows
  log : Log
  deriving Repr

/-- The orders of the ids in which a walk comes to the environments and to the saved queries. -/
structure Walk where
  environments : Arrangement String
  savedQueries : Arrangement Uuid

namespace ServiceState

/-- A service that nobody has asked for anything. -/
def start : ServiceState := ⟨.empty, []⟩

/-- Runs an exchange, which adds to the log. -/
def exchange {α : Type} (s : ServiceState) (x : Exchange α) : Except Error α × ServiceState :=
  let (r, log) := x.runFrom s.log
  (r, { s with log := log })

/-- Runs an action on the saved queries. -/
def act {α : Type} (s : ServiceState) (a : Action α) : α × ServiceState :=
  let (r, saved) := a.run s.saved
  (r, { s with saved := saved })

def walking (s : ServiceState) (w : Walk) : ServiceState := { s with saved := s.saved.walked w.savedQueries }

end ServiceState

namespace Yield

/-- Several things as data. -/
def list {α : Type} (toJson : α → Json) (xs : List α) : Yield := .data (Json.array (xs.map toJson)).compact

def page (p : ResultPage) : Yield := .data p.toJson.compact

def saved (q : SavedQuery) : Yield := .data q.jsonText

def savedList (qs : List SavedQuery) : Yield := .data (Json.arrayText (qs.map SavedQuery.jsonText))

/-- No data. -/
def nothing : Yield := .data "null"

end Yield

namespace Service

/-- What a user learns from a session with an environment. -/
def within {α : Type} (s : Service) (user environment : String) (ask : Session → Exchange α) : Exchange α := do
  ask (← Session.connect s.remote s.environments user environment)

/-- Runs a query; what is not said about the page is configured. -/
def execute (s : Service) (user : String) (r : ExecuteRequest) : Exchange ResultPage :=
  QueryDesk.execute s.remote s.environments user r.query (r.page.getD 1)
    (r.pageSize.getD s.paging.defaultSize) r.countOnly s.paging.maxSize

def describe (s : Service) (user environment : String) (names : List String) :
    Exchange (List EntityAttributes) :=
  if names.isEmpty then throw (.invalidInput "entities must not be empty")
  else s.within user environment (·.describe names)

/-- Carries out an order of a user. -/
def perform (s : Service) (user : String) (fresh : Uuid) (now : Time) (order : Order)
    (state : ServiceState) : Except Error Yield × ServiceState :=
  match order with
  | .environments => (.ok (.list Environment.toJson (s.environments.listFor user)), state)
  | .entities e => state.exchange (.list EntityInfo.toJson <$> s.within user e Session.entities)
  | .entity e n => state.exchange ((.data ·.toJson.compact) <$> s.within user e (·.entity n))
  | .attributes e n => state.exchange (.list AttributeInfo.toJson <$> s.within user e (·.attributes n))
  | .relationships e n =>
    state.exchange (.list RelationshipInfo.toJson <$> s.within user e (·.relationships n))
  | .describe e names => state.exchange (.list EntityAttributes.toJson <$> s.describe user e names)
  | .execute r => state.exchange (.page <$> s.execute user r)
  | .export q =>
    state.exchange (.workbook q.exportName <$> s.exporting.workbook s.remote s.environments user q)
  | .listSaved e => (state.act (SavedQuery.list user e)).map (.ok ∘ .savedList) id
  | .createSaved new =>
    (state.act (SavedQuery.create s.environments user fresh now new)).map (·.map .saved) id
  | .getSaved i => (state.act (SavedQuery.get user i)).map (·.map .saved) id
  | .updateSaved i u => (state.act (SavedQuery.update user i now u)).map (·.map .saved) id
  | .deleteSaved i => (state.act (SavedQuery.delete user i)).map (·.map fun _ => .nothing) id

/-- Answers a request. To a question about the head alone the body is left out. -/
def answer (s : Service) (fresh : Uuid) (now : Time) (r : Request) (state : ServiceState) :
    Response × ServiceState :=
  let (response, state) := match r.order with
    | .error refusal => (Response.ofRefusal refusal, state)
    | .ok (user, order) => (s.perform user fresh now order state).map Response.ofOutcome id
  (if r.method = .head then response.withoutBody else response, state)

/-- Answers requests one after the other, each with its own id and point in time. -/
def answerAll (s : Service) : List (Uuid × Time × Request) → ServiceState → List Response × ServiceState
  | [], state => ([], state)
  | (fresh, now, r) :: rest, state =>
    let (response, state) := s.answer fresh now r state
    let (responses, state) := s.answerAll rest state
    (response :: responses, state)

def walking (s : Service) (w : Walk) : Service := { s with environments := s.environments.walked w.environments }

/-- Answers a request while everything is walked in a certain order. -/
def answerAlong (s : Service) (w : Walk) (fresh : Uuid) (now : Time) (r : Request) (state : ServiceState) :
    Response × ServiceState :=
  (s.walking w).answer fresh now r (state.walking w)

/-- Answers requests one after the other, each along the walk for its own id. -/
def answerAllAlong (s : Service) (walks : Uuid → Walk) :
    List (Uuid × Time × Request) → ServiceState → List Response × ServiceState
  | [], state => ([], state)
  | (fresh, now, r) :: rest, state =>
    let (response, state) := s.answerAlong (walks fresh) fresh now r state
    let (responses, state) := s.answerAllAlong walks rest state
    (response :: responses, state)

end Service

end QueryDesk.Web
