import QueryDesk.Environment
import QueryDesk.Query.Json
import QueryDesk.Saved.Basic

/-!
# Operations on saved queries

Each operation is an `Action`: a sequence of atomic steps on the rows with decisions between them.
`Action.run` takes the steps one after the other; `Action.step` takes one, so that the steps of several
operations can be interleaved. A saved query belongs to its user; to others it does not exist.
-/

namespace QueryDesk

/-- What is given for a new saved query. -/
structure NewSavedQuery where
  environmentId : String
  name : String
  description : Option String
  definition : String
  deriving DecidableEq, Repr

/-- A change of a saved query. What is absent stays as it is. -/
structure SavedQueryUpdate where
  name : Option String
  description : Option String
  definition : Option String
  deriving DecidableEq, Repr

/-- A computation on the saved rows in atomic steps. -/
inductive Action (α : Type)
  | done (a : α)
  | find (id : Uuid) (next : Option SavedQuery → Action α)
  | list (userId : String) (next : List SavedQuery → Action α)
  | insert (q : SavedQuery) (next : Action α)
  | replace (q : SavedQuery) (next : Bool → Action α)
  | remove (id : Uuid) (next : Bool → Action α)

namespace Action
variable {α β : Type}

/-- Takes one step, if there is one left. -/
def step (s : SavedRows) : Action α → Option (Action α × SavedRows)
  | done _ => none
  | find id next => some (next (s.find? id), s)
  | list userId next => some (next (s.listOf userId), s)
  | insert q next => some (next, s.insert q)
  | replace q next => some (next (s.replace q).1, (s.replace q).2)
  | remove id next => some (next (s.remove id).1, (s.remove id).2)

/-- Takes all steps. -/
def run : Action α → SavedRows → α × SavedRows
  | done a, s => (a, s)
  | find id next, s => (next (s.find? id)).run s
  | list userId next, s => (next (s.listOf userId)).run s
  | insert q next, s => next.run (s.insert q)
  | replace q next, s => (next (s.replace q).1).run (s.replace q).2
  | remove id next, s => (next (s.remove id).1).run (s.remove id).2

end Action

namespace SavedQuery

/-- The failure to find a saved query. -/
def missing (id : Uuid) : Error := .notFound (.savedQuery id.print)

/-- The query of a definition. -/
def parseDefinition (definition : String) : Except Error Query :=
  (Query.ofText definition).mapError .json

/-- The query that was saved. -/
def query (q : SavedQuery) : Except Error Query := parseDefinition q.definition

/-- A saved query read over again: its definition must still be JSON. -/
def reread (q : SavedQuery) : Except Error SavedQuery :=
  ((Json.sourceText q.definition).mapError .json).map fun definition => { q with definition }

/-- A name without the blanks around it, of which something must be left. -/
def checkedName (name : String) : Except Error String :=
  let name := Text.trim name
  if name = "" then .error (.validation .blankSavedName) else .ok name

/-- Checks that a definition is a query of an environment. -/
def checkDefinition (environmentId definition : String) : Except Error Unit := do
  let q ← parseDefinition definition
  if q.environmentId = environmentId then .ok () else .error (.validation .foreignDefinition)

/-- The saved query made from what is given, under a fresh id. -/
def new (environments : EnvironmentStore) (userId : String) (id : Uuid) (now : Time) (n : NewSavedQuery) :
    Except Error SavedQuery := do
  let name ← checkedName n.name
  checkDefinition n.environmentId n.definition
  let _ ← environments.owned userId n.environmentId
  return ⟨id, userId, n.environmentId, name, n.description, n.definition, now, now⟩

/-- The saved query after a change. An empty description takes the description away. -/
def changed (q : SavedQuery) (now : Time) (u : SavedQueryUpdate) : Except Error SavedQuery := do
  let name ← match u.name with
    | some name => checkedName name
    | none => .ok q.name
  let description := match u.description with
    | some d => if d = "" then none else some d
    | none => q.description
  let definition ← match u.definition with
    | some d => do
      checkDefinition q.environmentId d
      .ok d
    | none => .ok q.definition
  return { q with name := name, description := description, definition := definition, updatedAt := now }

/-- The saved query that was found, if it is the user's. -/
def ownedBy (userId : String) (id : Uuid) (found : Option SavedQuery) : Except Error SavedQuery :=
  match found with
  | some q => if q.userId = userId then .ok q else .error (missing id)
  | none => .error (missing id)

/-- Saves a query. -/
def create (environments : EnvironmentStore) (userId : String) (id : Uuid) (now : Time)
    (n : NewSavedQuery) : Action (Except Error SavedQuery) :=
  match new environments userId id now n with
  | .error e => .done (.error e)
  | .ok q => .insert q (.done (.ok q))

/-- Gives out a saved query. -/
def get (userId : String) (id : Uuid) : Action (Except Error SavedQuery) :=
  .find id fun found => .done (ownedBy userId id found)

/-- Those of an environment, or all where none is given. -/
def inEnvironment (environmentId : Option String) (rows : List SavedQuery) : List SavedQuery :=
  match environmentId with
  | some e => rows.filter (·.environmentId == e)
  | none => rows

def lastChangedFirst (a b : SavedQuery) : Bool := b.updatedAt ≤ a.updatedAt

/-- The saved queries of a user, of one environment if that is given, the one last changed first. -/
def list (userId : String) (environmentId : Option String) : Action (List SavedQuery) :=
  .list userId fun rows => .done ((inEnvironment environmentId rows).mergeSort lastChangedFirst)

/-- Changes a saved query. -/
def update (userId : String) (id : Uuid) (now : Time) (u : SavedQueryUpdate) :
    Action (Except Error SavedQuery) :=
  .find id fun found =>
    match (ownedBy userId id found).bind (·.changed now u) with
    | .error e => .done (.error e)
    | .ok q => .replace q fun there => .done (if there then .ok q else .error (missing id))

/-- Deletes a saved query. -/
def delete (userId : String) (id : Uuid) : Action (Except Error Unit) :=
  .find id fun found =>
    match ownedBy userId id found with
    | .error e => .done (.error e)
    | .ok _ => .remove id fun there => .done (if there then .ok () else .error (missing id))

end SavedQuery

end QueryDesk
