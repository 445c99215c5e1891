import QueryDesk.Grid
import QueryDesk.Metadata.Gateway
import QueryDesk.OData.Options
import QueryDesk.OData.Prefer
import QueryDesk.Query.Validation

/-!
# Running queries

A query is checked, a session is opened with its environment, the entity set is looked up, and one data
request is made, whose records become rows. Each stage runs only if the ones before it succeed.
-/

namespace QueryDesk

/-- Sends the data request for a page. Its refusal names the query. -/
def Session.data (s : Session) (q : Query) (page pageSize : Nat) (countOnly : Bool) (entitySet : String) :
    Exchange Json :=
  let compiled := q.compile page pageSize countOnly
  Exchange.mapError (Error.withQuery compiled)
    (s.get (entitySet ++ compiled) (some (OData.preference pageSize)))

/-- The page of results in a payload. -/
def Query.resultPage (q : Query) (page pageSize : Nat) (payload : Json) : ResultPage :=
  let records := OData.records payload
  { columns := q.columns
    rows := q.rows records
    totalCount := OData.totalCount payload
    page := page
    pageSize := pageSize
    hasMore := records.length == pageSize }

/-- Runs a query for a user, with the largest page size that is allowed. -/
def execute (remote : Remote) (environments : EnvironmentStore) (userId : String) (q : Query)
    (page pageSize : Nat) (countOnly : Bool) (maxPageSize : Nat) : Exchange ResultPage := do
  Exchange.ofExcept (q.validate.mapError .validation)
  Exchange.ofExcept ((validatePage page pageSize maxPageSize).mapError .validation)
  let s ← Session.connect remote environments userId q.environmentId
  let entitySet ← s.entitySetName q.primaryEntity
  let payload ← s.data q page pageSize countOnly entitySet
  return q.resultPage page pageSize payload

end QueryDesk
