import QueryDesk.Web.Request

/-!
# Paths

The places of the service. A place is found by the segments of a path as they are written; only the
segments that name something are decoded.
-/

namespace QueryDesk.Web

/-- A place of the service. -/
inductive Place
  | environments
  | entities (environment : String)
  | entity (environment name : String)
  | attributes (environment name : String)
  | relationships (environment name : String)
  | describe (environment : String)
  | execute
  | export
  | savedQueries
  | savedQuery (id : String)
  deriving DecidableEq, Repr

namespace Place

/-- The place of a path in segments. A name at the end of a path is not empty. -/
def ofSegments? : List String → Option Place
  | ["", "api", "environments"] => some environments
  | ["", "api", "environments", e, "entities"] => some (entities e)
  | ["", "api", "environments", e, "entities", n] => if n = "" then none else some (entity e n)
  | ["", "api", "environments", e, "entities", n, "attributes"] => some (attributes e n)
  | ["", "api", "environments", e, "entities", n, "relationships"] => some (relationships e n)
  | ["", "api", "environments", e, "metadata", "describe"] => some (describe e)
  | ["", "api", "query", "execute"] => some execute
  | ["", "api", "query", "export"] => some .export
  | ["", "api", "saved-queries"] => some savedQueries
  | ["", "api", "saved-queries", id] => if id = "" then none else some (savedQuery id)
  | _ => none

/-- The place of a path. -/
def ofPath? (path : String) : Option Place :=
  ofSegments? ((Text.splitAt '/' path.toList).map String.ofList)

/-- The place with what it names decoded, if that is text. -/
def decode? : Place → Option Place
  | entities e => return entities (← name? e)
  | entity e n => return entity (← name? e) (← name? n)
  | attributes e n => return attributes (← name? e) (← name? n)
  | relationships e n => return relationships (← name? e) (← name? n)
  | describe e => return describe (← name? e)
  | savedQuery id => return savedQuery (← name? id)
  | p => some p
where
  name? (s : String) : Option String := Text.decodeSegment? s.toList

/-- The methods a place answers to. -/
def methods : Place → List Method
  | environments | entities _ | entity _ _ | attributes _ _ | relationships _ _ => [.get, .head]
  | describe _ | execute | .export => [.post]
  | savedQueries => [.get, .head, .post]
  | savedQuery _ => [.get, .head, .put, .delete]

end Place

end QueryDesk.Web
