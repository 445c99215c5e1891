import QueryDesk.Json.Basic

/-!
# Queries

A `Query` is what a user puts together: one primary entity, the fields to fetch from it and from joined
entities, filters, sorts and a row cap. Entities are referred to by aliases. `Query.joinPath` is the
chain of joins from the primary entity to an alias; it is defined for every join graph, cyclic ones
included.
-/

namespace QueryDesk

/-- A field to fetch. -/
structure Field where
  entityAlias : String
  fieldName : String
  displayName : Option String
  aggregation : Option String
  deriving DecidableEq, Repr, Inhabited

/-- The key of a column: alias and field name. -/
def Field.key (f : Field) : String := f.entityAlias ++ "." ++ f.fieldName

/-- What tells fields apart. -/
def Field.identity (f : Field) : String × String := (f.entityAlias, f.fieldName)

/-- An entity reached from another one. `navigationProperty` overrides the name derived from
`fromField`. -/
structure Join where
  fromEntityAlias : String
  fromField : String
  toEntity : String
  toEntityAlias : String
  toField : String
  joinType : Option String
  navigationProperty : Option String
  deriving DecidableEq, Repr, Inhabited

/-- How a filter compares. A name that is not known is kept as `unrecognized`. -/
inductive Operator
  | eq | ne | gt | ge | lt | le
  | contains | startsWith | endsWith
  | isNull | notNull
  | unrecognized
  deriving DecidableEq, Repr, Inhabited

/-- Whether the operator compares by order. -/
def Operator.isComparison : Operator → Bool
  | .gt | .ge | .lt | .le => true
  | _ => false

/-- Names of the operators. -/
def Operator.names : List (String × Operator) :=
  [("eq", .eq), ("ne", .ne), ("gt", .gt), ("ge", .ge), ("lt", .lt), ("le", .le), ("contains", .contains),
    ("startswith", .startsWith), ("endswith", .endsWith), ("null", .isNull), ("notnull", .notNull)]

/-- The name of an operator. -/
def Operator.name : Operator → String
  | .eq => "eq"
  | .ne => "ne"
  | .gt => "gt"
  | .ge => "ge"
  | .lt => "lt"
  | .le => "le"
  | .contains => "contains"
  | .startsWith => "startswith"
  | .endsWith => "endswith"
  | .isNull => "null"
  | .notNull => "notnull"
  | .unrecognized => "unrecognized"

/-- What joins a filter to the one before it. -/
inductive Connector
  | and
  | or
  deriving DecidableEq, Repr, Inhabited

def Connector.name : Connector → String
  | .and => "and"
  | .or => "or"

structure Filter where
  entityAlias : String
  fieldName : String
  operator : Operator
  value : Option Json
  connector : Option Connector
  deriving Repr, Inhabited

inductive Direction
  | asc
  | desc
  deriving DecidableEq, Repr, Inhabited

def Direction.name : Direction → String
  | .asc => "asc"
  | .desc => "desc"

structure SortKey where
  entityAlias : String
  fieldName : String
  direction : Option Direction
  deriving DecidableEq, Repr, Inhabited

structure Query where
  environmentId : String
  primaryEntity : String
  primaryEntityAlias : Option String
  fields : List Field
  givenJoins : Option (List Join)
  givenFilters : Option (List Filter)
  givenSorts : Option (List SortKey)
  top : Option Nat
  deriving Repr, Inhabited

namespace Query

/-- The alias of the primary entity: the one given, or `main` where none or an empty one is given. -/
def primaryAlias (q : Query) : String :=
  match q.primaryEntityAlias with
  | some a => if a = "" then "main" else a
  | none => "main"

def joins (q : Query) : List Join := q.givenJoins.getD []

def filters (q : Query) : List Filter := q.givenFilters.getD []

def sorts (q : Query) : List SortKey := q.givenSorts.getD []

def isPrimary (q : Query) (entityAlias : String) : Bool := entityAlias == q.primaryAlias

/-- The place of the first join that declares an alias. -/
def joinIndex? (q : Query) (entityAlias : String) : Option Nat :=
  q.joins.findIdx? (·.toEntityAlias == entityAlias)

/-- The first join that declares an alias. -/
def joinFor? (q : Query) (entityAlias : String) : Option Join :=
  q.joins.find? (·.toEntityAlias == entityAlias)

/-- The alias the join at a place hangs off: the one it names, if another join declares that, and the
primary alias otherwise. -/
def parentOf (q : Query) (place : Nat) (join : Join) : String :=
  match q.joinIndex? join.fromEntityAlias with
  | some i => if i = place then q.primaryAlias else join.fromEntityAlias
  | none => q.primaryAlias

/-- Places of the joins from the one that declares `alias` towards the primary entity, innermost first.
The walk ends at the primary alias, at an alias that is not declared, and at a join in `seen`; each step
adds a place to `seen`, so as many steps as there are joins are enough. -/
def climb (q : Query) (seen : List Nat) (entityAlias : String) : Nat → List Nat
  | 0 => []
  | steps + 1 =>
    if q.isPrimary entityAlias then []
    else match q.joinIndex? entityAlias with
      | none => []
      | some i =>
        if i ∈ seen then []
        else match q.joins[i]? with
          | none => []
          | some join => i :: q.climb (i :: seen) (q.parentOf i join) steps

/-- Places of the joins from the primary entity to an alias, outermost first. It is empty for the primary
alias and for an alias no join declares. -/
def joinPlaces (q : Query) (entityAlias : String) : List Nat :=
  (q.climb [] entityAlias q.joins.length).reverse

/-- The joins from the primary entity to an alias, outermost first. -/
def joinPath (q : Query) (entityAlias : String) : List Join :=
  (q.joinPlaces entityAlias).filterMap (q.joins[·]?)

/-- The fields of a list whose identity is not among `seen`, each identity once, the first field of it
counting. -/
def dedupFields (seen : List (String × String)) : List Field → List Field
  | [] => []
  | f :: rest =>
    if f.identity ∈ seen then dedupFields seen rest else f :: dedupFields (f.identity :: seen) rest

/-- The fields with repeated ones left out. -/
def distinctFields (q : Query) : List Field := dedupFields [] q.fields

end Query

end QueryDesk
