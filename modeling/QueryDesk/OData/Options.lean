import QueryDesk.OData.Predicate

/-!
# Query options

What a data request asks for, as data: `Options` holds the selected fields, the tree of expanded
navigation properties, the filter, the order and the page. `Options.render` writes it as a query string,
`Query.options` takes it from a query, and `Query.compile` does both.
-/

namespace QueryDesk

namespace OData

/-- An expanded navigation property with the fields selected from it and what is expanded below it. -/
inductive Expand
  | mk (navigation : String) (select : List String) (nested : List Expand)
  deriving Repr, Inhabited

namespace Expand

def navigation : Expand → String
  | mk n _ _ => n

def select : Expand → List String
  | mk _ s _ => s

def nested : Expand → List Expand
  | mk _ _ xs => xs

/-- An expansion, unless nothing is selected in it or below it. -/
def of? (navigation : String) (select : List String) (nested : List Expand) : Option Expand :=
  if select.isEmpty && nested.isEmpty then none else some (mk navigation select nested)

end Expand

/-- A named option with a value, unless there is nothing to name. -/
def option (name : String) (values : List String) : List String :=
  if values.isEmpty then [] else [name ++ "=" ++ ",".intercalate values]

mutual
def Expand.render : Expand → String
  | .mk navigation select nested =>
    navigation ++ "(" ++ ";".intercalate (option "$select" select ++ option "$expand" (renderAll nested)) ++ ")"
termination_by structural e => e

def renderAll : List Expand → List String
  | [] => []
  | e :: rest => e.render :: renderAll rest
termination_by structural es => es
end

/-- The options of a data request. The record count is always asked for. -/
structure Options where
  select : List String
  expand : List Expand
  filter : Option String
  orderBy : List (String × Direction)
  top : Nat
  skip : Option Nat
  deriving Repr

/-- The parameters in their fixed order. -/
def Options.parameters (o : Options) : List String :=
  ["$count=true"] ++ option "$select" o.select ++ option "$expand" (renderAll o.expand)
    ++ (match o.filter with
      | some f => ["$filter=" ++ encodeParam f]
      | none => [])
    ++ option "$orderby" (o.orderBy.map fun (path, d) => path ++ " " ++ d.name)
    ++ ["$top=" ++ toString o.top]
    ++ (match o.skip with
      | some n => ["$skip=" ++ toString n]
      | none => [])

/-- The query string, from the question mark on. -/
def Options.render (o : Options) : String := "?" ++ "&".intercalate o.parameters

end OData

open OData

/-- The names of the fields with an alias. A lone empty name selects nothing. -/
def selectedNames (fields : List Field) (entityAlias : String) : List String :=
  let names := (fields.filter (·.entityAlias == entityAlias)).map (·.fieldName)
  if names = [""] then [] else names

namespace Query

/-- The joins that hang off an alias, in the order of the list. -/
def childrenOf (q : Query) (parent : String) : List Join :=
  (q.joins.zipIdx.filter fun (j, i) => q.parentOf i j == parent).map (·.1)

/-- The expansions below an alias, down to a number of levels. -/
def expandsBelow (q : Query) (fields : List Field) : Nat → String → List Expand
  | 0, _ => []
  | levels + 1, parent =>
    (q.childrenOf parent).filterMap fun j =>
      Expand.of? j.navigation (selectedNames fields j.toEntityAlias)
        (q.expandsBelow fields levels j.toEntityAlias)

/-- The tree of expansions. A chain of joins has at most as many levels as there are joins; below a join
that reuses the primary alias the tree is cut one level further down. -/
def expands (q : Query) : List Expand :=
  q.expandsBelow q.distinctFields (q.joins.length + 1) q.primaryAlias

/-- The options for a page. A count alone takes no rows. -/
def options (q : Query) (page pageSize : Nat) (countOnly : Bool) : Options where
  select := selectedNames q.distinctFields q.primaryAlias
  expand := q.expands
  filter := if q.filters.isEmpty then none else some q.filterExpression
  orderBy := q.sorts.map fun s => (q.propertyPath s.entityAlias s.fieldName, s.direction.getD .asc)
  top := if countOnly then 0 else pageSize
  skip := if countOnly || page ≤ 1 then none else some ((page - 1) * pageSize)

/-- The query string for a page. -/
def compile (q : Query) (page pageSize : Nat) (countOnly : Bool) : String :=
  (q.options page pageSize countOnly).render

end Query

end QueryDesk
