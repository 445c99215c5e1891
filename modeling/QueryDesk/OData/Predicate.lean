import QueryDesk.Json.Printer
import QueryDesk.OData.Literal
import QueryDesk.OData.Name

/-!
# Filter expressions

A filter becomes a `Predicate`, which compares a path with an operand or calls a text function on it.
The expression of a query is the predicates from left to right, each after the first behind its own
connector; there is no grouping.
-/

namespace QueryDesk.OData

/-- What a path is compared with. -/
inductive Operand
  /-- a literal that is written as it is -/
  | bare (text : String)
  /-- a text literal -/
  | quoted (text : String)
  deriving DecidableEq, Repr

def Operand.render : Operand → String
  | .bare t => t
  | .quoted t => quoteLiteral t

inductive Predicate
  | compare (path operator : String) (operand : Operand)
  | call (function path text : String)
  deriving DecidableEq, Repr

def Predicate.render : Predicate → String
  | .compare path operator operand => path ++ " " ++ operator ++ " " ++ operand.render
  | .call function path text => function ++ "(" ++ path ++ "," ++ quoteLiteral text ++ ")"

/-- The text of a value: a string itself, nothing and null as `null`, any other value as JSON. -/
def bareText : Option Json → String
  | none | some .null => "null"
  | some (.text s) => s
  | some j => j.compact

/-- The text a value is quoted as: nothing and null are the empty text. -/
def quotedText : Option Json → String
  | none | some .null => ""
  | some (.text s) => s
  | some j => j.compact

/-- The operand of an equality: strings are quoted. -/
def equalityOperand : Option Json → Operand
  | some (.text s) => .quoted s
  | v => .bare (bareText v)

end QueryDesk.OData

namespace QueryDesk

open OData

/-- The predicate of a filter on a path. -/
def Filter.predicate (path : String) (f : Filter) : Predicate :=
  match f.operator with
  | .eq => .compare path "eq" (equalityOperand f.value)
  | .ne => .compare path "ne" (equalityOperand f.value)
  | .gt => .compare path "gt" (.bare (bareText f.value))
  | .ge => .compare path "ge" (.bare (bareText f.value))
  | .lt => .compare path "lt" (.bare (bareText f.value))
  | .le => .compare path "le" (.bare (bareText f.value))
  | .contains => .call "contains" path (quotedText f.value)
  | .startsWith => .call "startswith" path (quotedText f.value)
  | .endsWith => .call "endswith" path (quotedText f.value)
  | .isNull => .compare path "eq" (.bare "null")
  | .notNull => .compare path "ne" (.bare "null")
  | .unrecognized => .compare path "eq" (.quoted (quotedText f.value))

/-- The predicate of a filter of a query, on the path of its field. -/
def Query.predicateOf (q : Query) (f : Filter) : Predicate :=
  f.predicate (q.propertyPath f.entityAlias f.fieldName)

/-- A filter behind another one: its connector, `and` where none is given, and its predicate. -/
def Query.connected (q : Query) (f : Filter) : String :=
  (f.connector.getD .and).name ++ " " ++ (q.predicateOf f).render

/-- The filter expression of a query. -/
def Query.filterExpression (q : Query) : String :=
  match q.filters with
  | [] => ""
  | f :: rest => " ".intercalate ((q.predicateOf f).render :: rest.map q.connected)

end QueryDesk
