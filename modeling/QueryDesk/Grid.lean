import QueryDesk.OData.Name
import QueryDesk.OData.Payload

/-!
# Result grids

The columns of a query and the row of each record. A row has one cell per distinct field, under the key
of the field, and null where the record holds nothing for it.
-/

namespace QueryDesk

/-- A column of a result. -/
structure Column where
  name : String
  displayName : String
  type : String
  entityAlias : String
  deriving DecidableEq, Repr, Inhabited

/-- The key of the cells of a column. -/
def Column.key (c : Column) : String := c.entityAlias ++ "." ++ c.name

/-- The column of a field, titled by its display name or else its name. -/
def Field.column (f : Field) : Column where
  name := f.fieldName
  displayName := f.displayName.getD f.fieldName
  type := "string"
  entityAlias := f.entityAlias

/-- One row, keyed by column. -/
abbrev Row := Members

/-- A page of results. -/
structure ResultPage where
  columns : List Column
  rows : List Row
  totalCount : Option Nat
  page : Nat
  pageSize : Nat
  /-- whether the page came back full -/
  hasMore : Bool
  deriving Repr, Inhabited

/-- A value that is there and not null. -/
def defined (v : Option Json) : Option Json := v.filter (!·.isNull)

/-- The object in a member. -/
def objectIn (record : Members) (name : String) : Option Members := (record.get? name).bind Json.members?

/-- The object found by following joins, each under its alias or else under its navigation property. -/
def follow (record : Members) : List Join → Option Members
  | [] => some record
  | j :: rest => do
    let next ← objectIn record j.toEntityAlias <|> objectIn record j.navigation
    follow next rest

namespace Query

/-- The expanded object for an alias: under the alias itself, or at the end of its join path. -/
def expanded (q : Query) (record : Members) (entityAlias : String) : Option Members :=
  objectIn record entityAlias <|>
    match q.joinPath entityAlias with
    | [] => none
    | path => follow record path

/-- The value of a field of the primary entity: its label, or else the raw value. -/
def primaryValue (record : Members) (fieldName : String) : Option Json :=
  defined (OData.formattedValue? record fieldName) <|> defined (record.get? fieldName)

/-- The value of a joined field: that of the expanded object, or else what the record itself holds. -/
def joinedValue (q : Query) (record : Members) (entityAlias fieldName : String) : Option Json :=
  defined ((q.expanded record entityAlias).bind (·.get? fieldName)) <|> primaryValue record fieldName

/-- The cell of a field. -/
def cell (q : Query) (record : Json) (f : Field) : Json :=
  match record.members? with
  | none => .null
  | some ms =>
    (if q.isPrimary f.entityAlias then primaryValue ms f.fieldName
      else q.joinedValue ms f.entityAlias f.fieldName).getD .null

/-- The row of a record. -/
def row (q : Query) (record : Json) : Row :=
  Members.ofList (q.distinctFields.map fun f => (f.key, q.cell record f))

/-- One column per distinct field. -/
def columns (q : Query) : List Column := q.distinctFields.map Field.column

/-- One row per record. -/
def rows (q : Query) (records : List Json) : List Row := records.map q.row

end Query

def Column.toJson (c : Column) : Json :=
  .ofMembers [("name", .text c.name), ("displayName", .text c.displayName), ("type", .text c.type),
    ("entityAlias", .text c.entityAlias)]

def ResultPage.toJson (r : ResultPage) : Json :=
  .ofMembers <| presentMembers
    [("columns", some (.array (r.columns.map Column.toJson))), ("rows", some (.array (r.rows.map .object))),
      ("totalCount", r.totalCount.map .ofNat), ("page", some (.ofNat r.page)),
      ("pageSize", some (.ofNat r.pageSize)), ("hasMore", some (.bool r.hasMore))]

end QueryDesk
