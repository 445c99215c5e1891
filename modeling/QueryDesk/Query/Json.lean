import QueryDesk.Json.Decoder
import QueryDesk.Query.Basic

/-!
# Queries as JSON

`Query.ofText` reads a query definition and `Query.toJson` writes one. The records below list the fields
in the order in which an array form gives them.
-/

namespace QueryDesk

open Json (Record Decoder)

/-- Any name is an operator; one that is not known is unrecognized. -/
def Operator.decoder : Decoder Operator :=
  .variant fun name => .ok ((Operator.names.lookup name).getD .unrecognized)

def Connector.decoder : Decoder Connector := .oneOf [("and", .and), ("or", .or)]

def Direction.decoder : Decoder Direction := .oneOf [("asc", .asc), ("desc", .desc)]

def Field.decoder : Decoder Field :=
  Record.decoder "QueryField" <|
    Field.mk <$> .field "entityAlias" .text <*> .field "fieldName" .text
      <*> .optional "displayName" .text <*> .optional "aggregation" .text

def Join.decoder : Decoder Join :=
  Record.decoder "QueryJoin" <|
    Join.mk <$> .field "fromEntityAlias" .text <*> .field "fromField" .text <*> .field "toEntity" .text
      <*> .field "toEntityAlias" .text <*> .field "toField" .text
      <*> .optional "joinType" .text <*> .optional "navigationProperty" .text

def Filter.decoder : Decoder Filter :=
  Record.decoder "QueryFilter" <|
    Filter.mk <$> .field "entityAlias" .text <*> .field "fieldName" .text
      <*> .field "operator" Operator.decoder
      <*> .optional "value" .json <*> .optional "logicalOperator" Connector.decoder

def SortKey.decoder : Decoder SortKey :=
  Record.decoder "QuerySort" <|
    SortKey.mk <$> .field "entityAlias" .text <*> .field "fieldName" .text
      <*> .optional "direction" Direction.decoder

def Query.decoder : Decoder Query :=
  Record.decoder "QueryDefinition" <|
    Query.mk <$> .field "environmentId" .text <*> .field "primaryEntity" .text
      <*> .optional "primaryEntityAlias" .text
      <*> .field "fields" (.list Field.decoder)
      <*> .optional "joins" (.list Join.decoder)
      <*> .optional "filters" (.list Filter.decoder)
      <*> .optional "orderBy" (.list SortKey.decoder)
      <*> .optional "top" .nat32

/-- Reads the text of a query definition, which may have been cut from a longer text. -/
def Query.ofText (text : String) : Except Json.Error Query := Json.decodeText Query.decoder text

def Field.toJson (f : Field) : Json :=
  .ofMembers <| presentMembers
    [("entityAlias", some (.text f.entityAlias)), ("fieldName", some (.text f.fieldName)),
      ("displayName", f.displayName.map .text), ("aggregation", f.aggregation.map .text)]

def Join.toJson (j : Join) : Json :=
  .ofMembers <| presentMembers
    [("fromEntityAlias", some (.text j.fromEntityAlias)), ("fromField", some (.text j.fromField)),
      ("toEntity", some (.text j.toEntity)), ("toEntityAlias", some (.text j.toEntityAlias)),
      ("toField", some (.text j.toField)), ("joinType", j.joinType.map .text),
      ("navigationProperty", j.navigationProperty.map .text)]

def Filter.toJson (f : Filter) : Json :=
  .ofMembers <| presentMembers
    [("entityAlias", some (.text f.entityAlias)), ("fieldName", some (.text f.fieldName)),
      ("operator", some (.text f.operator.name)), ("value", f.value),
      ("logicalOperator", f.connector.map fun c => .text c.name)]

def SortKey.toJson (s : SortKey) : Json :=
  .ofMembers <| presentMembers
    [("entityAlias", some (.text s.entityAlias)), ("fieldName", some (.text s.fieldName)),
      ("direction", s.direction.map fun d => .text d.name)]

def Query.toJson (q : Query) : Json :=
  .ofMembers <| presentMembers
    [("environmentId", some (.text q.environmentId)), ("primaryEntity", some (.text q.primaryEntity)),
      ("primaryEntityAlias", q.primaryEntityAlias.map .text),
      ("fields", some (.array (q.fields.map Field.toJson))),
      ("joins", q.givenJoins.map fun js => .array (js.map Join.toJson)),
      ("filters", q.givenFilters.map fun fs => .array (fs.map Filter.toJson)),
      ("orderBy", q.givenSorts.map fun ss => .array (ss.map SortKey.toJson)),
      ("top", q.top.map .ofNat)]

end QueryDesk
