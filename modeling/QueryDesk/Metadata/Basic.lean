import QueryDesk.Json.Basic

/-!
# Metadata

What a user is told about entities, attributes and relationships.
-/

namespace QueryDesk

structure EntityInfo where
  logicalName : String
  displayName : String
  entitySetName : String
  primaryIdAttribute : String
  primaryNameAttribute : String
  description : Option String
  isCustom : Bool
  deriving DecidableEq, Repr, Inhabited

/-- A choice of an attribute. -/
structure Choice where
  value : Int
  label : String
  deriving DecidableEq, Repr, Inhabited

structure AttributeInfo where
  logicalName : String
  displayName : String
  type : String
  isPrimaryId : Bool
  isPrimaryName : Bool
  isRequired : Bool
  isCustom : Bool
  description : Option String
  /-- the entities a lookup refers to -/
  targets : Option (List String)
  /-- the choices there are -/
  options : Option (List Choice)
  deriving DecidableEq, Repr, Inhabited

/-- On which side of a relationship an entity stands. -/
inductive RelationshipKind
  | oneToMany
  | manyToOne
  deriving DecidableEq, Repr

structure RelationshipInfo where
  schemaName : String
  kind : RelationshipKind
  referencingEntity : String
  referencingAttribute : String
  referencedEntity : String
  referencedAttribute : String
  /-- the property through which a referencing record is expanded -/
  navigationProperty : Option String
  deriving DecidableEq, Repr

/-- The attributes of one entity. -/
structure EntityAttributes where
  logicalName : String
  attributes : List AttributeInfo
  deriving DecidableEq, Repr

def EntityInfo.toJson (e : EntityInfo) : Json :=
  .ofMembers <| presentMembers
    [("logicalName", some (.text e.logicalName)), ("displayName", some (.text e.displayName)),
      ("entitySetName", some (.text e.entitySetName)),
      ("primaryIdAttribute", some (.text e.primaryIdAttribute)),
      ("primaryNameAttribute", some (.text e.primaryNameAttribute)),
      ("description", e.description.map .text), ("isCustomEntity", some (.bool e.isCustom))]

def Choice.toJson (c : Choice) : Json :=
  .ofMembers [("value", .number (.int c.value)), ("label", .text c.label)]

def AttributeInfo.toJson (a : AttributeInfo) : Json :=
  .ofMembers <| presentMembers
    [("logicalName", some (.text a.logicalName)), ("displayName", some (.text a.displayName)),
      ("attributeType", some (.text a.type)), ("isPrimaryId", some (.bool a.isPrimaryId)),
      ("isPrimaryName", some (.bool a.isPrimaryName)), ("isRequired", some (.bool a.isRequired)),
      ("isCustomAttribute", some (.bool a.isCustom)), ("description", a.description.map .text),
      ("targets", a.targets.map fun ts => .array (ts.map .text)),
      ("options", a.options.map fun os => .array (os.map Choice.toJson))]

def RelationshipKind.name : RelationshipKind → String
  | .oneToMany => "OneToMany"
  | .manyToOne => "ManyToOne"

def RelationshipInfo.toJson (r : RelationshipInfo) : Json :=
  .ofMembers <| presentMembers
    [("schemaName", some (.text r.schemaName)), ("relationshipType", some (.text r.kind.name)),
      ("referencingEntity", some (.text r.referencingEntity)),
      ("referencingAttribute", some (.text r.referencingAttribute)),
      ("referencedEntity", some (.text r.referencedEntity)),
      ("referencedAttribute", some (.text r.referencedAttribute)),
      ("navigationProperty", r.navigationProperty.map .text)]

def EntityAttributes.toJson (e : EntityAttributes) : Json :=
  .ofMembers [("logicalName", .text e.logicalName),
    ("attributes", .array (e.attributes.map AttributeInfo.toJson))]

end QueryDesk
