import QueryDesk.Json.Decoder
import QueryDesk.Metadata.Basic

/-!
# Metadata payloads

The records of the metadata endpoints and what is made of them. A record's fields stand in the order of
its array form.
-/

namespace QueryDesk.Metadata

open Json (Record Decoder)

/-- The `value` list of a collection. -/
def collection {α : Type} (item : Decoder α) : Decoder (List α) :=
  Record.decoder "ODataCollection" (.field "value" (.list item))

/-- A localized text; an empty one counts as absent. -/
def localizedLabel : Decoder String := Record.decoder "LocalizedLabel" (.field "Label" .text)

/-- The text of a label for the user, if there is one. -/
def label : Decoder (Option String) :=
  Record.decoder "Label" <|
    (fun l : Option String => l.filter (· != "")) <$> .optional "UserLocalizedLabel" localizedLabel

/-- A field with a label. -/
def labelField (name : String) : Record (Option String) := Option.join <$> .optional name label

/-- An entity record; the last part is the entity set name, if it is given. -/
structure EntityRecord where
  logicalName : String
  displayName : Option String
  entitySetName : Option String
  primaryIdAttribute : Option String
  primaryNameAttribute : Option String
  description : Option String
  isCustom : Bool
  deriving DecidableEq, Repr

def EntityRecord.decoder : Decoder EntityRecord :=
  Record.decoder "RawEntity" <|
    EntityRecord.mk <$> .field "LogicalName" .text <*> labelField "DisplayName"
      <*> .optional "EntitySetName" .text <*> .optional "PrimaryIdAttribute" .text
      <*> .optional "PrimaryNameAttribute" .text <*> labelField "Description"
      <*> .fieldOr "IsCustomEntity" .bool false

/-- An entity shows its logical name where it has no label. -/
def EntityRecord.info (r : EntityRecord) : EntityInfo where
  logicalName := r.logicalName
  displayName := r.displayName.getD r.logicalName
  entitySetName := r.entitySetName.getD ""
  primaryIdAttribute := r.primaryIdAttribute.getD ""
  primaryNameAttribute := r.primaryNameAttribute.getD ""
  description := r.description
  isCustom := r.isCustom

structure AttributeRecord where
  logicalName : String
  displayName : Option String
  type : Option String
  isPrimaryId : Option Bool
  isPrimaryName : Option Bool
  requiredLevel : Option String
  isCustom : Option Bool
  description : Option String
  /-- the attribute a helper column belongs to -/
  attributeOf : Option String
  deriving DecidableEq, Repr

def levelValue : Decoder String := Record.decoder "RequiredLevel" (.field "Value" .text)

def AttributeRecord.decoder : Decoder AttributeRecord :=
  Record.decoder "RawAttribute" <|
    AttributeRecord.mk <$> .field "LogicalName" .text <*> labelField "DisplayName"
      <*> .optional "AttributeType" .text <*> .optional "IsPrimaryId" .bool
      <*> .optional "IsPrimaryName" .bool <*> .optional "RequiredLevel" levelValue
      <*> .optional "IsCustomAttribute" .bool <*> labelField "Description"
      <*> .optional "AttributeOf" .text

/-- Whether a value must be given at this level. -/
def isRequiredLevel (level : String) : Bool := level == "ApplicationRequired" || level == "SystemRequired"

def AttributeRecord.info (r : AttributeRecord) : AttributeInfo where
  logicalName := r.logicalName
  displayName := r.displayName.getD r.logicalName
  type := r.type.getD "Unknown"
  isPrimaryId := r.isPrimaryId.getD false
  isPrimaryName := r.isPrimaryName.getD false
  isRequired := (r.requiredLevel.map isRequiredLevel).getD false
  isCustom := r.isCustom.getD false
  description := r.description
  targets := none
  options := none

/-- The name of a lookup attribute and the entities it refers to. -/
def lookupTargets : Decoder (String × List String) :=
  Record.decoder "RawLookupTargets" <|
    Prod.mk <$> .field "LogicalName" .text <*> .fieldOr "Targets" (.list .text) []

/-- A choice, labelled by its value where it has no label. -/
def choice : Decoder Choice :=
  Record.decoder "RawOption" <|
    (fun value (label : Option String) => ⟨value, label.getD (toString value)⟩)
      <$> .field "Value" .int64 <*> labelField "Label"

def choices : Decoder (List Choice) :=
  Record.decoder "RawOptionSet" (.fieldOr "Options" (.list choice) [])

/-- The name of a choice attribute and its choices. -/
def picklist : Decoder (String × List Choice) :=
  Record.decoder "RawPicklist" <|
    (fun name (set : Option (List Choice)) => (name, set.getD []))
      <$> .field "LogicalName" .text <*> .optional "OptionSet" choices

/-- A relationship record; the last part is the navigation property of the referencing entity, if it is given. -/
structure RelationshipRecord where
  schemaName : String
  referencingEntity : String
  referencingAttribute : String
  referencedEntity : String
  referencedAttribute : String
  navigationProperty : Option String
  deriving DecidableEq, Repr

def RelationshipRecord.decoder : Decoder RelationshipRecord :=
  Record.decoder "RawRelationship" <|
    RelationshipRecord.mk <$> .field "SchemaName" .text <*> .field "ReferencingEntity" .text
      <*> .field "ReferencingAttribute" .text <*> .field "ReferencedEntity" .text
      <*> .field "ReferencedAttribute" .text
      <*> .optional "ReferencingEntityNavigationPropertyName" .text

/-- A relationship of a kind. Its navigation property is that of the referencing entity, so only a
many-to-one row has one. -/
def RelationshipRecord.info (kind : RelationshipKind) (r : RelationshipRecord) : RelationshipInfo where
  schemaName := r.schemaName
  kind := kind
  referencingEntity := r.referencingEntity
  referencingAttribute := r.referencingAttribute
  referencedEntity := r.referencedEntity
  referencedAttribute := r.referencedAttribute
  navigationProperty := r.navigationProperty.filter fun n => n != "" && kind == .manyToOne

end QueryDesk.Metadata
