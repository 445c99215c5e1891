import QueryDesk.Exchange
import QueryDesk.Metadata.Payload
import QueryDesk.Query.Validation
import QueryDesk.Text.Case

/-!
# Reading metadata

The requests for metadata of a session. Names go into resource paths, so only identifiers are sent.
Where an answer is put together from several requests, a failure of one that only adds to it is passed
over.
-/

namespace QueryDesk.Session

open Metadata

/-- The record a resource holds. -/
def fetch {α : Type} (s : Session) (decoder : Json.Decoder α) (resource : String) : Exchange α := do
  let payload ← s.get resource none
  Exchange.ofExcept ((Json.decodeJson decoder payload).mapError .json)

/-- Checks the logical name of an entity. -/
def checkLogicalName (name : String) : Exchange Unit :=
  Exchange.ofExcept ((checkName .logical name).mapError .validation)

def entityFields : String :=
  "LogicalName,DisplayName,EntitySetName,PrimaryIdAttribute,PrimaryNameAttribute,Description,IsCustomEntity"

def attributeFields : String :=
  "LogicalName,DisplayName,AttributeType,IsPrimaryId,IsPrimaryName,RequiredLevel,"
    ++ "IsCustomAttribute,Description,AttributeOf"

def relationshipFields : String :=
  "SchemaName,ReferencingEntity,ReferencingAttribute,ReferencedEntity,ReferencedAttribute,"
    ++ "ReferencingEntityNavigationPropertyName"

/-- The resource that defines an entity. -/
def definitionPath (name : String) : String := "EntityDefinitions(LogicalName='" ++ name ++ "')"

/-- Whether one display name stands before another when case is put aside. -/
def displayedBefore (a b : String) : Bool := Text.toLower a ≤ Text.toLower b

/-- The entities that can be searched, in the order of their display names. -/
def entities (s : Session) : Exchange (List EntityInfo) := do
  let found ← s.fetch (collection EntityRecord.decoder)
    ("EntityDefinitions?$select=" ++ entityFields ++ "&$filter=IsValidForAdvancedFind eq true")
  return (found.map EntityRecord.info).mergeSort fun a b => displayedBefore a.displayName b.displayName

/-- One entity. -/
def entity (s : Session) (name : String) : Exchange EntityInfo := do
  checkLogicalName name
  let found ← s.fetch EntityRecord.decoder (definitionPath name ++ "?$select=" ++ entityFields)
  return found.info

/-- The name under which the records of an entity are found. -/
def entitySetName (s : Session) (name : String) : Exchange String := do
  checkLogicalName name
  let found ← s.fetch EntityRecord.decoder (definitionPath name ++ "?$select=EntitySetName")
  match found.entitySetName.filter (· != "") with
  | some set => return set
  | none => throw (.notFound (.entitySet name))

def attributesResource (name : String) : String :=
  definitionPath name ++ "/Attributes?$select=" ++ attributeFields

def lookupsResource (name : String) : String :=
  definitionPath name
    ++ "/Attributes/Microsoft.Dynamics.CRM.LookupAttributeMetadata?$select=LogicalName,Targets"

def picklistsResource (name : String) : String :=
  definitionPath name
    ++ "/Attributes/Microsoft.Dynamics.CRM.PicklistAttributeMetadata"
    ++ "?$select=LogicalName&$expand=OptionSet($select=Options)"

/-- The entry of a name that comes last. -/
def lastEntry? {α : Type} (entries : List (String × α)) (name : String) : Option α :=
  entries.reverse.lookup name

/-- The attributes with the targets of their lookups. -/
def withTargets (lookups : List (String × List String)) (attributes : List AttributeInfo) :
    List AttributeInfo :=
  attributes.map fun a => { a with targets := lastEntry? lookups a.logicalName }

/-- The attributes with their choices. An entry is given to the first attribute of its name. -/
def withChoices (picklists : List (String × List Choice)) : List AttributeInfo → List AttributeInfo
  | [] => []
  | a :: rest =>
    { a with options := lastEntry? picklists a.logicalName }
      :: withChoices (picklists.filter (·.1 != a.logicalName)) rest

/-- The readable attributes of an entity in the order of their display names. Targets and choices are
added as far as their requests succeed. -/
def attributes (s : Session) (name : String) : Exchange (List AttributeInfo) := do
  checkLogicalName name
  let found ← s.fetch (collection AttributeRecord.decoder) (attributesResource name)
  let base := (found.filter (·.attributeOf.isNone)).map AttributeRecord.info
  let lookups ← Exchange.attempt (s.fetch (collection lookupTargets) (lookupsResource name))
  let base := match lookups with
    | .ok entries => withTargets entries base
    | .error _ => base
  let picklists ← Exchange.attempt (s.fetch (collection picklist) (picklistsResource name))
  let base := match picklists with
    | .ok entries => withChoices entries base
    | .error _ => base
  return base.mergeSort fun a b => displayedBefore a.displayName b.displayName

def relationshipsResource (name : String) : RelationshipKind → String
  | .oneToMany => definitionPath name ++ "/OneToManyRelationships?$select=" ++ relationshipFields
  | .manyToOne => definitionPath name ++ "/ManyToOneRelationships?$select=" ++ relationshipFields

/-- The relationships of one kind, none where their request fails. -/
def relationshipsOf (s : Session) (name : String) (kind : RelationshipKind) :
    Exchange (List RelationshipInfo) := do
  let found ← Exchange.attempt
    (s.fetch (collection RelationshipRecord.decoder) (relationshipsResource name kind))
  return (found.toOption.getD []).map (·.info kind)

/-- The relationships of an entity, the one-to-many ones first. -/
def relationships (s : Session) (name : String) : Exchange (List RelationshipInfo) := do
  checkLogicalName name
  let oneToMany ← s.relationshipsOf name .oneToMany
  let manyToOne ← s.relationshipsOf name .manyToOne
  return oneToMany ++ manyToOne

/-- The attributes of several entities, without those that cannot be had. -/
def describe (s : Session) : List String → Exchange (List EntityAttributes)
  | [] => return []
  | name :: rest => do
    let found ← Exchange.attempt (s.attributes name)
    let others ← s.describe rest
    match found with
    | .ok attributes => return ⟨name, attributes⟩ :: others
    | .error _ => return others

end QueryDesk.Session
