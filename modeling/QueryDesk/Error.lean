import QueryDesk.Json.Error

/-!
# Failures

Every operation fails with an `Error`, which is a cause; `Error.message` words it. A failure of the remote
side carries the status it was answered with.
-/

namespace QueryDesk

/-- Names that have to be identifiers. -/
inductive NameRole
  | entity
  | joinField
  | joinEntity
  | navigationProperty
  | field
  | filterField
  | sortField
  | logical
  deriving DecidableEq, Repr

def NameRole.words : NameRole → String
  | .entity => "entity name"
  | .joinField => "join field"
  | .joinEntity => "join entity"
  | .navigationProperty => "navigation property"
  | .field => "field name"
  | .filterField => "filter field"
  | .sortField => "sort field"
  | .logical => "logical name"

/-- Why something a user asks for is not valid. -/
inductive Violation
  | noPrimaryEntity
  | noFields
  | badName (role : NameRole) (name : String)
  | repeatedAlias (entityAlias : String)
  | notPlainLiteral (fieldName text : String)
  | pageBelowOne
  | pageSizeOutside (max : Nat)
  | blankSavedName
  | foreignDefinition
  /-- any other reason, in words -/
  | stated (text : String)
  deriving DecidableEq, Repr

def Violation.message : Violation → String
  | .noPrimaryEntity => "primary entity is required"
  | .noFields => "at least one field must be selected"
  | .badName role name => "invalid " ++ role.words ++ ": '" ++ name ++ "'"
  | .repeatedAlias entityAlias => "duplicate entity alias: '" ++ entityAlias ++ "'"
  | .notPlainLiteral fieldName text => "value for '" ++ fieldName ++ "' is not a plain literal: '" ++ text ++ "'"
  | .pageBelowOne => "page must be 1 or greater"
  | .pageSizeOutside max => "page size must be between 1 and " ++ toString max
  | .blankSavedName => "saved query name is required"
  | .foreignDefinition => "definition belongs to a different environment"
  | .stated text => text

/-- What was looked for in vain. -/
inductive Missing
  | environment (id : String)
  | entitySet (logicalName : String)
  | savedQuery (id : String)
  /-- anything else, in words -/
  | stated (text : String)
  deriving DecidableEq, Repr

def Missing.message : Missing → String
  | .environment id => "environment '" ++ id ++ "'"
  | .entitySet name => "entity '" ++ name ++ "' has no entity set"
  | .savedQuery id => "saved query '" ++ id ++ "'"
  | .stated text => text

/-- Why no answer came over the wire. -/
inductive ConnectionFault
  /-- the request cannot be made, perhaps because of its address -/
  | unsendable (address : Option String)
  /-- nobody answers at the address -/
  | unreachable (address : String)
  deriving DecidableEq, Repr

def ConnectionFault.message : ConnectionFault → String
  | .unsendable none => "builder error"
  | .unsendable (some address) => "builder error for url (" ++ address ++ ")"
  | .unreachable address => "error sending request for url (" ++ address ++ ")"

/-- Why an operation failed. -/
inductive Error
  | validation (v : Violation)
  | notFound (m : Missing)
  /-- the token endpoint refused -/
  | signIn (status : Nat) (message : String)
  /-- the Web API refused; the query that was sent may be attached -/
  | request (status : Nat) (message : String) (query : Option String)
  | workbook (message : String)
  | connection (c : ConnectionFault)
  | inputOutput (message : String)
  | json (e : Json.Error)
  | settings (message : String)
  | invalidInput (message : String)
  deriving DecidableEq, Repr

namespace Error

def message : Error → String
  | .validation v => "Validation error: " ++ v.message
  | .notFound m => "Not found: " ++ m.message
  | .signIn status m => "Dataverse authentication failed with status " ++ toString status ++ ": " ++ m
  | .request status m query =>
    "Dataverse request failed with status " ++ toString status ++ ": " ++ m
      ++ (match query with
        | some q => " [query: " ++ q ++ "]"
        | none => "")
  | .workbook m => "Export error: " ++ m
  | .connection c => "HTTP error: " ++ c.message
  | .inputOutput m => "IO error: " ++ m
  | .json e => "JSON error: " ++ e.message
  | .settings m => "Configuration error: " ++ m
  | .invalidInput m => "Invalid input: " ++ m

/-- Attaches the query to a refused request that has none. -/
def withQuery (query : String) : Error → Error
  | .request status m none => .request status m (some query)
  | e => e

/-- Whether the failure arose on the remote side. -/
def isRemote : Error → Bool
  | .signIn _ _ | .request _ _ _ | .connection _ => true
  | _ => false

end Error

end QueryDesk
