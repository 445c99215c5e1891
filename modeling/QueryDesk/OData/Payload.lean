import QueryDesk.Json.Decoder
import QueryDesk.Text.Blank

/-!
# Response payloads

Records are objects; labels of values ride along as sibling members. A payload that does not have the
expected form has no records and no count.
-/

namespace QueryDesk.OData

/-- The member that holds the label of a field. -/
def formattedValueKey (fieldName : String) : String :=
  fieldName ++ "@OData.Community.Display.V1.FormattedValue"

/-- The label of a field, when one was sent. -/
def formattedValue? (record : Members) (fieldName : String) : Option Json :=
  record.get? (formattedValueKey fieldName)

/-- The records of a collection. -/
def records (payload : Json) : List Json := ((payload.member? "value").bind Json.items?).getD []

/-- The number of records there are in all, when it was asked for. -/
def totalCount (payload : Json) : Option Nat := (payload.member? "@odata.count").bind Json.nat?

/-- The message of an error body, or the body itself. -/
def errorMessage (body : String) : String :=
  let message := do
    let j ← (Json.parse body).toOption
    ((← j.member? "error").member? "message").bind Json.text?
  message.getD (Text.trim body)

end QueryDesk.OData
