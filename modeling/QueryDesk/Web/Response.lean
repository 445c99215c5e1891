import QueryDesk.Saved.Store
import QueryDesk.Workbook.Package
import QueryDesk.Web.Order

/-!
# Responses

An answer is JSON with the three members `success`, `data` and `error`, or a workbook. A request that is
turned down for its form is answered in plain words or not at all.
-/

namespace QueryDesk

/-- The status a failure is answered with. -/
def Error.status : Error → Nat
  | .validation _ | .invalidInput _ | .json _ => 400
  | .notFound _ => 404
  | .signIn _ _ | .request _ _ _ | .connection _ => 502
  | .workbook _ | .inputOutput _ | .settings _ => 500

/-- The text of an object with the given texts of members. -/
def Json.objectText (members : List (String × String)) : String :=
  "\x7b" ++ ",".intercalate (members.map fun (name, v) => (Json.text name).compact ++ ":" ++ v) ++ "\x7d"

/-- The text of an array with the given texts of items. -/
def Json.arrayText (items : List String) : String := "[" ++ ",".intercalate items ++ "]"

/-- The text of a saved query. Its definition is given out as it came. -/
def SavedQuery.jsonText (q : SavedQuery) : String :=
  let text (s : String) : String := (Json.text s).compact
  Json.objectText <|
    [("id", text q.id.print), ("userId", text q.userId), ("environmentId", text q.environmentId),
      ("name", text q.name)]
    ++ (match q.description with
      | some d => [("description", text d)]
      | none => [])
    ++ [("definition", q.definition), ("createdAt", text q.createdAt.print),
      ("updatedAt", text q.updatedAt.print)]

namespace Web

inductive Body
  | empty
  | text (s : String)
  | workbook (parts : List Workbook.Part)
  deriving DecidableEq, Repr

structure Response where
  status : Nat
  contentType : Option String
  disposition : Option String
  body : Body
  deriving DecidableEq, Repr

def jsonType : String := "application/json"

def plainType : String := "text/plain; charset=utf-8"

def workbookType : String := "application/vnd.openxmlformats-officedocument.spreadsheetml.sheet"

/-- What an order yields. -/
inductive Yield
  /-- data, as the text of JSON -/
  | data (json : String)
  | workbook (fileName : String) (parts : List Workbook.Part)
  deriving DecidableEq, Repr

namespace Response

def json (status : Nat) (success : Bool) (data error : String) : Response where
  status := status
  contentType := some jsonType
  disposition := none
  body := .text <| Json.objectText
    [("success", (Json.bool success).compact), ("data", data), ("error", error)]

/-- The answer to a failure in words. -/
def failure (status : Nat) (message : String) : Response := json status false "null" (Json.text message).compact

def ofYield : Yield → Response
  | .data d => json 200 true d "null"
  | .workbook fileName parts =>
    { status := 200
      contentType := some workbookType
      disposition := some ("attachment; filename=\"" ++ fileName ++ "\"")
      body := .workbook parts }

/-- The answer to an outcome. -/
def ofOutcome : Except Error Yield → Response
  | .ok y => ofYield y
  | .error e => failure e.status e.message

/-- An answer without type and body. -/
def bare (status : Nat) : Response := ⟨status, none, none, .empty⟩

def plain (status : Nat) (words : String) : Response := ⟨status, some plainType, none, .text words⟩

/-- The answer to a request that is turned down. -/
def ofRefusal : Refusal → Response
  | .noSuchPlace => bare 404
  | .wrongMethod => bare 405
  | .noUser => failure 401 "missing or empty x-user-id header"
  | .badPath => plain 400 "the path names nothing that can be read"
  | .badQuery => plain 400 "a parameter is given twice"
  | .notJson => plain 415 "the body is not said to be JSON"
  | .badSyntax => plain 400 "the body is not JSON"
  | .badContent => plain 422 "the body does not fit the request"

/-- The answer without its body. -/
def withoutBody (r : Response) : Response := { r with body := .empty }

end Response

end Web

end QueryDesk
