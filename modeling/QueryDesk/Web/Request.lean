import QueryDesk.Text.Blank
import QueryDesk.Text.Percent
import QueryDesk.Web.Media

/-!
# Requests

What a client sends: a method, a target with a path and perhaps a query string, the name of the caller in a
header, and a body with its media type.
-/

namespace QueryDesk.Web

inductive Method
  | get
  | head
  | post
  | put
  | delete
  | other (name : String)
  deriving DecidableEq, Repr

/-- The method of a name, which is upper case. -/
def Method.ofName (name : String) : Method :=
  match [("GET", get), ("HEAD", head), ("POST", post), ("PUT", put), ("DELETE", delete)].lookup name with
  | some m => m
  | none => other name

structure Request where
  method : Method
  path : String
  query : Option String
  /-- the header with the name of the caller -/
  caller : Option String
  contentType : Option String
  body : String
  deriving DecidableEq, Repr

namespace Request

/-- A target without a scheme and a host in front of it. -/
def withoutHost (cs : List Char) : List Char :=
  match cs.dropWhile (fun c => c != ':' && c != '/') with
  | ':' :: '/' :: '/' :: rest => rest.dropWhile fun c => c != '/' && c != '?'
  | _ => cs

/-- The path and the query string of a target. What follows a number sign is not sent. -/
def splitTarget (target : String) : String × Option String :=
  let cs := withoutHost (target.toList.takeWhile (· != '#'))
  let path := String.ofList (cs.takeWhile (· != '?'))
  match cs.dropWhile (· != '?') with
  | [] => (path, none)
  | _ :: query => (path, some (String.ofList query))

/-- What a header may hold to be read as text. -/
def isHeaderChar (c : Char) : Bool := (' ' ≤ c && c ≤ '~') || c == '\t'

/-- The caller, whose name is text and not blank. -/
def user? (r : Request) : Option String :=
  r.caller.bind fun name =>
    let user := Text.trim name
    if name.toList.all isHeaderChar && user != "" then some user else none

/-- Whether the body is said to be JSON. -/
def isJson (r : Request) : Bool := ((r.contentType.bind MediaType.parse?).map MediaType.isJson).getD false

end Request

end QueryDesk.Web
