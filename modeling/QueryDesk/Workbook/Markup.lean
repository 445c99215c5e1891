/-!
# Markup

A small tree of elements and texts and its serial form. Texts and attribute values have the five markup
characters escaped, so no text can open or close an element.
-/

namespace QueryDesk.Workbook

inductive Markup
  /-- an element with a start tag and an end tag -/
  | element (name : String) (attributes : List (String × String)) (children : List Markup)
  /-- an element of one tag -/
  | single (name : String) (attributes : List (String × String))
  | text (s : String)
  deriving Repr, Inhabited

namespace Markup

def escapeChar (c : Char) : List Char :=
  if c = '<' then ['&', 'l', 't', ';']
  else if c = '>' then ['&', 'g', 't', ';']
  else if c = '&' then ['&', 'a', 'm', 'p', ';']
  else if c = '\'' then ['&', 'a', 'p', 'o', 's', ';']
  else if c = '"' then ['&', 'q', 'u', 'o', 't', ';']
  else [c]

def escape (s : String) : String := String.ofList (s.toList.flatMap escapeChar)

/-- The attributes of a tag, each behind a blank. -/
def renderAttributes : List (String × String) → String
  | [] => ""
  | (name, value) :: rest => " " ++ name ++ "=\"" ++ escape value ++ "\"" ++ renderAttributes rest

mutual
def render : Markup → String
  | .element name attributes children =>
    "<" ++ name ++ renderAttributes attributes ++ ">" ++ renderAll children ++ "</" ++ name ++ ">"
  | .single name attributes => "<" ++ name ++ renderAttributes attributes ++ "/>"
  | .text s => escape s
termination_by structural m => m

def renderAll : List Markup → String
  | [] => ""
  | m :: rest => m.render ++ renderAll rest
termination_by structural ms => ms
end

/-- A whole document: the declaration and the root element. -/
def document (root : Markup) : String :=
  "<?xml version=\"1.0\" encoding=\"UTF-8\" standalone=\"yes\"?>" ++ root.render

end Markup

end QueryDesk.Workbook
