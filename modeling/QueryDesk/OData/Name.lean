import QueryDesk.Query.Basic

/-!
# Navigation names

The property through which a join is expanded, and the path of a field from the primary entity.
-/

namespace QueryDesk

/-- A name without its last two letters where these are `id` in any case and something stands before
them. -/
def stripId (cs : List Char) : List Char :=
  match cs.reverse with
  | d :: i :: c :: rest =>
    if (i = 'i' ∨ i = 'I') ∧ (d = 'd' ∨ d = 'D') then (c :: rest).reverse else cs
  | _ => cs

/-- The navigation property of a lookup field: its name without the trailing `id`. -/
def navigationProperty (fromField : String) : String := String.ofList (stripId fromField.toList)

/-- The navigation property of a join: the one it names, or the one of its lookup field. -/
def Join.navigation (j : Join) : String :=
  match j.navigationProperty with
  | some n => if n = "" then QueryDesk.navigationProperty j.fromField else n
  | none => QueryDesk.navigationProperty j.fromField

/-- The path of a field: the navigation properties on the way to its alias, then its name. -/
def Query.propertyPath (q : Query) (entityAlias fieldName : String) : String :=
  "/".intercalate ((q.joinPath entityAlias).map Join.navigation ++ [fieldName])

end QueryDesk
