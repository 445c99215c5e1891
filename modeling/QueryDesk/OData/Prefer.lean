/-!
# Preferences of a data request
-/

namespace QueryDesk.OData

/-- Asks for all annotations and for pages of a size. -/
def preference (pageSize : Nat) : String :=
  "odata.include-annotations=\"*\",odata.maxpagesize=" ++ toString pageSize

end QueryDesk.OData
