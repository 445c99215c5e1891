import QueryDesk.Execution
import QueryDesk.Settings.Basic
import QueryDesk.Workbook.Package

/-!
# Exporting

An export is the first page of a query, as large as the row limit, packed as a workbook.
-/

namespace QueryDesk

namespace ExportOptions

/-- The number of rows asked for: the cap of the query where it has one and it is smaller, or else the
configured one. -/
def rowLimit (o : ExportOptions) (q : Query) : Nat :=
  match q.top with
  | some top => if 0 < top then min top o.maxRows else o.maxRows
  | none => o.maxRows

/-- The parts of the workbook with the first rows of a query. -/
def workbook (o : ExportOptions) (remote : Remote) (environments : EnvironmentStore) (userId : String)
    (q : Query) : Exchange (List Workbook.Part) := do
  let limit := o.rowLimit q
  let page ← execute remote environments userId q 1 limit false limit
  return Workbook.parts page o.sheetName

end ExportOptions

/-- The file name of the export of a query. -/
def Query.exportName (q : Query) : String := q.primaryEntity ++ "-export.xlsx"

end QueryDesk
