import QueryDesk.Grid
import QueryDesk.Text.Blank
import QueryDesk.Workbook.Markup
import QueryDesk.Workbook.Reference

/-!
# The worksheet

A result page as rows of cells: a styled header row with the titles of the columns, then one row per
result row, in which a missing or null value has no cell. `sheetMarkup` is the worksheet part.
-/

namespace QueryDesk.Workbook

/-- What a cell shows. -/
inductive Content
  | text (s : String)
  /-- a number, by its decimal text -/
  | number (s : String)
  | bool (b : Bool)
  deriving DecidableEq, Repr

structure Cell where
  column : Nat
  row : Nat
  header : Bool
  content : Content
  deriving DecidableEq, Repr

/-- What is shown for a value. Arrays and objects are shown as their JSON text. -/
def content? : Option Json → Option Content
  | none | some .null => none
  | some (.text s) => some (.text s)
  | some (.number n) => some (.number (String.ofList n.print))
  | some (.bool b) => some (.bool b)
  | some j => some (.text j.compact)

/-- The cells of the header row. -/
def headerCells (columns : List Column) : List Cell :=
  columns.zipIdx.map fun (c, i) => ⟨i, 1, true, .text c.displayName⟩

/-- The cells of a data row with its number. -/
def rowCells (columns : List Column) (number : Nat) (row : Row) : List Cell :=
  columns.zipIdx.filterMap fun (c, i) =>
    (content? (row.get? c.key)).map (⟨i, number, false, ·⟩)

/-- The numbered rows of a result page. -/
def sheetRows (page : ResultPage) : List (Nat × List Cell) :=
  (1, headerCells page.columns)
    :: (page.rows.zipIdx 2).map fun (row, number) => (number, rowCells page.columns number row)

/-- A text cell holds its text inline, any other one a value of a marked kind. -/
def Cell.markup (c : Cell) : Markup :=
  let reference := ("r", cellReference c.column c.row)
  let style := if c.header then [("s", "1")] else []
  match c.content with
  | .text s =>
    .element "c" (reference :: style ++ [("t", "inlineStr")])
      [.element "is" [] [.element "t" [("xml:space", "preserve")] [.text s]]]
  | .number s => .element "c" (reference :: style ++ [("t", "n")]) [.element "v" [] [.text s]]
  | .bool b =>
    .element "c" (reference :: style ++ [("t", "b")]) [.element "v" [] [.text (if b then "1" else "0")]]

/-- The namespaces of a root element. -/
def rootAttributes : List (String × String) :=
  [("xmlns", "http://schemas.openxmlformats.org/spreadsheetml/2006/main"),
    ("xmlns:r", "http://schemas.openxmlformats.org/officeDocument/2006/relationships")]

/-- The worksheet. Its size and the filter over it are given where there is a column. -/
def sheetMarkup (page : ResultPage) : Markup :=
  let range := (tableRange? page.columns.length page.rows.length).toList
  .element "worksheet" rootAttributes <|
    range.map (fun r => .single "dimension" [("ref", r)])
      ++ [.element "sheetData" [] ((sheetRows page).map fun (number, cells) =>
          .element "row" [("r", toString number)] (cells.map Cell.markup))]
      ++ range.map (fun r => .single "autoFilter" [("ref", r)])

/-- Characters a sheet may not have in its name. -/
def isForbiddenInTitle (c : Char) : Bool := ['[', ']', ':', '*', '?', '/', '\\'].contains c

/-- A legal sheet name from any text: forbidden characters become underscores, at most 31 characters are
kept, and blanks and then apostrophes at the ends go. -/
def sheetTitle (name : String) : String :=
  let cleaned := (name.toList.map fun c => if isForbiddenInTitle c then '_' else c).take 31
  let trimmed := Text.trimWhile (· == '\'') (Text.trimWhile Text.isBlank cleaned)
  if trimmed.isEmpty then "Sheet1" else String.ofList trimmed

/-- The sheet name as it stands in a formula, its apostrophes doubled. -/
def quotedTitle (title : String) : String :=
  "'" ++ String.ofList (title.toList.flatMap fun c => if c = '\'' then ['\'', '\''] else [c]) ++ "'"

/-- The workbook part with its one sheet. The filtered range is registered as a hidden name. -/
def workbookMarkup (page : ResultPage) (title : String) : Markup :=
  let names := (fixedRange? page.columns.length page.rows.length).toList.map fun range =>
    Markup.element "definedNames" []
      [.element "definedName" [("name", "_xlnm._FilterDatabase"), ("localSheetId", "0"), ("hidden", "1")]
        [.text (quotedTitle title ++ "!" ++ range)]]
  .element "workbook" rootAttributes <|
    .element "sheets" [] [.single "sheet" [("name", title), ("sheetId", "1"), ("r:id", "rId1")]] :: names

end QueryDesk.Workbook
