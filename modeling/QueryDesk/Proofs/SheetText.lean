import Mathlib.Data.List.Forall2
import Mathlib.Data.List.Nodup
import QueryDesk.Proofs.CellReferences
import QueryDesk.Proofs.MarkupText
import QueryDesk.Workbook.Sheet

/-!
# The worksheet read back

`readSheet` goes through the tags and characters of a worksheet and keeps the rows and the cells. For any page of results
it finds the header and the values that are not null, each where it belongs (`Table.Written`), and the tags of a
worksheet with their attributes are determined by the number of its columns and the kinds of its values
(`sheet_read_back`): no text takes part in them.
-/

namespace QueryDesk.Workbook

open Markup (Tag Piece Named scan unescape pieces piecesAll)

/-! ### The reader -/

/-- A cell as it is found, with what its reference names. -/
structure SheetCell where
  reference : String
  /-- the column, from zero, and the row, from one -/
  place : Nat × Nat
  style : Option String
  content : Content
  deriving DecidableEq, Repr

structure SheetRow where
  number : Nat
  cells : List SheetCell
  deriving DecidableEq, Repr

/-- How far a reader has come: the rows behind it, and the row and the cell it is in. -/
inductive SheetReader
  | between (rows : List SheetRow)
  | inRow (rows : List SheetRow) (row : SheetRow)
  | inCell (rows : List SheetRow) (row : SheetRow) (attributes : List (String × String)) (raw : List Char)

def readContent (mark text : String) : Option Content :=
  if mark = "inlineStr" then some (.text text)
  else if mark = "n" then some (.number text)
  else if mark = "b" ∧ text = "1" then some (.bool true)
  else if mark = "b" ∧ text = "0" then some (.bool false)
  else none

/-- A cell from its attributes and the characters in it. -/
def readCell (attributes : List (String × String)) (raw : List Char) : Option SheetCell := do
  let reference ← attributes.lookup "r"
  let place ← readReference reference
  let text ← unescape raw
  let content ← readContent (← attributes.lookup "t") (String.ofList text)
  return ⟨reference, place, attributes.lookup "s", content⟩

namespace SheetReader

def openRow (attributes : List (String × String)) : SheetReader → Option SheetReader
  | .between rows => do
    let number ← OData.readNumber (← attributes.lookup "r").toList
    return .inRow rows ⟨number, []⟩
  | _ => none

def openCell (attributes : List (String × String)) : SheetReader → Option SheetReader
  | .inRow rows row => some (.inCell rows row attributes [])
  | _ => none

def closeCell : SheetReader → Option SheetReader
  | .inCell rows row attributes raw =>
    (readCell attributes raw).map fun cell => .inRow rows ⟨row.number, row.cells ++ [cell]⟩
  | _ => none

def closeRow : SheetReader → Option SheetReader
  | .inRow rows row => some (.between (rows ++ [row]))
  | _ => none

/-- Only what stands in a cell is kept. -/
def addChar (c : Char) : SheetReader → SheetReader
  | .inCell rows row attributes raw => .inCell rows row attributes (raw ++ [c])
  | reader => reader

/-- One piece. A row in a row or a cell, and a cell that is not in a row, cannot be read; other elements are passed
over. -/
def step (reader : SheetReader) : Piece → Option SheetReader
  | .tag (.opening name attributes) =>
    if name = "row" then reader.openRow attributes
    else if name = "c" then reader.openCell attributes
    else some reader
  | .tag (.closing name) =>
    if name = "row" then reader.closeRow else if name = "c" then reader.closeCell else some reader
  | .tag (.single name _) => if name = "row" ∨ name = "c" then none else some reader
  | .tag .declaration => some reader
  | .char c => some (reader.addChar c)

def run (reader : SheetReader) (ps : List Piece) : Option SheetReader := ps.foldlM step reader

/-- The rows, once none is open. -/
def rows? : SheetReader → Option (List SheetRow)
  | .between rows => some rows
  | _ => none

end SheetReader

def readSheet (text : String) : Option (List SheetRow) := do
  let reader ← SheetReader.run (.between []) (← scan none text.toList)
  reader.rows?

def tag? : Piece → Option Tag
  | .tag t => some t
  | .char _ => none

/-- All tags of a document, with their attributes. -/
def readTags (text : String) : Option (List Tag) := (scan none text.toList).map (·.filterMap tag?)

/-! ### What is to be read -/

/-- Titles and rows of values, null where there is none. -/
structure Table where
  titles : List String
  values : List (List Json)

/-- What a page of results holds under each of its columns. -/
def Table.ofPage (page : ResultPage) : Table where
  titles := page.columns.map (·.displayName)
  values := page.rows.map fun row => page.columns.map fun c => (row.get? c.key).getD .null

/-- How a value is shown: arrays and objects, and also numbers, by their JSON text. -/
inductive Shows : Json → Content → Prop
  | text (s : String) : Shows (.text s) (.text s)
  | number (n : Number) : Shows (.number n) (.number (Json.number n).compact)
  | bool (b : Bool) : Shows (.bool b) (.bool b)
  | array (vs : List Json) : Shows (.array vs) (.text (Json.array vs).compact)
  | object (ms : Members) : Shows (.object ms) (.text (Json.object ms).compact)

def sheetCell (column row : Nat) (style : Option String) (content : Content) : SheetCell :=
  ⟨cellReference column row, (column, row), style, content⟩

/-- The cells of a row of values, from a column on: none for null, and one for any other value. -/
inductive CellsShow (number : Nat) : Nat → List Json → List SheetCell → Prop
  | nil (i : Nat) : CellsShow number i [] []
  | null {i : Nat} {values : List Json} {cells : List SheetCell} (h : CellsShow number (i + 1) values cells) :
      CellsShow number i (.null :: values) cells
  | shown {i : Nat} {v : Json} {content : Content} {values : List Json} {cells : List SheetCell}
      (hv : Shows v content) (h : CellsShow number (i + 1) values cells) :
      CellsShow number i (v :: values) (sheetCell i number none content :: cells)

/-- The rows of the worksheet of a table. -/
structure Table.Written (t : Table) (rows : List SheetRow) : Prop where
  numbers : rows.map (·.number) = List.range' 1 (t.values.length + 1)
  header : rows.head?.map (·.cells) =
    some (t.titles.zipIdx.map fun (title, i) => sheetCell i 1 (some "1") (.text title))
  data : List.Forall₂ (fun values row => CellsShow row.number 0 values row.cells) t.values rows.tail
  distinct : (rows.flatMap fun row => row.cells.map (·.reference)).Nodup

theorem Table.Written.length_rows {t : Table} {rows : List SheetRow} (h : t.Written rows) :
    rows.length = t.values.length + 1 := by
  have hlength := congrArg List.length h.numbers
  rwa [List.length_map, List.length_range'] at hlength

inductive Kind
  | text
  | number
  | bool
  deriving DecidableEq, Repr

/-- The kind of cell that shows a value, and none for null. -/
def kind? : Json → Option Kind
  | .null => none
  | .number _ => some .number
  | .bool _ => some .bool
  | .text _ | .array _ | .object _ => some .text

/-- All of a table but its texts and numbers: how many columns there are, and the kinds of the values. -/
structure Outline where
  columns : Nat
  kinds : List (List (Option Kind))
  deriving DecidableEq, Repr

def Table.outline (t : Table) : Outline := ⟨t.titles.length, t.values.map (·.map kind?)⟩

/-! ### The tags of a worksheet -/

/-- How a kind is marked in the tag of a cell. -/
def Kind.mark : Kind → String
  | .text => "inlineStr"
  | .number => "n"
  | .bool => "b"

def Kind.tags : Kind → List Tag
  | .text => [.opening "is" [], .opening "t" [("xml:space", "preserve")], .closing "t", .closing "is"]
  | .number | .bool => [.opening "v" [], .closing "v"]

def cellAttributes (column row : Nat) (header : Bool) (kind : Kind) : List (String × String) :=
  ("r", cellReference column row) :: (if header then [("s", "1")] else []) ++ [("t", kind.mark)]

def cellTags (column row : Nat) (header : Bool) (kind : Kind) : List Tag :=
  .opening "c" (cellAttributes column row header kind) :: (kind.tags ++ [.closing "c"])

def rowTags (number : Nat) (cells : List Tag) : List Tag :=
  .opening "row" [("r", toString number)] :: (cells ++ [.closing "row"])

/-- The tags of the cells of a row, from a column on. -/
def kindTags (number : Nat) : Nat → List (Option Kind) → List Tag
  | _, [] => []
  | i, kind? :: kinds => (kind?.elim [] (cellTags i number false)) ++ kindTags number (i + 1) kinds

/-- The tags of the worksheet of a table of which only the outline is known. -/
def sheetTags (o : Outline) : List Tag :=
  let range (name : String) := ((tableRange? o.columns o.kinds.length).toList.map fun r => Tag.single name [("ref", r)])
  let header := (List.range o.columns).flatMap fun i => cellTags i 1 true .text
  let data := (o.kinds.zipIdx 2).flatMap fun (kinds, number) => rowTags number (kindTags number 0 kinds)
  .declaration :: .opening "worksheet" rootAttributes :: (range "dimension" ++
    .opening "sheetData" [] :: (rowTags 1 header ++ data ++ .closing "sheetData" ::
      (range "autoFilter" ++ [.closing "worksheet"])))

/-! ### Cells -/

/-- What is written of a content. -/
def Content.raw : Content → String
  | .text s | .number s => s
  | .bool b => if b then "1" else "0"

def Content.kind : Content → Kind
  | .text _ => .text
  | .number _ => .number
  | .bool _ => .bool

def Content.markup (c : Content) : Markup :=
  match c.kind with
  | .text => .element "is" [] [.element "t" [("xml:space", "preserve")] [.text c.raw]]
  | .number | .bool => .element "v" [] [.text c.raw]

def rowMarkup (number : Nat) (cells : List Cell) : Markup :=
  .element "row" [("r", toString number)] (cells.map Cell.markup)

/-- What is read of a cell. -/
def Cell.read (c : Cell) : SheetCell :=
  sheetCell c.column c.row (if c.header then some "1" else none) c.content

theorem Cell.markup_eq (c : Cell) :
    c.markup = .element "c" (cellAttributes c.column c.row c.header c.content.kind) [c.content.markup] := by
  obtain ⟨column, row, header, content⟩ := c
  cases content <;> rfl

theorem Content.readContent_raw (c : Content) : readContent c.kind.mark c.raw = some c := by
  cases c with
  | text s => rfl
  | number s => rfl
  | bool b => cases b <;> decide

theorem Cell.readCell_attributes (c : Cell) :
    readCell (cellAttributes c.column c.row c.header c.content.kind) (Markup.escape c.content.raw).toList =
      some c.read := by
  have hreference : (cellAttributes c.column c.row c.header c.content.kind).lookup "r" =
      some (cellReference c.column c.row) := rfl
  have hmark : (cellAttributes c.column c.row c.header c.content.kind).lookup "t" = some c.content.kind.mark := by
    cases h : c.header <;> rfl
  have hstyle : (cellAttributes c.column c.row c.header c.content.kind).lookup "s" =
      if c.header then some "1" else none := by
    cases h : c.header <;> rfl
  simp only [readCell, hreference, hmark, hstyle, readReference_cellReference, Markup.unescape_escape,
    String.ofList_toList, Content.readContent_raw, Option.bind_eq_bind, Option.bind_some, Option.pure_def, Cell.read,
    sheetCell]

/-! ### Reading -/

namespace SheetReader

theorem run_append (reader : SheetReader) (ps ps' : List Piece) :
    reader.run (ps ++ ps') = (reader.run ps).bind (·.run ps') :=
  List.foldlM_append

theorem run_cons (reader : SheetReader) (p : Piece) (ps : List Piece) :
    reader.run (p :: ps) = (reader.step p).bind (·.run ps) :=
  List.foldlM_cons

theorem run_nil (reader : SheetReader) : reader.run [] = some reader := rfl

theorem run_chars (rows : List SheetRow) (row : SheetRow) (attributes : List (String × String)) (raw cs : List Char) :
    (inCell rows row attributes raw).run (cs.map .char) = some (inCell rows row attributes (raw ++ cs)) := by
  induction cs generalizing raw with
  | nil => rw [List.map_nil, run_nil, List.append_nil]
  | cons c cs ih =>
    have hstep : (inCell rows row attributes raw).step (.char c) = some (inCell rows row attributes (raw ++ [c])) := rfl
    rw [List.map_cons, run_cons, hstep, Option.bind_some, ih, List.append_assoc, List.singleton_append]

/-- In a cell nothing but the characters is kept. -/
theorem run_content (rows : List SheetRow) (row : SheetRow) (attributes : List (String × String)) (c : Content) :
    (inCell rows row attributes []).run c.markup.pieces =
      some (inCell rows row attributes (Markup.escape c.raw).toList) := by
  have hchars := run_chars rows row attributes [] (Markup.escape c.raw).toList
  rw [Content.markup]
  cases c.kind
  all_goals
    simp only [pieces, piecesAll, List.append_nil, List.append_assoc, List.cons_append, List.nil_append]
    simp only [run_cons, run_append, run_nil, step, String.reduceEq, if_false, Option.bind_some, hchars, List.nil_append]

theorem run_cell (rows : List SheetRow) (row : SheetRow) (c : Cell) :
    (inRow rows row).run c.markup.pieces = some (inRow rows ⟨row.number, row.cells ++ [c.read]⟩) := by
  have hclose := c.readCell_attributes
  simp only [Cell.markup_eq, pieces, piecesAll, List.append_nil, run_cons, run_append, run_nil, step, String.reduceEq,
    if_false, if_true, openCell, Option.bind_some, run_content, closeCell, hclose, Option.map_some]

theorem run_cells (rows : List SheetRow) (row : SheetRow) (cells : List Cell) :
    (inRow rows row).run (piecesAll (cells.map Cell.markup)) =
      some (inRow rows ⟨row.number, row.cells ++ cells.map Cell.read⟩) := by
  induction cells generalizing row with
  | nil => rw [List.map_nil, List.map_nil, piecesAll, run_nil, List.append_nil]
  | cons c cells ih =>
    rw [List.map_cons, piecesAll, run_append, run_cell, Option.bind_some, ih, List.map_cons, List.append_assoc,
      List.singleton_append]

theorem run_row (rows : List SheetRow) (number : Nat) (cells : List Cell) :
    (between rows).run (rowMarkup number cells).pieces = some (between (rows ++ [⟨number, cells.map Cell.read⟩])) := by
  have hnumber : openRow [("r", toString number)] (between rows) = some (inRow rows ⟨number, []⟩) := by
    simp only [openRow, List.lookup_cons_self, Option.bind_eq_bind, Option.bind_some, OData.readNumber_toString,
      Option.pure_def]
  simp only [rowMarkup, pieces, run_cons, run_append, run_nil, step, if_true, hnumber, Option.bind_some, run_cells,
    closeRow, List.nil_append]

theorem run_rows (rows : List SheetRow) (numbered : List (Nat × List Cell)) :
    (between rows).run (piecesAll (numbered.map fun (number, cells) => rowMarkup number cells)) =
      some (between (rows ++ numbered.map fun (number, cells) => ⟨number, cells.map Cell.read⟩)) := by
  induction numbered generalizing rows with
  | nil => rw [List.map_nil, List.map_nil, piecesAll, run_nil, List.append_nil]
  | cons r numbered ih =>
    rw [List.map_cons, piecesAll, run_append, run_row, Option.bind_some, ih, List.map_cons, List.append_assoc,
      List.singleton_append]

/-- The elements before and behind the rows hold none. -/
theorem run_range (rows : List SheetRow) {name : String} (hrow : name ≠ "row") (hcell : name ≠ "c")
    (range : Option String) :
    (between rows).run (piecesAll (range.toList.map fun r => .single name [("ref", r)])) = some (between rows) := by
  cases range with
  | none => rfl
  | some r =>
    simp only [Option.toList_some, List.map_cons, List.map_nil, piecesAll, pieces, List.append_nil, run_cons, run_nil,
      step, hrow, hcell, or_self, if_false, Option.bind_some]

end SheetReader

/-- What is read of the range of the rows, where it is given. -/
def rangePieces (page : ResultPage) (name : String) : List Piece :=
  piecesAll ((tableRange? page.columns.length page.rows.length).toList.map fun r => .single name [("ref", r)])

/-- The worksheet with its range, which is given before and behind the rows. -/
theorem sheetMarkup_eq (page : ResultPage) :
    sheetMarkup page = .element "worksheet" rootAttributes
      ((tableRange? page.columns.length page.rows.length).toList.map (fun r => .single "dimension" [("ref", r)]) ++
        [.element "sheetData" [] ((sheetRows page).map fun (number, cells) => rowMarkup number cells)] ++
        (tableRange? page.columns.length page.rows.length).toList.map (fun r => .single "autoFilter" [("ref", r)])) :=
  rfl

theorem isName_cellAttributes (column row : Nat) (header : Bool) (kind : Kind) :
    ∀ a ∈ cellAttributes column row header kind, Markup.isName a.1 = true := by
  have hreference : Markup.isName "r" = true := by decide
  have hstyle : Markup.isName "s" = true := by decide
  have hmark : Markup.isName "t" = true := by decide
  cases header <;> simp [cellAttributes, hreference, hstyle, hmark]

theorem Content.named_markup (c : Content) : c.markup.Named := by
  have htext : ∀ m ∈ [Markup.text c.raw], m.Named := List.forall_mem_singleton.2 (.text c.raw)
  rw [Content.markup]
  cases c.kind with
  | text =>
    refine .element (by decide) (by simp) (List.forall_mem_singleton.2 ?_)
    exact .element (by decide) (List.forall_mem_singleton.2 (by decide)) htext
  | number | bool => exact .element (by decide) (by simp) htext

theorem Cell.named_markup (c : Cell) : c.markup.Named := by
  rw [Cell.markup_eq]
  exact .element (by decide) (isName_cellAttributes _ _ _ _) (List.forall_mem_singleton.2 c.content.named_markup)

theorem named_rowMarkup (number : Nat) (cells : List Cell) : (rowMarkup number cells).Named := by
  have hnumber : Markup.isName "r" = true := by decide
  refine .element (by decide) (List.forall_mem_singleton.2 hnumber) fun m hm => ?_
  obtain ⟨c, -, rfl⟩ := List.mem_map.1 hm
  exact c.named_markup

theorem named_sheetMarkup (page : ResultPage) : (sheetMarkup page).Named := by
  have hcorners : Markup.isName "ref" = true := by decide
  have hrange {name : String} (h : Markup.isName name = true) :
      ∀ m ∈ (tableRange? page.columns.length page.rows.length).toList.map (fun r => Markup.single name [("ref", r)]),
        m.Named := by
    intro m hm
    obtain ⟨r, -, rfl⟩ := List.mem_map.1 hm
    exact .single h (List.forall_mem_singleton.2 hcorners)
  have hrows : ∀ m ∈ (sheetRows page).map (fun (number, cells) => rowMarkup number cells), m.Named := by
    intro m hm
    obtain ⟨⟨number, cells⟩, -, rfl⟩ := List.mem_map.1 hm
    exact named_rowMarkup number cells
  rw [sheetMarkup_eq]
  refine .element (by decide) (by decide) fun m hm => ?_
  rcases List.mem_append.1 hm with hm | hm
  · rcases List.mem_append.1 hm with hm | hm
    · exact hrange (by decide) m hm
    · rw [List.mem_singleton.1 hm]
      exact .element (by decide) (by simp) hrows
  · exact hrange (by decide) m hm

/-- The pieces of the worksheet around those of its rows. -/
theorem pieces_sheetMarkup (page : ResultPage) :
    (sheetMarkup page).pieces = .tag (.opening "worksheet" rootAttributes) ::
      (rangePieces page "dimension" ++ (.tag (.opening "sheetData" []) ::
        (piecesAll ((sheetRows page).map fun (number, cells) => rowMarkup number cells) ++
          (.tag (.closing "sheetData") ::
          (rangePieces page "autoFilter" ++ [.tag (.closing "worksheet")]))))) := by
  simp only [sheetMarkup_eq, pieces, rangePieces, Markup.piecesAll_eq_flatMap, List.flatMap_append,
    List.flatMap_cons, List.append_assoc, List.cons_append, List.nil_append]

theorem readSheet_document (page : ResultPage) :
    readSheet (Markup.document (sheetMarkup page)) =
      some ((sheetRows page).map fun (number, cells) => ⟨number, cells.map Cell.read⟩) := by
  have hroot : SheetReader.run (.between []) (.tag .declaration :: (sheetMarkup page).pieces) =
      some (.between ((sheetRows page).map fun (number, cells) => ⟨number, cells.map Cell.read⟩)) := by
    simp only [pieces_sheetMarkup, SheetReader.run_cons, SheetReader.run_append, SheetReader.run_nil, SheetReader.step,
      String.reduceEq, if_false, Option.bind_some, rangePieces, SheetReader.run_rows, List.nil_append, ne_eq,
      not_false_eq_true, SheetReader.run_range]
  rw [readSheet, (named_sheetMarkup page).scan_document, Option.bind_eq_bind, Option.bind_some, hroot]
  rfl

/-! ### The cells of a table -/

/-- The cells of a row of values, from a column on. -/
def cellsFrom (number : Nat) : Nat → List Json → List Cell
  | _, [] => []
  | i, v :: values => ((content? (some v)).map (⟨i, number, false, ·⟩)).toList ++ cellsFrom number (i + 1) values

theorem rowCells_eq (columns : List Column) (number : Nat) (row : Row) :
    rowCells columns number row = cellsFrom number 0 (columns.map fun c => (row.get? c.key).getD .null) := by
  have hvalue (c : Column) : content? (some ((row.get? c.key).getD .null)) = content? (row.get? c.key) := by
    cases row.get? c.key <;> rfl
  rw [rowCells]
  generalize 0 = i
  induction columns generalizing i with
  | nil => rfl
  | cons c columns ih =>
    rw [List.zipIdx_cons, List.filterMap_cons, ih, List.map_cons, cellsFrom, hvalue]
    dsimp only
    cases content? (row.get? c.key) <;> rfl

theorem sheetRows_eq (page : ResultPage) :
    sheetRows page = (1, (Table.ofPage page).titles.zipIdx.map fun (title, i) => ⟨i, 1, true, .text title⟩) ::
      ((Table.ofPage page).values.zipIdx 2).map fun (values, number) => (number, cellsFrom number 0 values) := by
  simp only [sheetRows, headerCells, Table.ofPage, rowCells_eq, List.zipIdx_map, List.map_map, Function.comp_def,
    Prod.map_fst, Prod.map_snd, id_eq]

/-- Null has no cell, and any other value has one that shows it. -/
theorem content?_cases (v : Json) :
    (v = .null ∧ content? (some v) = none) ∨
      ∃ content, content? (some v) = some content ∧ Shows v content ∧ kind? v = some content.kind := by
  cases v with
  | null => exact .inl ⟨rfl, rfl⟩
  | bool b => exact .inr ⟨_, rfl, .bool b, rfl⟩
  | number n => exact .inr ⟨_, rfl, .number n, rfl⟩
  | text s => exact .inr ⟨_, rfl, .text s, rfl⟩
  | array vs => exact .inr ⟨_, rfl, .array vs, rfl⟩
  | object ms => exact .inr ⟨_, rfl, .object ms, rfl⟩

theorem cellsFrom_shown {v : Json} {content : Content} (h : content? (some v) = some content) (number i : Nat)
    (values : List Json) :
    cellsFrom number i (v :: values) = ⟨i, number, false, content⟩ :: cellsFrom number (i + 1) values := by
  rw [cellsFrom, h]
  rfl

theorem cellsShow_cellsFrom (number i : Nat) (values : List Json) :
    CellsShow number i values ((cellsFrom number i values).map Cell.read) := by
  induction values generalizing i with
  | nil => exact .nil i
  | cons v values ih =>
    obtain ⟨rfl, -⟩ | ⟨content, hcontent, hshows, -⟩ := content?_cases v
    · exact .null (ih (i + 1))
    · rw [cellsFrom_shown hcontent]
      exact .shown hshows (ih (i + 1))

/-! ### References -/

theorem row_of_mem_cellsFrom {number i : Nat} {values : List Json} {c : Cell} (h : c ∈ cellsFrom number i values) :
    c.row = number := by
  induction values generalizing i with
  | nil => cases h
  | cons v values ih =>
    obtain ⟨rfl, -⟩ | ⟨content, hcontent, -, -⟩ := content?_cases v
    · exact ih h
    · rw [cellsFrom_shown hcontent] at h
      rcases List.mem_cons.1 h with rfl | h
      · rfl
      · exact ih h

theorem columns_cellsFrom_sublist (number i : Nat) (values : List Json) :
    ((cellsFrom number i values).map (·.column)).Sublist (List.range' i values.length) := by
  induction values generalizing i with
  | nil => exact .slnil
  | cons v values ih =>
    obtain ⟨rfl, -⟩ | ⟨content, hcontent, -, -⟩ := content?_cases v
    · exact (ih (i + 1)).cons i
    · rw [cellsFrom_shown hcontent]
      exact (ih (i + 1)).cons_cons i

/-- If rows have different numbers and the cells of a row are in different columns, no reference is given twice. -/
theorem nodup_references {numbered : List (Nat × List Cell)} (hnumbers : (numbered.map (·.1)).Nodup)
    (hrows : ∀ r ∈ numbered, ∀ c ∈ r.2, c.row = r.1) (hcolumns : ∀ r ∈ numbered, (r.2.map (·.column)).Nodup) :
    (numbered.flatMap fun r => r.2.map fun c => cellReference c.column c.row).Nodup := by
  have hplace {c d : Cell} (h : cellReference c.column c.row = cellReference d.column d.row) :
      c.column = d.column ∧ c.row = d.row := by
    have hread := readReference_cellReference c.column c.row
    rw [h, readReference_cellReference] at hread
    exact Prod.mk.inj (Option.some.inj hread.symm)
  -- in one row the columns differ, and in two rows the numbers do
  rw [List.nodup_flatMap]
  constructor
  · intro r hr
    refine (List.pairwise_map.1 (hcolumns r hr)).map _ fun c d hne heq => ?_
    exact hne (hplace heq).1
  · refine (List.pairwise_map.1 hnumbers).imp_of_mem fun {r s} hr hs hne => ?_
    intro reference hmem hmem'
    obtain ⟨c, hc, rfl⟩ := List.mem_map.1 hmem
    obtain ⟨d, hd, heq⟩ := List.mem_map.1 hmem'
    exact hne (by rw [← hrows r hr c hc, ← hrows s hs d hd, (hplace heq).2])

theorem numbers_sheetRows (page : ResultPage) :
    (sheetRows page).map (·.1) = List.range' 1 ((Table.ofPage page).values.length + 1) := by
  rw [sheetRows_eq, List.map_cons, List.map_map, List.range'_succ, ← List.zipIdx_map_snd]
  rfl

theorem written_sheetRows (page : ResultPage) :
    (Table.ofPage page).Written ((sheetRows page).map fun (number, cells) => ⟨number, cells.map Cell.read⟩) := by
  have hnumbers := numbers_sheetRows page
  have hrow : ∀ r ∈ sheetRows page, (∀ c ∈ r.2, c.row = r.1) ∧ (r.2.map (·.column)).Nodup := by
    intro r hr
    rw [sheetRows_eq, List.mem_cons, List.mem_map] at hr
    -- the header has a cell in every column, a data row only where there is a value
    rcases hr with rfl | ⟨⟨values, number⟩, -, rfl⟩
    · constructor
      · intro c hc
        obtain ⟨⟨title, i⟩, -, rfl⟩ := List.mem_map.1 hc
        rfl
      · rw [List.map_map]
        have hcolumns := List.nodup_range' (s := 0) (n := (Table.ofPage page).titles.length)
        rw [← List.zipIdx_map_snd] at hcolumns
        exact hcolumns
    · exact ⟨fun c => row_of_mem_cellsFrom, (columns_cellsFrom_sublist number 0 values).nodup List.nodup_range'⟩
  refine ⟨?_, ?_, ?_, ?_⟩
  · rw [← hnumbers, List.map_map]
    rfl
  · rw [sheetRows_eq, List.map_cons, List.head?_cons, Option.map_some]
    exact congrArg some List.map_map
  · rw [sheetRows_eq, List.map_cons, List.tail_cons, List.map_map]
    generalize (Table.ofPage page).values = values
    generalize 2 = first
    induction values generalizing first with
    | nil => exact .nil
    | cons v values ih => exact .cons (cellsShow_cellsFrom first 0 v) (ih (first + 1))
  · have hnodup := nodup_references (hnumbers ▸ List.nodup_range') (fun r hr => (hrow r hr).1) fun r hr => (hrow r hr).2
    simp only [List.flatMap_map, List.map_map]
    exact hnodup

/-! ### Tags -/

theorem tags_chars (cs : List Char) : (cs.map Piece.char).filterMap tag? = [] := by
  induction cs with
  | nil => rfl
  | cons c cs ih => exact ih

theorem Content.tags_markup (c : Content) : c.markup.pieces.filterMap tag? = c.kind.tags := by
  rw [Content.markup]
  cases c.kind
  all_goals
    simp only [pieces, piecesAll, List.append_nil, List.filterMap_cons, List.filterMap_append, List.filterMap_nil, tag?,
      tags_chars, List.nil_append, List.cons_append, Kind.tags]

theorem Cell.tags_markup (c : Cell) :
    c.markup.pieces.filterMap tag? = cellTags c.column c.row c.header c.content.kind := by
  simp only [Cell.markup_eq, pieces, piecesAll, List.append_nil, List.filterMap_cons, List.filterMap_append,
    List.filterMap_nil, tag?, Content.tags_markup, cellTags]

theorem tags_rowMarkup (number : Nat) (cells : List Cell) :
    (rowMarkup number cells).pieces.filterMap tag? =
      rowTags number (cells.flatMap fun c => cellTags c.column c.row c.header c.content.kind) := by
  have hcells : (piecesAll (cells.map Cell.markup)).filterMap tag? =
      cells.flatMap fun c => cellTags c.column c.row c.header c.content.kind := by
    rw [Markup.piecesAll_eq_flatMap, List.flatMap_map, List.filterMap_flatMap]
    simp only [Cell.tags_markup]
  simp only [rowMarkup, pieces, List.filterMap_cons, List.filterMap_append, List.filterMap_nil, tag?, hcells, rowTags]

theorem tags_cellsFrom (number i : Nat) (values : List Json) :
    (cellsFrom number i values).flatMap (fun c => cellTags c.column c.row c.header c.content.kind) =
      kindTags number i (values.map kind?) := by
  induction values generalizing i with
  | nil => rfl
  | cons v values ih =>
    obtain ⟨rfl, -⟩ | ⟨content, hcontent, -, hkind⟩ := content?_cases v
    · exact ih (i + 1)
    · rw [cellsFrom_shown hcontent, List.flatMap_cons, ih, List.map_cons, kindTags, hkind]
      rfl

theorem tags_sheetRows (page : ResultPage) :
    (piecesAll ((sheetRows page).map fun (number, cells) => rowMarkup number cells)).filterMap tag? =
      rowTags 1 ((List.range (Table.ofPage page).outline.columns).flatMap fun i => cellTags i 1 true .text) ++
        ((Table.ofPage page).outline.kinds.zipIdx 2).flatMap fun (kinds, number) =>
          rowTags number (kindTags number 0 kinds) := by
  have hheader (titles : List String) :
      (titles.zipIdx.map fun (title, i) => (⟨i, 1, true, .text title⟩ : Cell)).flatMap
          (fun c => cellTags c.column c.row c.header c.content.kind) =
        (List.range titles.length).flatMap fun i => cellTags i 1 true .text := by
    rw [List.range_eq_range', ← List.zipIdx_map_snd, List.flatMap_map, List.flatMap_map]
    rfl
  rw [Markup.piecesAll_eq_flatMap, List.flatMap_map, List.filterMap_flatMap, sheetRows_eq, List.flatMap_cons,
    List.flatMap_map]
  simp only [tags_rowMarkup, tags_cellsFrom, hheader, Table.outline, List.zipIdx_map, List.flatMap_map]
  rfl

theorem readTags_document (page : ResultPage) :
    readTags (Markup.document (sheetMarkup page)) = some (sheetTags (Table.ofPage page).outline) := by
  have hrange (name : String) : (rangePieces page name).filterMap tag? =
      (tableRange? page.columns.length page.rows.length).toList.map fun r => .single name [("ref", r)] := by
    rw [rangePieces]
    cases tableRange? page.columns.length page.rows.length <;> rfl
  have hcolumns : (Table.ofPage page).outline.columns = page.columns.length := List.length_map _
  have hrows : (Table.ofPage page).outline.kinds.length = page.rows.length := by
    simp only [Table.outline, Table.ofPage, List.length_map]
  rw [readTags, (named_sheetMarkup page).scan_document, Option.map_some, pieces_sheetMarkup]
  simp only [List.filterMap_cons, List.filterMap_append, List.filterMap_nil, tag?, hrange, tags_sheetRows, sheetTags,
    hcolumns, hrows]

/-- A reader of the worksheet finds the header and the values, each in its place and as it is shown, and no text that is
in them makes a tag. -/
theorem sheet_read_back (page : ResultPage) :
    (∃ rows, readSheet (Markup.document (sheetMarkup page)) = some rows ∧ (Table.ofPage page).Written rows) ∧
      readTags (Markup.document (sheetMarkup page)) = some (sheetTags (Table.ofPage page).outline) :=
  ⟨⟨_, readSheet_document page, written_sheetRows page⟩, readTags_document page⟩

example : readSheet "<row r=\"1\"><c r=\"B1\" t=\"inlineStr\"><is><t>&lt;/c&gt;</t></is></c></row>" =
    some [⟨1, [⟨"B1", (1, 1), none, .text "</c>"⟩]⟩] := by
  decide +kernel

end QueryDesk.Workbook
