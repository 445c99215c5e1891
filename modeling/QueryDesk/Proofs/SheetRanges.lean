import QueryDesk.Proofs.SheetText
import QueryDesk.Workbook.Package

/-!
# The ranges of a workbook

The table of a workbook is named three times: by the size of the worksheet, by the filter over it, and in the workbook
part by a hidden name, which has the title of the sheet in front of a range with fixed corners. Readers for the three
find the same rectangle, with all rows and cells of the worksheet inside (`ranges_cover_table`), and the title that the
hidden name refers to is that of the sheet. It has been through two escapes there, one for the formula and one for the
markup, and through one of them where the sheet is named.
-/

namespace QueryDesk.Workbook

open Markup (Tag Piece scan unescape pieces piecesAll)
open OData (readUntil readUntil_of_not_mem readQuoted readQuoted_doubleQuotes doubleQuotes)

/-! ### The readers -/

/-- A rectangle of cells, with columns and rows counted from one. -/
structure Rectangle where
  left : Nat
  top : Nat
  right : Nat
  bottom : Nat
  deriving DecidableEq, Repr

def Rectangle.HasRow (r : Rectangle) (row : Nat) : Prop := r.top ≤ row ∧ row ≤ r.bottom

def Rectangle.HasCell (r : Rectangle) (column row : Nat) : Prop := r.left ≤ column ∧ column ≤ r.right ∧ r.HasRow row

/-- A column and a row, letters and digits. -/
def readCorner (cs : List Char) : Option (Nat × Nat) :=
  (readReference (String.ofList cs)).map fun (column, row) => (column + 1, row)

/-- A column and a row with a dollar sign in front of each. -/
def readFixedCorner : List Char → Option (Nat × Nat)
  | '$' :: cs =>
    match readUntil (· == '$') cs with
    | (column, '$' :: row) => readCorner (column ++ row)
    | _ => none
  | _ => none

/-- Two corners with a colon between them. -/
def readRange (corner : List Char → Option (Nat × Nat)) (cs : List Char) : Option Rectangle :=
  match readUntil (· == ':') cs with
  | (first, ':' :: last) => do
    let (left, top) ← corner first
    let (right, bottom) ← corner last
    return ⟨left, top, right, bottom⟩
  | _ => none

/-- The attributes of a tag that opens or is an element of a name. -/
def attributesOf? (name : String) : Tag → Option (List (String × String))
  | .opening n attributes | .single n attributes => if n = name then some attributes else none
  | .closing _ | .declaration => none

/-- The ranges that the elements of a name refer to. -/
def readRanges (name text : String) : Option (List Rectangle) := do
  let tags ← readTags text
  (tags.filterMap (attributesOf? name)).mapM fun attributes => do
    let range ← attributes.lookup "ref"
    readRange readCorner range.toList

/-- The names of the sheets of a workbook. -/
def readSheetNames (text : String) : Option (List String) := do
  let tags ← readTags text
  (tags.filterMap (attributesOf? "sheet")).mapM (·.lookup "name")

/-- The characters in front of the next tag. -/
def leadingChars : List Piece → List Char
  | .char c :: ps => c :: leadingChars ps
  | _ => []

/-- The attributes of the elements of a name, each with the characters behind the tag as they are written. -/
def elementsOf (name : String) : List Piece → List (List (String × String) × List Char)
  | [] => []
  | .tag (.opening n attributes) :: ps =>
    if n = name then (attributes, leadingChars ps) :: elementsOf name ps else elementsOf name ps
  | _ :: ps => elementsOf name ps

/-- A name for a range of a sheet. -/
structure DefinedName where
  hidden : Bool
  sheet : String
  range : Rectangle
  deriving DecidableEq, Repr

/-- A sheet between apostrophes, with those in it doubled, and behind an exclamation mark a range with fixed corners. -/
def readSheetRange : List Char → Option (String × Rectangle)
  | '\'' :: cs => do
    match ← readQuoted cs with
    | (title, '!' :: range) => (readRange readFixedCorner range).map (String.ofList title, ·)
    | _ => none
  | _ => none

/-- The defined names of a workbook. -/
def readDefinedNames (text : String) : Option (List DefinedName) := do
  let found ← scan none text.toList
  (elementsOf "definedName" found).mapM fun (attributes, raw) => do
    let (sheet, range) ← readSheetRange (← unescape raw)
    return ⟨attributes.lookup "hidden" = some "1", sheet, range⟩

/-! ### Ranges -/

theorem dollar_not_mem_letters (n : Nat) : '$' ∉ letters n := by
  have hletter : ∀ d < 26, '$' ≠ letter d := by decide
  intro hmem
  obtain ⟨d, hd, heq⟩ := exists_letter_of_mem_letters hmem
  exact hletter d hd heq

theorem readCorner_cellReference (column row : Nat) :
    readCorner (cellReference column row).toList = some (column + 1, row) := by
  rw [readCorner, String.ofList_toList, readReference_cellReference, Option.map_some]

theorem readFixedCorner_eq (column row : Nat) :
    readFixedCorner ('$' :: ((columnLetter column).toList ++ '$' :: (toString row).toList)) = some (column + 1, row) := by
  have hcolumn : '$' ∉ (columnLetter column).toList := by
    rw [columnLetter, String.toList_ofList]
    exact dollar_not_mem_letters _
  have hcorner := readCorner_cellReference column row
  rw [cellReference, String.toList_append] at hcorner
  rw [readFixedCorner, readUntil_of_not_mem hcolumn]
  exact hcorner

theorem readRange_append {corner : List Char → Option (Nat × Nat)} {first last : List Char}
    {left top right bottom : Nat} (hcolon : ':' ∉ first) (hfirst : corner first = some (left, top))
    (hlast : corner last = some (right, bottom)) :
    readRange corner (first ++ ':' :: last) = some ⟨left, top, right, bottom⟩ := by
  rw [readRange, readUntil_of_not_mem hcolon]
  simp only [hfirst, hlast, Option.bind_eq_bind, Option.bind_some, Option.pure_def]

/-- What a page is written into: the header above its rows, over all of its columns. -/
def extent (page : ResultPage) : Rectangle := ⟨1, 1, page.columns.length, page.rows.length + 1⟩

theorem readRange_tableRange {columns dataRows : Nat} {range : String} (h : tableRange? columns dataRows = some range) :
    readRange readCorner range.toList = some ⟨1, 1, columns, dataRows + 1⟩ := by
  rw [tableRange?] at h
  split at h
  · cases h
  · next hcolumns =>
    obtain rfl := Option.some.inj h
    have hfirst : readCorner ['A', '1'] = some (1, 1) := by decide
    have hlast := readCorner_cellReference (columns - 1) (dataRows + 1)
    rw [Nat.sub_add_cancel (Nat.one_le_iff_ne_zero.2 hcolumns)] at hlast
    have hrange := readRange_append (by decide) hfirst hlast
    simpa using hrange

theorem readRange_fixedRange {columns dataRows : Nat} {range : String} (h : fixedRange? columns dataRows = some range) :
    readRange readFixedCorner range.toList = some ⟨1, 1, columns, dataRows + 1⟩ := by
  rw [fixedRange?] at h
  split at h
  · cases h
  · next hcolumns =>
    obtain rfl := Option.some.inj h
    have hfirst : readFixedCorner ['$', 'A', '$', '1'] = some (1, 1) := by decide
    have hlast := readFixedCorner_eq (columns - 1) (dataRows + 1)
    rw [Nat.sub_add_cancel (Nat.one_le_iff_ne_zero.2 hcolumns)] at hlast
    have hrange := readRange_append (by decide) hfirst hlast
    simpa using hrange

/-- Both ranges are written where there is a column, and name the extent. -/
theorem range_cases (page : ResultPage) :
    (page.columns.isEmpty = true ∧ tableRange? page.columns.length page.rows.length = none ∧
        fixedRange? page.columns.length page.rows.length = none) ∨
      (page.columns.isEmpty = false ∧ ∃ range fixed, tableRange? page.columns.length page.rows.length = some range ∧
        fixedRange? page.columns.length page.rows.length = some fixed ∧
        readRange readCorner range.toList = some (extent page) ∧
        readRange readFixedCorner fixed.toList = some (extent page)) := by
  by_cases hcolumns : page.columns.length = 0
  · exact .inl ⟨List.isEmpty_iff_length_eq_zero.2 hcolumns, if_pos hcolumns, if_pos hcolumns⟩
  · have hempty : page.columns.isEmpty = false := by
      rw [Bool.eq_false_iff]
      exact mt List.isEmpty_iff_length_eq_zero.1 hcolumns
    have hrange : tableRange? page.columns.length page.rows.length = some _ := if_neg hcolumns
    have hfixed : fixedRange? page.columns.length page.rows.length = some _ := if_neg hcolumns
    exact .inr ⟨hempty, _, _, hrange, hfixed, readRange_tableRange hrange, readRange_fixedRange hfixed⟩

/-! ### The worksheet -/

/-- The elements of a worksheet that are not ranges. -/
def sheetNames : List String := ["worksheet", "sheetData", "row", "c", "is", "t", "v"]

theorem attributesOf?_eq_none {name n : String} {attributes : List (String × String)} (hname : name ∉ sheetNames)
    (hn : n ∈ sheetNames) : attributesOf? name (.opening n attributes) = none := by
  refine if_neg ?_
  rintro rfl
  exact hname hn

section
variable {name : String} (hname : name ∉ sheetNames)
include hname

theorem filterMap_cellTags (column row : Nat) (header : Bool) (kind : Kind) :
    (cellTags column row header kind).filterMap (attributesOf? name) = [] := by
  have hopening {n : String} {attributes : List (String × String)} (hn : n ∈ sheetNames) :
      attributesOf? name (.opening n attributes) = none := attributesOf?_eq_none hname hn
  have hkind : kind.tags.filterMap (attributesOf? name) = [] := by
    cases kind with
    | text =>
      rw [Kind.tags, List.filterMap_cons_none (hopening (by decide)), List.filterMap_cons_none (hopening (by decide))]
      rfl
    | number | bool =>
      rw [Kind.tags, List.filterMap_cons_none (hopening (by decide))]
      rfl
  rw [cellTags, List.filterMap_cons_none (hopening (by decide)), List.filterMap_append, hkind]
  rfl

theorem filterMap_rowTags (number : Nat) {cells : List Tag} (h : cells.filterMap (attributesOf? name) = []) :
    (rowTags number cells).filterMap (attributesOf? name) = [] := by
  rw [rowTags, List.filterMap_cons_none (attributesOf?_eq_none hname (by decide)), List.filterMap_append, h]
  rfl

theorem filterMap_kindTags (number i : Nat) (kinds : List (Option Kind)) :
    (kindTags number i kinds).filterMap (attributesOf? name) = [] := by
  induction kinds generalizing i with
  | nil => rfl
  | cons kind? kinds ih =>
    rw [kindTags, List.filterMap_append, ih, List.append_nil]
    cases kind? with
    | none => rfl
    | some kind => exact filterMap_cellTags hname i number false kind

/-- Of the tags of a worksheet only those of its ranges may have another name. -/
theorem filterMap_sheetTags (o : Outline) :
    (sheetTags o).filterMap (attributesOf? name) =
      (tableRange? o.columns o.kinds.length).toList.flatMap fun r =>
        (if "dimension" = name then [[("ref", r)]] else []) ++ (if "autoFilter" = name then [[("ref", r)]] else []) := by
  have hheader : ((List.range o.columns).flatMap fun i => cellTags i 1 true .text).filterMap (attributesOf? name) = [] := by
    rw [List.filterMap_flatMap, List.flatMap_eq_nil_iff]
    exact fun i _ => filterMap_cellTags hname i 1 true .text
  have hdata : ((o.kinds.zipIdx 2).flatMap fun r => rowTags r.2 (kindTags r.2 0 r.1)).filterMap (attributesOf? name) =
      [] := by
    rw [List.filterMap_flatMap, List.flatMap_eq_nil_iff]
    exact fun r _ => filterMap_rowTags hname r.2 (filterMap_kindTags hname r.2 0 r.1)
  have hroot : attributesOf? name (.opening "worksheet" rootAttributes) = none := attributesOf?_eq_none hname (by decide)
  have hrows : attributesOf? name (.opening "sheetData" []) = none := attributesOf?_eq_none hname (by decide)
  unfold sheetTags
  simp only [List.filterMap_cons, List.filterMap_append, hroot, hrows, filterMap_rowTags hname 1 hheader, hdata]
  cases tableRange? o.columns o.kinds.length with
  | none => rfl
  | some r => by_cases h : "dimension" = name <;> by_cases h' : "autoFilter" = name <;> simp [attributesOf?, h, h']

end

theorem readRanges_document (page : ResultPage) {name : String} (h : name = "dimension" ∨ name = "autoFilter") :
    readRanges name (Markup.document (sheetMarkup page)) = some (if page.columns.isEmpty then [] else [extent page]) := by
  have hname : name ∉ sheetNames := by
    rcases h with rfl | rfl <;> decide
  have hcolumns : (Table.ofPage page).outline.columns = page.columns.length := List.length_map _
  have hrows : (Table.ofPage page).outline.kinds.length = page.rows.length := by
    rw [Table.outline, Table.ofPage, List.length_map, List.length_map]
  have hsingle (r : String) : (if "dimension" = name then [[("ref", r)]] else []) ++
      (if "autoFilter" = name then [[("ref", r)]] else []) = [[("ref", r)]] := by
    rcases h with rfl | rfl <;> rfl
  rw [readRanges, readTags_document, Option.bind_eq_bind, Option.bind_some, filterMap_sheetTags hname, hcolumns, hrows]
  simp only [hsingle]
  obtain ⟨hempty, hnone, -⟩ | ⟨hempty, range, -, hrange, -, hread, -⟩ := range_cases page
  · rw [hnone, hempty]
    rfl
  · have hlookup : List.lookup "ref" [("ref", range)] = some range := rfl
    rw [hrange, hempty, Option.toList_some, List.flatMap_singleton, List.mapM_cons]
    simp only [hlookup, hread, Option.bind_eq_bind, Option.bind_some, List.mapM_nil, Option.pure_def, if_false,
      Bool.false_eq_true]

/-- Every row has a number of the extent, and every cell is in one of its columns, in the row it stands in. -/
theorem places_sheetRows (page : ResultPage) : ∀ r ∈ sheetRows page, (extent page).HasRow r.1 ∧
    ∀ c ∈ r.2, c.row = r.1 ∧ c.column < page.columns.length := by
  intro r hr
  constructor
  · have hnumber : r.1 ∈ List.range' 1 ((Table.ofPage page).values.length + 1) := by
      rw [← numbers_sheetRows]
      exact List.mem_map_of_mem hr
    have hlength : (Table.ofPage page).values.length = page.rows.length := List.length_map _
    rw [List.mem_range'_1, hlength] at hnumber
    have hbottom : (extent page).bottom = page.rows.length + 1 := rfl
    exact ⟨hnumber.1, by omega⟩
  · intro c hc
    rw [sheetRows, List.mem_cons, List.mem_map] at hr
    rcases hr with rfl | ⟨⟨row, number⟩, -, rfl⟩
    · obtain ⟨⟨column, i⟩, hmem, rfl⟩ := List.mem_map.1 hc
      exact ⟨rfl, List.snd_lt_of_mem_zipIdx hmem⟩
    · obtain ⟨⟨column, i⟩, hmem, hcell⟩ := List.mem_filterMap.1 hc
      obtain ⟨content, -, rfl⟩ := Option.map_eq_some_iff.1 hcell
      exact ⟨rfl, List.snd_lt_of_mem_zipIdx hmem⟩

/-! ### The workbook part -/

def sheetAttributes (title : String) : List (String × String) := [("name", title), ("sheetId", "1"), ("r:id", "rId1")]

def filterAttributes : List (String × String) :=
  [("name", "_xlnm._FilterDatabase"), ("localSheetId", "0"), ("hidden", "1")]

/-- The pieces of the element that a defined name is in. -/
def namePieces (title range : String) : List Piece :=
  .tag (.opening "definedNames" []) :: .tag (.opening "definedName" filterAttributes) ::
    ((Markup.escape (quotedTitle title ++ "!" ++ range)).toList.map .char ++
      [.tag (.closing "definedName"), .tag (.closing "definedNames")])

theorem pieces_workbookMarkup (page : ResultPage) (title : String) :
    (workbookMarkup page title).pieces =
      .tag (.opening "workbook" rootAttributes) :: .tag (.opening "sheets" []) ::
        .tag (.single "sheet" (sheetAttributes title)) :: .tag (.closing "sheets") ::
          ((fixedRange? page.columns.length page.rows.length).toList.flatMap (namePieces title) ++
            [.tag (.closing "workbook")]) := by
  rw [workbookMarkup]
  cases fixedRange? page.columns.length page.rows.length with
  | none => rfl
  | some range =>
    simp only [Option.toList_some, List.map_cons, List.map_nil, pieces, piecesAll, List.flatMap_singleton, namePieces,
      List.append_nil, List.append_assoc, List.cons_append, List.nil_append, sheetAttributes, filterAttributes]

theorem named_workbookMarkup (page : ResultPage) (title : String) : (workbookMarkup page title).Named := by
  have hsheet : ∀ a ∈ sheetAttributes title, Markup.isName a.1 = true := by
    have hnames : ∀ n ∈ ["name", "sheetId", "r:id"], Markup.isName n = true := by decide
    intro a ha
    exact hnames a.1 (List.mem_map_of_mem (f := Prod.fst) ha)
  refine .element (by decide) (by decide) (List.forall_mem_cons.2 ⟨?_, fun m hm => ?_⟩)
  · exact .element (by decide) (List.forall_mem_nil _) (List.forall_mem_singleton.2 (.single (by decide) hsheet))
  · obtain ⟨range, -, rfl⟩ := List.mem_map.1 hm
    refine .element (by decide) (List.forall_mem_nil _) (List.forall_mem_singleton.2 ?_)
    exact .element (by decide) (by decide) (List.forall_mem_singleton.2 (.text _))

theorem leadingChars_append (cs : List Char) (t : Tag) (ps : List Piece) :
    leadingChars (cs.map .char ++ .tag t :: ps) = cs := by
  induction cs with
  | nil => rfl
  | cons c cs ih => exact congrArg _ ih

theorem elementsOf_chars (name : String) (cs : List Char) (ps : List Piece) :
    elementsOf name (cs.map .char ++ ps) = elementsOf name ps := by
  induction cs with
  | nil => rfl
  | cons c cs ih => exact ih

/-- What stands between the apostrophes is the title, however many it has itself. -/
theorem readSheetRange_eq {title range : String} {r : Rectangle} (h : readRange readFixedCorner range.toList = some r) :
    readSheetRange (quotedTitle title ++ "!" ++ range).toList = some (title, r) := by
  have htext : (quotedTitle title ++ "!" ++ range).toList =
      '\'' :: (doubleQuotes title.toList ++ '\'' :: '!' :: range.toList) := by
    simp [quotedTitle, doubleQuotes]
  have hquoted : readQuoted (doubleQuotes title.toList ++ '\'' :: '!' :: range.toList) =
      some (title.toList, '!' :: range.toList) := by
    refine readQuoted_doubleQuotes _ fun c hc => ?_
    obtain rfl := Option.some.inj hc
    decide
  rw [htext, readSheetRange, hquoted, Option.bind_eq_bind, Option.bind_some]
  simp only [h, Option.map_some, String.ofList_toList]

/-- The attributes of the tag of a sheet. -/
def sheet? (p : Piece) : Option (List (String × String)) := (tag? p).bind (attributesOf? "sheet")

theorem readSheetNames_document (page : ResultPage) (title : String) :
    readSheetNames (Markup.document (workbookMarkup page title)) = some [title] := by
  have hnames : ((fixedRange? page.columns.length page.rows.length).toList.flatMap (namePieces title)).filterMap
      sheet? = [] := by
    rw [List.filterMap_flatMap, List.flatMap_eq_nil_iff]
    intro range _
    have htext (cs : List Char) : (cs.map Piece.char).filterMap sheet? = [] := by
      rw [List.filterMap_map]
      exact List.filterMap_eq_nil_iff.2 fun _ _ => rfl
    rw [namePieces, List.filterMap_cons_none rfl, List.filterMap_cons_none rfl, List.filterMap_append, htext]
    rfl
  have hsheet : sheet? (.tag (.single "sheet" (sheetAttributes title))) = some (sheetAttributes title) := rfl
  have hfound : (.tag .declaration :: (workbookMarkup page title).pieces).filterMap sheet? = [sheetAttributes title] := by
    rw [pieces_workbookMarkup, List.filterMap_cons_none rfl, List.filterMap_cons_none rfl,
      List.filterMap_cons_none rfl, List.filterMap_cons_some hsheet, List.filterMap_cons_none rfl,
      List.filterMap_append, hnames]
    rfl
  rw [readSheetNames, readTags, (named_workbookMarkup page title).scan_document, Option.map_some, Option.bind_eq_bind,
    Option.bind_some, List.filterMap_filterMap]
  exact congrArg (List.mapM (·.lookup "name")) hfound

theorem readDefinedNames_document (page : ResultPage) (title : String) :
    readDefinedNames (Markup.document (workbookMarkup page title)) =
      some (if page.columns.isEmpty then [] else [⟨true, title, extent page⟩]) := by
  rw [readDefinedNames, (named_workbookMarkup page title).scan_document, pieces_workbookMarkup, Option.bind_eq_bind,
    Option.bind_some]
  obtain ⟨hempty, -, hnone⟩ | ⟨hempty, -, fixed, -, hfixed, -, hread⟩ := range_cases page
  · rw [hnone, hempty]
    rfl
  · have hshown : readSheetRange (quotedTitle title ++ "!" ++ fixed).toList = some (title, extent page) :=
      readSheetRange_eq hread
    have hhidden : filterAttributes.lookup "hidden" = some "1" := by decide
    rw [hfixed, hempty, Option.toList_some, List.flatMap_singleton, namePieces]
    simp only [List.cons_append, List.append_assoc, elementsOf, String.reduceEq, if_false, if_true, leadingChars_append,
      elementsOf_chars, List.nil_append, List.mapM_cons, List.mapM_nil, Markup.unescape_escape, hshown, hhidden,
      Option.bind_eq_bind, Option.bind_some, Option.pure_def, decide_true, Bool.false_eq_true]

/-! ### The package -/

/-- The text of a part of a package. -/
def partText? (parts : List Part) (name : String) : Option String := (parts.find? (·.name == name)).map (·.text)

theorem partText?_parts (page : ResultPage) (sheetName : String) :
    partText? (parts page sheetName) "xl/workbook.xml" =
        some (Markup.document (workbookMarkup page (sheetTitle sheetName))) ∧
      partText? (parts page sheetName) "xl/worksheets/sheet1.xml" = some (Markup.document (sheetMarkup page)) := by
  simp [partText?, parts, contentTypes, packageRelationships, workbookRelationships, styles]

/-- If a page has a column, the size of its worksheet, the filter over it and the hidden name in the workbook part denote
one rectangle, from the first cell over all columns and down to the last row; if not, there is none of the three. Every
row and every cell of the worksheet is inside of it, and the sheet that the hidden name refers to is the one that the
workbook has. -/
theorem ranges_cover_table (page : ResultPage) (sheetName : String) : ∃ book sheet rows,
    partText? (parts page sheetName) "xl/workbook.xml" = some book ∧
    partText? (parts page sheetName) "xl/worksheets/sheet1.xml" = some sheet ∧
    extent page = ⟨1, 1, page.columns.length, page.rows.length + 1⟩ ∧
    readRanges "dimension" sheet = some (if page.columns.isEmpty then [] else [extent page]) ∧
    readRanges "autoFilter" sheet = some (if page.columns.isEmpty then [] else [extent page]) ∧
    readSheetNames book = some [sheetTitle sheetName] ∧
    readDefinedNames book =
      some (if page.columns.isEmpty then [] else [⟨true, sheetTitle sheetName, extent page⟩]) ∧
    readSheet sheet = some rows ∧
    ∀ row ∈ rows, (extent page).HasRow row.number ∧
      ∀ cell ∈ row.cells, (extent page).HasCell (cell.place.1 + 1) cell.place.2 := by
  obtain ⟨hbook, hsheet⟩ := partText?_parts page sheetName
  refine ⟨_, _, _, hbook, hsheet, rfl, readRanges_document page (.inl rfl), readRanges_document page (.inr rfl),
    readSheetNames_document _ _, readDefinedNames_document _ _, readSheet_document page, ?_⟩
  rw [List.forall_mem_map]
  rintro ⟨number, cells⟩ hr
  obtain ⟨hnumber, hcells⟩ := places_sheetRows page _ hr
  refine ⟨hnumber, List.forall_mem_map.2 fun c hc => ?_⟩
  obtain ⟨hrow, hcolumn⟩ := hcells c hc
  have hplace : c.read.place = (c.column, c.row) := rfl
  rw [hplace, hrow]
  exact ⟨Nat.le_add_left _ _, hcolumn, hnumber⟩

example : readSheetRange "'Ann''s deals'!$A$1:$AB$7".toList = some ("Ann's deals", ⟨1, 1, 28, 7⟩) := by decide +kernel

end QueryDesk.Workbook
