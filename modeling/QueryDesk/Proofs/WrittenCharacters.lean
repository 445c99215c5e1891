import QueryDesk.Proofs.SheetText
import QueryDesk.Workbook.Package

/-!
# The characters of a workbook

XML allows a document no control characters but three, and not the last two code points of the basic plane. Escapes do
not help with these: a reader refuses a document that has them as they are. What the parts of a workbook are made of
besides the texts that are given is allowed, so a part is allowed exactly where its texts are (`parts_legal_iff`). The
name of the sheet, the titles and the text cells are written as they come. Nested values are written as JSON, which has
escapes of its own for control characters, so of them only the two code points remain.
-/

namespace QueryDesk

theorem Text.mem_of_mem_trimWhile {p : Char → Bool} {cs : List Char} {c : Char} (h : c ∈ trimWhile p cs) : c ∈ cs := by
  rw [trimWhile, dropEndWhile, List.mem_reverse] at h
  exact (List.dropWhile_suffix p).subset (List.mem_reverse.1 ((List.dropWhile_suffix p).subset h))

namespace Workbook

/-- The characters that XML allows in a document. -/
def isXmlChar (c : Char) : Bool :=
  let n := c.toNat
  n == 0x9 || n == 0xA || n == 0xD || (0x20 ≤ n && n ≤ 0xD7FF) || (0xE000 ≤ n && n ≤ 0xFFFD) || 0x10000 ≤ n

/-- A text that XML allows in a document. -/
def Legal (cs : List Char) : Prop := ∀ c ∈ cs, isXmlChar c = true

instance (cs : List Char) : Decidable (Legal cs) := decidable_of_iff (cs.all isXmlChar = true) List.all_eq_true

/-! ### Texts -/

variable {c : Char} {cs ds : List Char}

theorem legal_nil : Legal [] := List.forall_mem_nil _

theorem legal_cons : Legal (c :: cs) ↔ isXmlChar c = true ∧ Legal cs := List.forall_mem_cons

theorem legal_append : Legal (cs ++ ds) ↔ Legal cs ∧ Legal ds := List.forall_mem_append

theorem legal_flatMap {α : Type} {f : α → List Char} {xs : List α} :
    Legal (xs.flatMap f) ↔ ∀ x ∈ xs, Legal (f x) := by
  constructor
  · exact fun h x hx c hc => h c (List.mem_flatMap.2 ⟨x, hx, hc⟩)
  · intro h c hc
    obtain ⟨x, hx, hc⟩ := List.mem_flatMap.1 hc
    exact h x hx c hc

/-- What can be printed in ASCII is allowed. -/
theorem isXmlChar_of_ascii (hlow : 0x20 ≤ c.toNat) (hhigh : c.toNat ≤ 0x7E) : isXmlChar c = true := by
  have hrange : (decide (0x20 ≤ c.toNat) && decide (c.toNat ≤ 0xD7FF)) = true := by
    rw [Bool.and_eq_true, decide_eq_true_eq, decide_eq_true_eq]
    exact ⟨hlow, Nat.le_trans hhigh (by decide)⟩
  simp only [isXmlChar, hrange, Bool.or_true, Bool.true_or]

theorem isXmlChar_of_isDigit (h : c.isDigit = true) : isXmlChar c = true := by
  rw [Char.isDigit_iff_toNat] at h
  exact isXmlChar_of_ascii (Nat.le_trans (by decide) h.1) (Nat.le_trans h.2 (by decide))

/-- A character is no surrogate, so what is not allowed is a control character or one of two code points. -/
theorem isXmlChar_or_lt_blank : isXmlChar c = true ∨ c < ' ' ↔ c ≠ '\uFFFE' ∧ c ≠ '\uFFFF' := by
  have hvalid : c.toNat < 0xD800 ∨ 0xDFFF < c.toNat := by
    rcases c.valid with h | ⟨h, -⟩
    · exact .inl h
    · exact .inr h
  have hblank : c < ' ' ↔ c.toNat < 0x20 := by
    rw [Char.lt_def, UInt32.lt_iff_toNat_lt]
    rfl
  have hcode {d : Char} : c = d ↔ c.toNat = d.toNat := ⟨congrArg _, fun h => Char.toNat_inj.1 h⟩
  have hfirst : '\uFFFE'.toNat = 0xFFFE := rfl
  have hsecond : '\uFFFF'.toNat = 0xFFFF := rfl
  rw [hblank, ne_eq, ne_eq, hcode, hcode, hfirst, hsecond]
  simp only [isXmlChar, Bool.or_eq_true, Bool.and_eq_true, beq_iff_eq, decide_eq_true_eq]
  omega

theorem legal_toString (n : Nat) : Legal (toString n).toList := by
  intro c hc
  rw [Nat.toString_eq_repr, Nat.toList_repr] at hc
  exact isXmlChar_of_isDigit (Nat.isDigit_of_mem_toDigits (by decide) (by decide) hc)

theorem legal_letters (n : Nat) : Legal (letters n) := by
  have hletter : ∀ d < 26, isXmlChar (letter d) = true := by decide
  intro c hc
  obtain ⟨d, hd, rfl⟩ := exists_letter_of_mem_letters hc
  exact hletter d hd

theorem legal_cellReference (column row : Nat) : Legal (cellReference column row).toList := by
  rw [cellReference, columnLetter, String.toList_append, String.toList_ofList, legal_append]
  exact ⟨legal_letters _, legal_toString _⟩

end Workbook

/-! ### Nested values -/

namespace Json

open Workbook (Legal legal_nil legal_cons legal_append legal_flatMap isXmlChar isXmlChar_of_ascii isXmlChar_or_lt_blank)

mutual
/-- The texts in a value, and the names of its members. -/
def texts : Json → List String
  | .text s => [s]
  | .array items => textsAll items
  | .object members => textsMembers members
  | .null | .bool _ | .number _ => []
termination_by structural j => j

def textsAll : List Json → List String
  | [] => []
  | j :: rest => j.texts ++ textsAll rest
termination_by structural js => js

def textsMembers : List (String × Json) → List String
  | [] => []
  | (name, v) :: rest => name :: (v.texts ++ textsMembers rest)
termination_by structural ms => ms
end

/-- A text without the two code points that are neither allowed nor escaped. -/
def Plain (s : String) : Prop := '\uFFFE' ∉ s.toList ∧ '\uFFFF' ∉ s.toList

theorem legal_printChar (c : Char) : Legal (printChar c) ↔ c ≠ '\uFFFE' ∧ c ≠ '\uFFFF' := by
  by_cases hc : c ∈ shortEscapes
  · have hshort : shortEscapes.all (fun c => Legal (printChar c) ∧ c ≠ '\uFFFE' ∧ c ≠ '\uFFFF') = true := by decide
    obtain ⟨hlegal, hne⟩ := of_decide_eq_true (List.all_eq_true.1 hshort c hc)
    exact iff_of_true hlegal hne
  · rw [printChar_of_not_mem hc, ← isXmlChar_or_lt_blank]
    split
    · next hlt =>
      have hn : c.toNat < 32 := UInt32.lt_iff_toNat_lt.1 (Char.lt_def.1 hlt)
      have hhex : ∀ n < 32, Legal ('\\' :: 'u' :: hex4 n) := by decide
      exact iff_of_true (hhex _ hn) (.inr hlt)
    · next hlt => rw [legal_cons, or_iff_left hlt, and_iff_left legal_nil]

theorem isXmlChar_punctuation : isXmlChar '"' = true ∧ isXmlChar ',' = true ∧ isXmlChar ':' = true ∧
    isXmlChar '[' = true ∧ isXmlChar '\x7b' = true := by decide

theorem legal_printText (s : String) : Legal (printText s) ↔ Plain s := by
  rw [printText]
  simp only [legal_cons, legal_append, legal_flatMap, legal_printChar, isXmlChar_punctuation, legal_nil, true_and,
    and_true]
  constructor
  · exact fun h => ⟨fun hmem => (h _ hmem).1 rfl, fun hmem => (h _ hmem).2 rfl⟩
  · rintro ⟨hfirst, hsecond⟩ c hc
    exact ⟨fun heq => hfirst (heq ▸ hc), fun heq => hsecond (heq ▸ hc)⟩

theorem legal_printNumber (n : Number) : Legal n.print := by
  intro c hc
  have hlit := n.print_literal c hc
  simp only [isLiteralPart, isLiteralStart, Text.isAsciiLetter, Text.isAsciiDigit, Bool.or_eq_true, Bool.and_eq_true,
    decide_eq_true_eq, beq_iff_eq, Char.le_def, UInt32.le_iff_toNat_le] at hlit
  rcases hlit with (((((h | h) | h) | rfl) | rfl) | rfl) | rfl
  · exact isXmlChar_of_ascii (Nat.le_trans (by decide) h.1) (Nat.le_trans h.2 (by decide))
  · exact isXmlChar_of_ascii (Nat.le_trans (by decide) h.1) (Nat.le_trans h.2 (by decide))
  · exact isXmlChar_of_ascii (Nat.le_trans (by decide) h.1) (Nat.le_trans h.2 (by decide))
  all_goals decide

mutual
theorem legal_print : ∀ j : Json, Legal j.print ↔ ∀ s ∈ j.texts, Plain s
  | .null => iff_of_true (by decide) (List.forall_mem_nil _)
  | .bool true => iff_of_true (by decide) (List.forall_mem_nil _)
  | .bool false => iff_of_true (by decide) (List.forall_mem_nil _)
  | .number n => iff_of_true (legal_printNumber n) (List.forall_mem_nil _)
  | .text s => by rw [print, texts, legal_printText, List.forall_mem_singleton]
  | .array [] => iff_of_true (by decide) (List.forall_mem_nil _)
  | .array (x :: xs) => by
    rw [print, texts, textsAll, List.forall_mem_append, ← legal_print x, ← legal_printItems xs]
    simp only [legal_cons, legal_append, isXmlChar_punctuation, true_and]
  | .object [] => iff_of_true (by decide) (List.forall_mem_nil _)
  | .object ((name, v) :: ms) => by
    rw [print, texts, textsMembers, List.forall_mem_cons, List.forall_mem_append, ← legal_print v,
      ← legal_printMembers ms]
    simp only [legal_cons, legal_append, legal_printText, isXmlChar_punctuation, true_and]

theorem legal_printItems : ∀ xs : List Json, Legal (printItems xs) ↔ ∀ s ∈ textsAll xs, Plain s
  | [] => iff_of_true (by decide) (List.forall_mem_nil _)
  | x :: xs => by
    rw [printItems, textsAll, List.forall_mem_append, ← legal_print x, ← legal_printItems xs]
    simp only [legal_cons, legal_append, isXmlChar_punctuation, true_and]

theorem legal_printMembers : ∀ ms : List (String × Json), Legal (printMembers ms) ↔ ∀ s ∈ textsMembers ms, Plain s
  | [] => iff_of_true (by decide) (List.forall_mem_nil _)
  | (name, v) :: ms => by
    rw [printMembers, textsMembers, List.forall_mem_cons, List.forall_mem_append, ← legal_print v,
      ← legal_printMembers ms]
    simp only [legal_cons, legal_append, legal_printText, isXmlChar_punctuation, true_and]
end

/-- Whether a value can be written to a cell: a text as it comes, and a nested value as JSON. -/
def Writable : Json → Prop
  | .text s => Legal s.toList
  | .array items => ∀ s ∈ textsAll items, Plain s
  | .object members => ∀ s ∈ textsMembers members, Plain s
  | .null | .bool _ | .number _ => True

end Json

namespace Workbook

/-! ### Markup -/

namespace Markup

theorem isXmlChar_delimiters : isXmlChar '<' = true ∧ isXmlChar '>' = true ∧ isXmlChar '/' = true ∧
    isXmlChar ' ' = true ∧ isXmlChar '=' = true ∧ isXmlChar '"' = true := by decide

theorem legal_escapeChar (c : Char) : Legal (escapeChar c) ↔ isXmlChar c = true := by
  by_cases hc : c ∈ marks
  · have hmarks : marks.all (fun c => Legal (escapeChar c) ∧ isXmlChar c = true) = true := by decide
    obtain ⟨hlegal, hchar⟩ := of_decide_eq_true (List.all_eq_true.1 hmarks c hc)
    exact iff_of_true hlegal hchar
  · rw [escapeChar_of_not_mem hc, legal_cons, and_iff_left legal_nil]

/-- An escape neither hides a character that is not allowed nor brings one in. -/
theorem legal_escape (s : String) : Legal (escape s).toList ↔ Legal s.toList := by
  rw [toList_escape, legal_flatMap]
  exact forall₂_congr fun c _ => legal_escapeChar c

theorem legal_renderAttributes (attributes : List (String × String)) :
    Legal (renderAttributes attributes).toList ↔ ∀ a ∈ attributes, Legal a.1.toList ∧ Legal a.2.toList := by
  induction attributes with
  | nil => exact iff_of_true (by decide) (List.forall_mem_nil _)
  | cons a rest ih =>
    rw [toList_renderAttributes_cons, List.forall_mem_cons]
    simp only [legal_cons, legal_append, legal_escape, ih, isXmlChar_delimiters, true_and, and_assoc]

theorem legal_renderAll (ms : List Markup) : Legal (renderAll ms).toList ↔ ∀ m ∈ ms, Legal m.render.toList := by
  induction ms with
  | nil => exact iff_of_true (by decide) (List.forall_mem_nil _)
  | cons m ms ih => rw [renderAll, String.toList_append, legal_append, ih, List.forall_mem_cons]

variable {name : String} {attributes : List (String × String)}

theorem legal_element (hname : Legal name.toList) (children : List Markup) :
    Legal (Markup.element name attributes children).render.toList ↔
      (∀ a ∈ attributes, Legal a.1.toList ∧ Legal a.2.toList) ∧ ∀ m ∈ children, Legal m.render.toList := by
  rw [toList_render_element, tagText]
  simp only [legal_cons, legal_append, legal_renderAttributes, legal_renderAll, hname, isXmlChar_delimiters, legal_nil,
    true_and, and_true]

theorem legal_single (hname : Legal name.toList) :
    Legal (Markup.single name attributes).render.toList ↔
      ∀ a ∈ attributes, Legal a.1.toList ∧ Legal a.2.toList := by
  rw [toList_render_single, tagText]
  simp only [legal_cons, legal_append, legal_renderAttributes, hname, isXmlChar_delimiters, legal_nil, true_and,
    and_true]

theorem legal_text (s : String) : Legal (Markup.text s).render.toList ↔ Legal s.toList := legal_escape s

theorem legal_document (root : Markup) : Legal (document root).toList ↔ Legal root.render.toList := by
  have hdeclaration : Legal declarationText := by decide +kernel
  rw [toList_document]
  simp only [legal_cons, legal_append, hdeclaration, isXmlChar_delimiters, true_and]

end Markup

open Markup (legal_element legal_single legal_text legal_document)

/-! ### Parts -/

theorem legal_rootAttributes : ∀ a ∈ rootAttributes, Legal a.1.toList ∧ Legal a.2.toList := by
  decide +kernel

theorem Content.legal_markup (c : Content) : Legal c.markup.render.toList ↔ Legal c.raw.toList := by
  have htext : (∀ m ∈ [Markup.text c.raw], Legal m.render.toList) ↔ Legal c.raw.toList := by
    rw [List.forall_mem_singleton, legal_text]
  have hspace : ∀ a ∈ [("xml:space", "preserve")], Legal a.1.toList ∧ Legal a.2.toList := by decide
  rw [Content.markup]
  cases c.kind with
  | text =>
    rw [legal_element (by decide), List.forall_mem_singleton, legal_element (by decide), htext, and_iff_right hspace]
    exact and_iff_right (List.forall_mem_nil _)
  | number | bool =>
    rw [legal_element (by decide), htext]
    exact and_iff_right (List.forall_mem_nil _)

theorem legal_cellAttributes (column row : Nat) (header : Bool) (kind : Kind) :
    ∀ a ∈ cellAttributes column row header kind, Legal a.1.toList ∧ Legal a.2.toList := by
  have hreference : Legal "r".toList := by decide
  have hmark : Legal "t".toList ∧ Legal kind.mark.toList := by cases kind <;> decide
  have hstyle : ∀ a ∈ (if header then [("s", "1")] else []), Legal a.1.toList ∧ Legal a.2.toList := by
    cases header <;> decide
  rw [cellAttributes, List.cons_append, List.forall_mem_cons, List.forall_mem_append, List.forall_mem_singleton]
  exact ⟨⟨hreference, legal_cellReference column row⟩, hstyle, hmark⟩

/-- A cell is written as well as its content is. -/
theorem Cell.legal_markup (c : Cell) : Legal c.markup.render.toList ↔ Legal c.content.raw.toList := by
  rw [Cell.markup_eq, legal_element (by decide), List.forall_mem_singleton, Content.legal_markup]
  exact and_iff_right (legal_cellAttributes _ _ _ _)

theorem legal_rowMarkup (number : Nat) (cells : List Cell) :
    Legal (rowMarkup number cells).render.toList ↔ ∀ c ∈ cells, Legal c.content.raw.toList := by
  have hname : Legal "r".toList := by decide
  have hnumber : ∀ a ∈ [("r", toString number)], Legal a.1.toList ∧ Legal a.2.toList :=
    List.forall_mem_singleton.2 ⟨hname, legal_toString number⟩
  rw [rowMarkup, legal_element (by decide), and_iff_right hnumber, List.forall_mem_map]
  exact forall₂_congr fun c _ => c.legal_markup

/-- The ranges in a sheet and in the name that stands for its filter. -/
theorem legal_tableRange (columns dataRows : Nat) : ∀ r ∈ tableRange? columns dataRows, Legal r.toList := by
  intro r hr
  have hcorner : Legal "A1:".toList := by decide
  rw [tableRange?] at hr
  split at hr
  · cases hr
  · obtain rfl := Option.some.inj hr
    rw [String.toList_append, legal_append]
    exact ⟨hcorner, legal_cellReference _ _⟩

theorem legal_fixedRange (columns dataRows : Nat) : ∀ r ∈ fixedRange? columns dataRows, Legal r.toList := by
  intro r hr
  have hcorner : Legal "$A$1:$".toList := by decide
  have hdollar : Legal "$".toList := by decide
  rw [fixedRange?] at hr
  split at hr
  · cases hr
  · obtain rfl := Option.some.inj hr
    simp only [String.toList_append, columnLetter, String.toList_ofList, legal_append]
    exact ⟨⟨⟨hcorner, legal_letters _⟩, hdollar⟩, legal_toString _⟩

theorem legal_sheetMarkup (page : ResultPage) :
    Legal (sheetMarkup page).render.toList ↔ ∀ r ∈ sheetRows page, ∀ c ∈ r.2, Legal c.content.raw.toList := by
  have hrange {name : String} (hname : Legal name.toList) :
      ∀ m ∈ (tableRange? page.columns.length page.rows.length).toList.map fun r => Markup.single name [("ref", r)],
        Legal m.render.toList := by
    have hreference : Legal "ref".toList := by decide
    rw [List.forall_mem_map]
    intro r hr
    rw [legal_single hname, List.forall_mem_singleton]
    exact ⟨hreference, legal_tableRange _ _ r (Option.mem_toList.1 hr)⟩
  rw [sheetMarkup_eq, legal_element (by decide), List.forall_mem_append, List.forall_mem_append,
    and_iff_right legal_rootAttributes, and_iff_right (hrange (by decide)), and_iff_left (hrange (by decide)),
    List.forall_mem_singleton, legal_element (by decide), List.forall_mem_map]
  refine (and_iff_right (List.forall_mem_nil _)).trans (forall₂_congr fun r _ => ?_)
  exact legal_rowMarkup r.1 r.2

/-- What is shown of a value can be written where the value can. -/
theorem legal_content (v : Json) : (∀ c ∈ content? (some v), Legal c.raw.toList) ↔ v.Writable := by
  cases v with
  | null => exact iff_of_true nofun trivial
  | bool b =>
    refine iff_of_true ?_ trivial
    rintro _ ⟨⟩
    cases b <;> decide
  | number n =>
    refine iff_of_true ?_ trivial
    rintro _ ⟨⟩
    rw [Content.raw, String.toList_ofList]
    exact Json.legal_printNumber n
  | text s => simp [content?, Content.raw, Json.Writable]
  | array items =>
    have hraw : (∀ c ∈ content? (some (.array items)), Legal c.raw.toList) ↔ Legal (Json.array items).print := by
      simp [content?, Content.raw, Json.compact]
    rw [hraw, Json.legal_print]
    rfl
  | object members =>
    have hraw : (∀ c ∈ content? (some (.object members)), Legal c.raw.toList) ↔ Legal (Json.object members).print := by
      simp [content?, Content.raw, Json.compact]
    rw [hraw, Json.legal_print]
    rfl

theorem forall_mem_zipIdx {α : Type} {p : α → Prop} (xs : List α) (n : Nat) :
    (∀ x ∈ xs.zipIdx n, p x.1) ↔ ∀ x ∈ xs, p x := by
  rw [← List.forall_mem_map (f := Prod.fst), List.zipIdx_map_fst]

theorem legal_headerCells (columns : List Column) :
    (∀ c ∈ headerCells columns, Legal c.content.raw.toList) ↔ ∀ c ∈ columns, Legal c.displayName.toList := by
  rw [headerCells, List.forall_mem_map]
  exact forall_mem_zipIdx (p := fun c : Column => Legal c.displayName.toList) columns 0

theorem legal_rowCells (columns : List Column) (number : Nat) (row : Row) :
    (∀ c ∈ rowCells columns number row, Legal c.content.raw.toList) ↔
      ∀ c ∈ columns, ∀ v ∈ row.get? c.key, v.Writable := by
  have hcell (c : Column) :
      (∀ content ∈ content? (row.get? c.key), Legal content.raw.toList) ↔ ∀ v ∈ row.get? c.key, v.Writable := by
    cases row.get? c.key with
    | none => exact iff_of_true nofun nofun
    | some v => exact (legal_content v).trans ⟨fun h w hw => Option.some.inj hw ▸ h, fun h => h v rfl⟩
  rw [← forall_mem_zipIdx columns 0]
  constructor
  · rintro h ⟨c, i⟩ hc
    refine (hcell c).1 fun content hcontent => ?_
    have hshown : (content? (row.get? c.key)).map (⟨i, number, false, ·⟩) = some (⟨i, number, false, content⟩ : Cell) :=
      Option.map_eq_some_iff.2 ⟨content, hcontent, rfl⟩
    exact h _ (List.mem_filterMap.2 ⟨(c, i), hc, hshown⟩)
  · intro h cell hmem
    obtain ⟨⟨c, i⟩, hc, hmap⟩ := List.mem_filterMap.1 hmem
    obtain ⟨content, hcontent, rfl⟩ := Option.map_eq_some_iff.1 hmap
    exact (hcell c).2 (h (c, i) hc) content hcontent

theorem legal_sheetRows (page : ResultPage) :
    (∀ r ∈ sheetRows page, ∀ c ∈ r.2, Legal c.content.raw.toList) ↔
      (∀ c ∈ page.columns, Legal c.displayName.toList) ∧
        ∀ row ∈ page.rows, ∀ c ∈ page.columns, ∀ v ∈ row.get? c.key, v.Writable := by
  rw [sheetRows, List.forall_mem_cons, legal_headerCells, List.forall_mem_map]
  refine and_congr_right fun _ => ?_
  rw [← forall_mem_zipIdx page.rows 2]
  exact forall₂_congr fun r _ => legal_rowCells page.columns r.2 r.1

theorem legal_quotedTitle (title : String) : Legal (quotedTitle title).toList ↔ Legal title.toList := by
  have hquote : isXmlChar '\'' = true := by decide
  have htext : (quotedTitle title).toList =
      '\'' :: (title.toList.flatMap (fun c => if c = '\'' then ['\'', '\''] else [c]) ++ ['\'']) := by
    simp [quotedTitle]
  have hdoubled (c : Char) : Legal (if c = '\'' then ['\'', '\''] else [c]) ↔ isXmlChar c = true := by
    split
    · next h =>
      subst h
      decide
    · rw [legal_cons, and_iff_left legal_nil]
  rw [htext, legal_cons, legal_append, legal_cons, legal_flatMap, and_iff_right hquote, and_iff_right hquote,
    and_iff_left legal_nil]
  exact forall₂_congr fun c _ => hdoubled c

theorem legal_workbookMarkup (page : ResultPage) (title : String) :
    Legal (workbookMarkup page title).render.toList ↔ Legal title.toList := by
  have hsheet : Legal (Markup.single "sheet" [("name", title), ("sheetId", "1"), ("r:id", "rId1")]).render.toList ↔
      Legal title.toList := by
    have hname : Legal "name".toList := by decide
    have hids : ∀ a ∈ [("sheetId", "1"), ("r:id", "rId1")], Legal a.1.toList ∧ Legal a.2.toList := by decide
    rw [legal_single (by decide), List.forall_mem_cons, and_iff_left hids]
    exact and_iff_right hname
  have hsheets : Legal (Markup.element "sheets" []
      [.single "sheet" [("name", title), ("sheetId", "1"), ("r:id", "rId1")]]).render.toList ↔ Legal title.toList := by
    rw [legal_element (by decide), List.forall_mem_singleton, hsheet]
    exact and_iff_right (List.forall_mem_nil _)
  have hdefined (range : String) (hrange : Legal range.toList) :
      Legal (Markup.element "definedNames" []
        [.element "definedName" [("name", "_xlnm._FilterDatabase"), ("localSheetId", "0"), ("hidden", "1")]
          [.text (quotedTitle title ++ "!" ++ range)]]).render.toList ↔ Legal title.toList := by
    have hmark : Legal "!".toList := by decide
    have hattributes : ∀ a ∈ [("name", "_xlnm._FilterDatabase"), ("localSheetId", "0"), ("hidden", "1")],
        Legal a.1.toList ∧ Legal a.2.toList := by decide
    rw [legal_element (by decide), List.forall_mem_singleton, legal_element (by decide), List.forall_mem_singleton,
      legal_text, and_iff_right hattributes, String.toList_append, String.toList_append, legal_append, legal_append,
      legal_quotedTitle, and_iff_left hmark, and_iff_left hrange]
    exact and_iff_right (List.forall_mem_nil _)
  rw [workbookMarkup, legal_element (by decide), and_iff_right legal_rootAttributes, List.forall_mem_cons, hsheets,
    List.forall_mem_map]
  -- the name that stands for the filter has the title once more, and is there only with a range
  exact and_iff_left_of_imp fun h range hrange =>
    (hdefined range (legal_fixedRange _ _ range (Option.mem_toList.1 hrange))).2 h

/-- Making a name the title of a sheet brings in nothing but underscores and a title of its own. -/
theorem legal_sheetTitle {name : String} (h : Legal name.toList) : Legal (sheetTitle name).toList := by
  have hcleaned : Legal ((name.toList.map fun c => if isForbiddenInTitle c then '_' else c).take 31) := by
    intro c hc
    obtain ⟨d, hd, rfl⟩ := List.mem_map.1 (List.mem_of_mem_take hc)
    split
    · decide
    · exact h d hd
  have htrimmed : Legal (Text.trimWhile (· == '\'') (Text.trimWhile Text.isBlank
      ((name.toList.map fun c => if isForbiddenInTitle c then '_' else c).take 31))) :=
    fun c hc => hcleaned c (Text.mem_of_mem_trimWhile (Text.mem_of_mem_trimWhile hc))
  have hdefault : Legal "Sheet1".toList := by decide
  rw [sheetTitle]
  split
  · exact hdefault
  · rwa [String.toList_ofList]

theorem legal_workbookPart (page : ResultPage) (name : String) :
    Legal (Markup.document (workbookMarkup page (sheetTitle name))).toList ↔ Legal (sheetTitle name).toList := by
  rw [legal_document, legal_workbookMarkup]

theorem legal_sheetPart (page : ResultPage) :
    Legal (Markup.document (sheetMarkup page)).toList ↔ (∀ c ∈ page.columns, Legal c.displayName.toList) ∧
      ∀ row ∈ page.rows, ∀ c ∈ page.columns, ∀ v ∈ row.get? c.key, v.Writable := by
  rw [legal_document, legal_sheetMarkup, legal_sheetRows]

/-- Of the two parts that hold texts the one is allowed where the title is, and the other where the titles of the
columns and the values in the rows are. A name that is allowed makes a title that is. -/
theorem parts_legal_iff (page : ResultPage) (name : String) : ∃ book sheet,
    parts page name = [contentTypes, packageRelationships, ⟨"xl/workbook.xml", book⟩, workbookRelationships, styles,
      ⟨"xl/worksheets/sheet1.xml", sheet⟩] ∧
    (Legal book.toList ↔ Legal (sheetTitle name).toList) ∧
    (Legal sheet.toList ↔ (∀ c ∈ page.columns, Legal c.displayName.toList) ∧
      ∀ row ∈ page.rows, ∀ c ∈ page.columns, ∀ v, row.get? c.key = some v → v.Writable) ∧
    (Legal name.toList → Legal (sheetTitle name).toList) :=
  ⟨_, _, rfl, legal_workbookPart page name, legal_sheetPart page, legal_sheetTitle⟩

/-- A page with one column and one value. -/
def notePage (title : String) (v : Json) : ResultPage where
  columns := [⟨"note", title, "string", "main"⟩]
  rows := [[("main.note", v)]]
  totalCount := none
  page := 1
  pageSize := 50
  hasMore := false

theorem legal_notePage (title : String) (v : Json) :
    Legal (Markup.document (sheetMarkup (notePage title v))).toList ↔ Legal title.toList ∧ v.Writable := by
  have hvalue : Members.get? [("main.note", v)] (Column.key ⟨"note", title, "string", "main"⟩) = some v := rfl
  rw [legal_sheetPart]
  simp only [notePage, List.forall_mem_singleton, hvalue, Option.mem_some, forall_eq']

/-- The name of the sheet, the title of a column, a text and a nested value each bring a character that is not allowed
into a part. A control character in a nested value does not, since it is written as an escape of JSON. -/
theorem exists_part_not_legal :
    (∃ p ∈ parts (notePage "Note" .null) "Deals\x01", ¬Legal p.text.toList) ∧
    (∃ p ∈ parts (notePage "Note\x01" .null) "Deals", ¬Legal p.text.toList) ∧
    (∃ p ∈ parts (notePage "Note" (.text "a\x01b")) "Deals", ¬Legal p.text.toList) ∧
    (∃ p ∈ parts (notePage "Note" (.array [.text "a\uFFFFb"])) "Deals", ¬Legal p.text.toList) ∧
    Legal (Markup.document (sheetMarkup (notePage "Note" (.array [.text "a\x01b"])))).toList := by
  have hbook {page : ResultPage} {name : String} (h : ¬Legal (sheetTitle name).toList) :
      ∃ p ∈ parts page name, ¬Legal p.text.toList :=
    ⟨_, List.mem_of_getElem? (i := 2) rfl, mt (legal_workbookPart page name).1 h⟩
  have hsheet {title name : String} {v : Json} (h : ¬(Legal title.toList ∧ v.Writable)) :
      ∃ p ∈ parts (notePage title v) name, ¬Legal p.text.toList :=
    ⟨_, List.mem_of_getElem? (i := 5) rfl, mt (legal_notePage title v).1 h⟩
  have htext : ¬Legal "a\x01b".toList := by decide
  refine ⟨hbook (by decide), hsheet fun h => ?_, hsheet fun h => htext h.2, hsheet fun h => ?_, ?_⟩
  · exact absurd h.1 (by decide)
  · exact absurd (h.2 "a\uFFFFb" List.mem_cons_self).2 (by decide)
  · exact (legal_notePage _ _).2 ⟨by decide, List.forall_mem_singleton.2 (by unfold Json.Plain; decide)⟩

end Workbook

end QueryDesk
