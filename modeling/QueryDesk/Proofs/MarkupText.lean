import QueryDesk.Proofs.FilterText
import QueryDesk.Workbook.Markup

/-!
# Markup read back

`Markup.scan` takes a document apart into its tags, with their attributes, and the characters between them. What is
written for a tree with proper names is taken apart into the tags and texts of that tree (`Markup.Named.scan_render`),
whatever its texts and attribute values are: an escaped text holds no bracket and no quote, and `unescape` gives it back.
-/

namespace QueryDesk.Workbook.Markup

open OData (readUntil readUntil_append readUntil_of_not_mem)

/-! ### The reader -/

inductive Tag
  | declaration
  | opening (name : String) (attributes : List (String × String))
  | closing (name : String)
  | single (name : String) (attributes : List (String × String))
  deriving DecidableEq, Repr

/-- A tag, or a character between tags as it is written. -/
inductive Piece
  | tag (t : Tag)
  | char (c : Char)
  deriving DecidableEq, Repr

/-- Undoes the five escapes. An ampersand that starts none of them cannot be read. -/
def unescape : List Char → Option (List Char)
  | [] => some []
  | '&' :: 'l' :: 't' :: ';' :: rest => (unescape rest).map ('<' :: ·)
  | '&' :: 'g' :: 't' :: ';' :: rest => (unescape rest).map ('>' :: ·)
  | '&' :: 'a' :: 'm' :: 'p' :: ';' :: rest => (unescape rest).map ('&' :: ·)
  | '&' :: 'a' :: 'p' :: 'o' :: 's' :: ';' :: rest => (unescape rest).map ('\'' :: ·)
  | '&' :: 'q' :: 'u' :: 'o' :: 't' :: ';' :: rest => (unescape rest).map ('"' :: ·)
  | c :: rest => if c = '&' then none else (unescape rest).map (c :: ·)

/-- The name in front of a value, behind a blank and before an equals sign. -/
def readAttributeName : List Char → Option String
  | ' ' :: cs =>
    match readUntil (· == '=') cs with
    | (name, ['=']) => some (String.ofList name)
    | _ => none
  | _ => none

/-- Attributes from the parts between double quotes, which are names and values in turn. -/
def readAttributes : List (List Char) → Option (List (String × String))
  | [[]] => some []
  | name :: value :: rest => do
    let name ← readAttributeName name
    let value ← unescape value
    let rest ← readAttributes rest
    return (name, String.ofList value) :: rest
  | _ => none

/-- The name of an element and its attributes. -/
def readElement (cs : List Char) : Option (String × List (String × String)) :=
  let (name, rest) := readUntil (· == ' ') cs
  (readAttributes (Text.splitAt '"' rest)).map (String.ofList name, ·)

/-- What stands between the brackets of a tag. -/
def readTag : List Char → Option Tag
  | '?' :: _ => some .declaration
  | '/' :: name => some (.closing (String.ofList name))
  | cs =>
    if cs.getLast? = some '/' then (readElement cs.dropLast).map fun (name, attributes) => .single name attributes
    else (readElement cs).map fun (name, attributes) => .opening name attributes

/-- Takes a text apart. Within a tag it is given what has been read of the tag, the last character first. -/
def scan : Option (List Char) → List Char → Option (List Piece)
  | none, [] => some []
  | some _, [] => none
  | none, c :: cs => if c = '<' then scan (some []) cs else (scan none cs).map (.char c :: ·)
  | some tag, c :: cs =>
    if c = '>' then do
      let tag ← readTag tag.reverse
      let pieces ← scan none cs
      return .tag tag :: pieces
    else scan (some (c :: tag)) cs

/-! ### What is to be read -/

mutual
/-- The tags and characters of a tree. -/
def pieces : Markup → List Piece
  | .element name attributes children =>
    .tag (.opening name attributes) :: (piecesAll children ++ [.tag (.closing name)])
  | .single name attributes => [.tag (.single name attributes)]
  | .text s => (escape s).toList.map .char
termination_by structural m => m

def piecesAll : List Markup → List Piece
  | [] => []
  | m :: rest => m.pieces ++ piecesAll rest
termination_by structural ms => ms
end

/-- A name of an element or an attribute, perhaps with a namespace. -/
def isName (s : String) : Bool := !s.toList.isEmpty && s.toList.all fun c => Text.isIdentifierPart c || c == ':'

/-- A tree with proper names. Its texts and attribute values may be any. -/
inductive Named : Markup → Prop
  | element {name : String} {attributes : List (String × String)} {children : List Markup} (hname : isName name = true)
      (hattributes : ∀ a ∈ attributes, isName a.1 = true) (hchildren : ∀ m ∈ children, m.Named) :
      Named (.element name attributes children)
  | single {name : String} {attributes : List (String × String)} (hname : isName name = true)
      (hattributes : ∀ a ∈ attributes, isName a.1 = true) : Named (.single name attributes)
  | text (s : String) : Named (.text s)

theorem isName_ne_nil {s : String} (h : isName s = true) : s.toList ≠ [] := by
  intro heq
  rw [isName, heq] at h
  cases h

theorem isName_not_mem {s : String} {c : Char} (h : isName s = true)
    (hc : (Text.isIdentifierPart c || c == ':') = false) : c ∉ s.toList := by
  intro hmem
  have hall := (Bool.and_eq_true_iff.1 h).2
  rw [List.all_eq_true.1 hall c hmem] at hc
  cases hc

theorem piecesAll_eq_flatMap (ms : List Markup) : piecesAll ms = ms.flatMap pieces := by
  induction ms with
  | nil => rfl
  | cons m ms ih => rw [piecesAll, ih, List.flatMap_cons]

/-! ### Escapes -/

theorem toList_escape (s : String) : (escape s).toList = s.toList.flatMap escapeChar := by
  rw [escape, String.toList_ofList]

/-- The characters that are escaped. -/
def marks : List Char := ['<', '>', '&', '\'', '"']

theorem escapeChar_of_not_mem {c : Char} (h : c ∉ marks) : escapeChar c = [c] := by
  simp only [marks, List.mem_cons, List.not_mem_nil, or_false, not_or] at h
  obtain ⟨hlt, hgt, hamp, hapos, hquot⟩ := h
  simp only [escapeChar, hlt, hgt, hamp, hapos, hquot, if_false]

/-- An escape holds no bracket and no double quote. -/
theorem mem_escapeChar {c d : Char} (h : d ∈ escapeChar c) : d ≠ '<' ∧ d ≠ '>' ∧ d ≠ '"' := by
  have hescaped : ∀ c ∈ marks, ∀ d ∈ escapeChar c, d ≠ '<' ∧ d ≠ '>' ∧ d ≠ '"' := by
    simp [marks, escapeChar]
  by_cases hc : c ∈ marks
  · exact hescaped c hc d h
  · rw [escapeChar_of_not_mem hc, List.mem_singleton] at h
    subst h
    refine ⟨?_, ?_, ?_⟩
    all_goals
      rintro rfl
      exact hc (by decide)

theorem mem_escape {s : String} {d : Char} (h : d ∈ (escape s).toList) : d ≠ '<' ∧ d ≠ '>' ∧ d ≠ '"' := by
  rw [toList_escape] at h
  obtain ⟨c, -, hc⟩ := List.mem_flatMap.1 h
  exact mem_escapeChar hc

theorem unescape_cons {c : Char} (h : c ≠ '&') (rest : List Char) :
    unescape (c :: rest) = (unescape rest).map (c :: ·) := by
  rw [unescape]
  · rw [if_neg h]
  all_goals
    intro rest' heq
    exact absurd heq h

theorem unescape_escapeChar (c : Char) (rest : List Char) :
    unescape (escapeChar c ++ rest) = (unescape rest).map (c :: ·) := by
  by_cases hc : c ∈ marks
  · simp only [marks, List.mem_cons, List.not_mem_nil, or_false] at hc
    rcases hc with rfl | rfl | rfl | rfl | rfl
    all_goals simp [escapeChar, unescape]
  · rw [escapeChar_of_not_mem hc, List.singleton_append, unescape_cons]
    rintro rfl
    exact hc (by decide)

theorem unescape_flatMap (cs : List Char) : unescape (cs.flatMap escapeChar) = some cs := by
  induction cs with
  | nil => rfl
  | cons c cs ih => rw [List.flatMap_cons, unescape_escapeChar, ih, Option.map_some]

/-- An escaped text is given back. -/
theorem unescape_escape (s : String) : unescape (escape s).toList = some s.toList := by
  rw [toList_escape, unescape_flatMap]

/-! ### Tags -/

theorem toList_renderAttributes_cons (name value : String) (rest : List (String × String)) :
    (renderAttributes ((name, value) :: rest)).toList =
      ' ' :: (name.toList ++ '=' :: '"' :: ((escape value).toList ++ '"' :: (renderAttributes rest).toList)) := by
  simp [renderAttributes]

/-- The parts of the attributes between double quotes. -/
theorem splitAt_renderAttributes {attributes : List (String × String)} (h : ∀ a ∈ attributes, isName a.1 = true) :
    Text.splitAt '"' (renderAttributes attributes).toList =
      attributes.flatMap (fun a => [' ' :: (a.1.toList ++ ['=']), (escape a.2).toList]) ++ [[]] := by
  induction attributes with
  | nil => rfl
  | cons a rest ih =>
    obtain ⟨name, value⟩ := a
    obtain ⟨hname, hrest⟩ := List.forall_mem_cons.1 h
    have hquote : '"' ∉ name.toList := isName_not_mem hname (by decide)
    have hfront : '"' ∉ ' ' :: (name.toList ++ ['=']) := by simp [hquote]
    have hsplit : ' ' :: (name.toList ++ '=' :: '"' :: ((escape value).toList ++ '"' :: (renderAttributes rest).toList)) =
        (' ' :: (name.toList ++ ['='])) ++ '"' :: ((escape value).toList ++ '"' :: (renderAttributes rest).toList) := by
      simp
    rw [toList_renderAttributes_cons, hsplit, Text.splitAt_append_cons hfront,
      Text.splitAt_append_cons fun hmem => (mem_escape hmem).2.2 rfl, ih hrest]
    rfl

theorem readAttributeName_eq {name : String} (h : isName name = true) :
    readAttributeName (' ' :: (name.toList ++ ['='])) = some name := by
  have hread : readUntil (· == '=') (name.toList ++ ['=']) = (name.toList, ['=']) :=
    readUntil_of_not_mem (isName_not_mem h (by decide)) []
  rw [readAttributeName, hread]
  simp only [String.ofList_toList]

theorem readAttributes_parts {attributes : List (String × String)} (h : ∀ a ∈ attributes, isName a.1 = true) :
    readAttributes (attributes.flatMap (fun a => [' ' :: (a.1.toList ++ ['=']), (escape a.2).toList]) ++ [[]]) =
      some attributes := by
  induction attributes with
  | nil => rfl
  | cons a rest ih =>
    obtain ⟨name, value⟩ := a
    obtain ⟨hname, hrest⟩ := List.forall_mem_cons.1 h
    have hparts (tail : List (List Char)) :
        readAttributes ([' ' :: (name.toList ++ ['=']), (escape value).toList] ++ tail) =
          (readAttributes tail).map ((name, value) :: ·) := by
      rw [List.cons_append, List.singleton_append, readAttributes, readAttributeName_eq hname, unescape_escape]
      cases readAttributes tail <;> simp
    rw [List.flatMap_cons, List.append_assoc, hparts, ih hrest]
    rfl

/-- What stands between the brackets of a start tag. -/
def tagText (name : String) (attributes : List (String × String)) : List Char :=
  name.toList ++ (renderAttributes attributes).toList

theorem readElement_tagText {name : String} {attributes : List (String × String)} (hname : isName name = true)
    (hattributes : ∀ a ∈ attributes, isName a.1 = true) :
    readElement (tagText name attributes) = some (name, attributes) := by
  have hblank : ∀ c ∈ name.toList, (c == ' ') = false := by
    intro c hc
    rw [beq_eq_false_iff_ne]
    rintro rfl
    exact isName_not_mem hname (by decide) hc
  have hhead : ∀ c ∈ (renderAttributes attributes).toList.head?, (c == ' ') = true := by
    intro c hc
    cases attributes with
    | nil => cases hc
    | cons a rest =>
      rw [toList_renderAttributes_cons] at hc
      obtain rfl := Option.some.inj hc
      rfl
  rw [readElement, tagText, readUntil_append hblank hhead]
  simp only [splitAt_renderAttributes hattributes, readAttributes_parts hattributes, Option.map_some,
    String.ofList_toList]

/-- Neither a tag nor a text has a bracket inside. -/
theorem not_mem_tagText {name : String} {attributes : List (String × String)} (hname : isName name = true)
    (hattributes : ∀ a ∈ attributes, isName a.1 = true) : '>' ∉ tagText name attributes := by
  rw [tagText, List.mem_append, not_or]
  refine ⟨isName_not_mem hname (by decide), ?_⟩
  induction attributes with
  | nil => simp [renderAttributes]
  | cons a rest ih =>
    obtain ⟨hfirst, hrest⟩ := List.forall_mem_cons.1 hattributes
    have hvalue : '>' ∉ (escape a.2).toList := fun hmem => (mem_escape hmem).2.1 rfl
    have hkey : '>' ∉ a.1.toList := isName_not_mem hfirst (by decide)
    rw [toList_renderAttributes_cons]
    simp [hkey, hvalue, ih hrest]

/-- A start tag ends with a letter of its name or with a quote. -/
theorem getLast?_tagText {name : String} (attributes : List (String × String)) (hname : isName name = true) :
    (tagText name attributes).getLast? ≠ some '/' := by
  have hend : attributes = [] ∨ (renderAttributes attributes).toList.getLast? = some '"' := by
    induction attributes with
    | nil => exact .inl rfl
    | cons a rest ih =>
      have hsplit : (renderAttributes (a :: rest)).toList =
          (' ' :: (a.1.toList ++ '=' :: '"' :: (escape a.2).toList)) ++ '"' :: (renderAttributes rest).toList := by
        rw [toList_renderAttributes_cons]
        simp
      rw [hsplit, List.getLast?_append, List.getLast?_cons]
      rcases ih with rfl | hrest
      · exact .inr rfl
      · rw [hrest]
        exact .inr rfl
  rw [tagText, List.getLast?_append]
  rcases hend with rfl | hquote
  · intro hlast
    simp only [renderAttributes, String.toList_empty, List.getLast?_nil, Option.none_or] at hlast
    exact isName_not_mem hname (by decide) (List.mem_of_getLast? hlast)
  · rw [hquote]
    simp

/-- A start tag starts with a character of its name. -/
theorem exists_tagText_eq_cons {name : String} (attributes : List (String × String)) (hname : isName name = true) :
    ∃ c cs, tagText name attributes = c :: cs ∧ c ≠ '?' ∧ c ≠ '/' := by
  obtain ⟨c, cs, hcs⟩ := List.exists_cons_of_ne_nil (isName_ne_nil hname)
  have hnot {d : Char} (hd : (Text.isIdentifierPart d || d == ':') = false) : c ≠ d := by
    rintro rfl
    exact isName_not_mem hname hd (hcs ▸ List.mem_cons_self)
  refine ⟨c, cs ++ (renderAttributes attributes).toList, ?_, hnot (by decide), hnot (by decide)⟩
  rw [tagText, hcs, List.cons_append]

theorem readTag_cons {c : Char} {cs : List Char} (hquestion : c ≠ '?') (hslash : c ≠ '/') :
    readTag (c :: cs) =
      if (c :: cs).getLast? = some '/' then
        (readElement (c :: cs).dropLast).map fun (name, attributes) => .single name attributes
      else (readElement (c :: cs)).map fun (name, attributes) => .opening name attributes := by
  rw [readTag]
  · exact fun _ heq => hquestion (List.cons.inj heq).1
  · exact fun _ heq => hslash (List.cons.inj heq).1

theorem readTag_opening {name : String} {attributes : List (String × String)} (hname : isName name = true)
    (hattributes : ∀ a ∈ attributes, isName a.1 = true) :
    readTag (tagText name attributes) = some (.opening name attributes) := by
  have helement := readElement_tagText hname hattributes
  have hlast := getLast?_tagText attributes hname
  obtain ⟨c, cs, htext, hquestion, hslash⟩ := exists_tagText_eq_cons attributes hname
  rw [htext] at helement hlast ⊢
  rw [readTag_cons hquestion hslash, if_neg hlast, helement]
  rfl

theorem readTag_single {name : String} {attributes : List (String × String)} (hname : isName name = true)
    (hattributes : ∀ a ∈ attributes, isName a.1 = true) :
    readTag (tagText name attributes ++ ['/']) = some (.single name attributes) := by
  have helement := readElement_tagText hname hattributes
  obtain ⟨c, cs, htext, hquestion, hslash⟩ := exists_tagText_eq_cons attributes hname
  rw [htext] at helement ⊢
  have hlast : (c :: (cs ++ ['/'])).getLast? = some '/' := by
    rw [← List.cons_append, List.getLast?_concat]
  have hfront : (c :: (cs ++ ['/'])).dropLast = c :: cs := by
    rw [← List.cons_append, List.dropLast_concat]
  rw [List.cons_append, readTag_cons hquestion hslash, if_pos hlast, hfront, helement]
  rfl

/-! ### Documents -/

theorem scan_chars {cs : List Char} (h : '<' ∉ cs) (rest : List Char) :
    scan none (cs ++ rest) = (scan none rest).map (cs.map .char ++ ·) := by
  induction cs with
  | nil => simp
  | cons c cs ih =>
    obtain ⟨hc, hcs⟩ := not_or.1 (mt List.mem_cons.2 h)
    rw [List.cons_append, scan, if_neg (Ne.symm hc), ih hcs, Option.map_map]
    rfl

theorem scan_within {cs : List Char} (h : '>' ∉ cs) (tag rest : List Char) :
    scan (some tag) (cs ++ '>' :: rest) = scan (some (cs.reverse ++ tag)) ('>' :: rest) := by
  induction cs generalizing tag with
  | nil => rfl
  | cons c cs ih =>
    obtain ⟨hc, hcs⟩ := not_or.1 (mt List.mem_cons.2 h)
    rw [List.cons_append, scan, if_neg (Ne.symm hc), ih hcs, List.reverse_cons, List.append_assoc]
    rfl

/-- A tag ends at the first closing bracket. -/
theorem scan_tag {cs : List Char} {t : Tag} (h : '>' ∉ cs) (ht : readTag cs = some t) (rest : List Char) :
    scan none ('<' :: (cs ++ '>' :: rest)) = (scan none rest).map (.tag t :: ·) := by
  rw [scan, if_pos rfl, scan_within h, scan, if_pos rfl, List.append_nil, List.reverse_reverse, ht]
  cases scan none rest <;> rfl

theorem toList_render_element (name : String) (attributes : List (String × String)) (children : List Markup) :
    (Markup.element name attributes children).render.toList =
      '<' :: (tagText name attributes ++ '>' :: ((renderAll children).toList ++
        '<' :: ('/' :: name.toList ++ '>' :: []))) := by
  simp [render, tagText]

theorem toList_render_single (name : String) (attributes : List (String × String)) :
    (Markup.single name attributes).render.toList = '<' :: (tagText name attributes ++ ['/'] ++ '>' :: []) := by
  simp [render, tagText]

/-- What is written for a tree is taken apart into the tags and characters of the tree. -/
theorem Named.scan_render {m : Markup} (h : m.Named) (rest : List Char) :
    scan none (m.render.toList ++ rest) = (scan none rest).map (m.pieces ++ ·) := by
  induction h generalizing rest with
  | @element name attributes children hname hattributes hchildren ih =>
    have hclosing : '>' ∉ '/' :: name.toList := by
      simp [isName_not_mem hname (c := '>') (by decide)]
    have hnested (tail : List Char) :
        scan none ((renderAll children).toList ++ tail) = (scan none tail).map (piecesAll children ++ ·) := by
      clear hchildren
      induction children with
      | nil => simp [renderAll, piecesAll]
      | cons m ms ihms =>
        obtain ⟨hm, hms⟩ := List.forall_mem_cons.1 ih
        rw [renderAll, String.toList_append, List.append_assoc, hm, ihms hms, Option.map_map, piecesAll]
        simp only [Function.comp_def, List.append_assoc]
    have htext (tail : List Char) :
        (Markup.element name attributes children).render.toList ++ tail =
          '<' :: (tagText name attributes ++ '>' :: ((renderAll children).toList ++
            ('<' :: ('/' :: name.toList ++ '>' :: tail)))) := by
      rw [toList_render_element]
      simp
    rw [htext, scan_tag (not_mem_tagText hname hattributes) (readTag_opening hname hattributes), hnested,
      scan_tag (t := .closing name) hclosing (by rw [readTag, String.ofList_toList]), Option.map_map, Option.map_map,
      pieces]
    simp [Function.comp_def]
  | @single name attributes hname hattributes =>
    have hbody : '>' ∉ tagText name attributes ++ ['/'] := by
      simp [not_mem_tagText hname hattributes]
    rw [toList_render_single, List.cons_append, List.append_assoc (_ ++ _), List.singleton_append,
      scan_tag hbody (readTag_single hname hattributes)]
    rfl
  | text s => exact scan_chars (fun hmem => (mem_escape hmem).1 rfl) rest

/-- What stands between the brackets of the declaration. -/
def declarationText : List Char := "?xml version=\"1.0\" encoding=\"UTF-8\" standalone=\"yes\"?".toList

theorem toList_document (root : Markup) :
    (document root).toList = '<' :: (declarationText ++ '>' :: root.render.toList) := by
  have hdeclaration : "<?xml version=\"1.0\" encoding=\"UTF-8\" standalone=\"yes\"?>".toList =
      '<' :: (declarationText ++ ['>']) := by
    decide +kernel
  calc (document root).toList = _ ++ root.render.toList := String.toList_append
    _ = '<' :: (declarationText ++ ['>']) ++ root.render.toList := congrArg (· ++ _) hdeclaration
    _ = '<' :: (declarationText ++ '>' :: root.render.toList) := by
      rw [List.cons_append, List.append_assoc, List.singleton_append]

theorem Named.scan_document {root : Markup} (h : root.Named) :
    scan none (document root).toList = some (.tag .declaration :: root.pieces) := by
  have hbracket : '>' ∉ declarationText := by
    decide +kernel
  have hread : readTag declarationText = some .declaration := by
    decide +kernel
  have hroot : scan none root.render.toList = some root.pieces := by
    have hscan := h.scan_render []
    rwa [List.append_nil, scan, Option.map_some, List.append_nil] at hscan
  rw [toList_document, scan_tag hbracket hread, hroot, Option.map_some]

end QueryDesk.Workbook.Markup
