import QueryDesk.Proofs.ExpandTree
import QueryDesk.Proofs.FilterText

/-!
# Query strings read back

`readOptions` takes a query string apart: the parameters stand between `&`, each a name and a value, and
every value has its own grammar. What `Options.render` writes for options made of identifiers is read back
as those options (`Options.readOptions_render`), so the string `Query.compile` writes for a valid query
says what was asked for and nothing else.
-/

namespace QueryDesk

namespace OData

/-! ### The reader -/

/-- What a text holds behind a given beginning. -/
def behind? : List Char → List Char → Option (List Char)
  | [], cs => some cs
  | _ :: _, [] => none
  | c :: cs, d :: ds => if c = d then behind? cs ds else none

def readParameter (cs : List Char) : String × List Char :=
  let (name, rest) := readUntil (· == '=') cs
  (String.ofList name, rest.drop 1)

def readParameters (request : String) : Option (List (String × List Char)) :=
  (behind? ['?'] request.toList).map fun cs => (Text.splitAt '&' cs).map readParameter

/-- The values of the named parameters, which have to stand in the given order, and what is left. -/
def takeValues : List String → List (String × List Char) → List (Option (List Char)) × List (String × List Char)
  | [], ps => ([], ps)
  | name :: names, (n, v) :: ps =>
    if n = name then
      let (vs, rest) := takeValues names ps
      (some v :: vs, rest)
    else
      let (vs, rest) := takeValues names ((n, v) :: ps)
      (none :: vs, rest)
  | _ :: names, [] =>
    let (vs, rest) := takeValues names []
    (none :: vs, rest)

def readNames (cs : List Char) : List String := (Text.splitAt ',' cs).map String.ofList

/-- The selected names at the start of the options of an expansion, and the options after them. -/
def readSelect (cs : List Char) : List String × List Char :=
  match behind? "$select=".toList cs with
  | some rest =>
    match readUntil (fun c => c == ';' || c == ')') rest with
    | (names, ';' :: rest) => (readNames names, rest)
    | (names, rest) => (readNames names, rest)
  | none => ([], cs)

/-- The expansions nested in another one, which `read` reads, and what follows them. -/
def readNestedExpands (read : List Char → Option (List Expand × List Char)) (cs : List Char) :
    Option (List Expand × List Char) :=
  match behind? "$expand=".toList cs with
  | some rest => read rest
  | none => some ([], cs)

/-- The closing parenthesis of an expansion, and the expansions behind a comma, which `read` reads. -/
def readClosing (read : List Char → Option (List Expand × List Char)) (expand : Expand) :
    List Char → Option (List Expand × List Char)
  | ')' :: ',' :: rest => (read rest).map fun (es, r) => (expand :: es, r)
  | ')' :: rest => some ([expand], rest)
  | _ => none

/-- Expansions between commas, up to the end of the list; every one of them takes a step. -/
def readExpands : Nat → List Char → Option (List Expand × List Char)
  | 0, _ => none
  | steps + 1, cs =>
    match readUntil (· == '(') cs with
    | (navigation, '(' :: rest) =>
      let (select, rest) := readSelect rest
      (readNestedExpands (readExpands steps) rest).bind fun (nested, rest) =>
        readClosing (readExpands steps) (.mk (String.ofList navigation) select nested) rest
    | _ => none

def readForest (cs : List Char) : Option (List Expand) :=
  match readExpands cs.length cs with
  | some (es, []) => some es
  | _ => none

def directionOf? (word : List Char) : Option Direction :=
  if word = "asc".toList then some .asc else if word = "desc".toList then some .desc else none

def readSort (cs : List Char) : Option (String × Direction) :=
  match readUntil (· == ' ') cs with
  | (path, ' ' :: word) => (directionOf? word).map (String.ofList path, ·)
  | _ => none

def readNumber (cs : List Char) : Option Nat :=
  if cs ≠ [] ∧ cs.all Char.isDigit then some (Nat.ofDigitChars 10 cs 0) else none

def parameterNames : List String := ["$count", "$select", "$expand", "$filter", "$orderby", "$top", "$skip"]

/-- The options a query string asks for. -/
def readOptions (request : String) : Option Options := do
  match takeValues parameterNames (← readParameters request) with
  | ([some count, select, expand, filter, orderBy, some top, skip], []) =>
    if count = "true".toList then
      some
        { select := (select.map readNames).getD []
          expand := ← (expand.map readForest).getD (some [])
          filter := ← filter.mapM Text.decodeSegment?
          orderBy := ← (orderBy.map fun cs => (Text.splitAt ',' cs).mapM readSort).getD (some [])
          top := ← readNumber top
          skip := ← skip.mapM readNumber }
    else none
  | _ => none

/-! ### Parameters -/

theorem behind?_append (a cs : List Char) : behind? a (a ++ cs) = some cs := by
  induction a with
  | nil => rfl
  | cons c a ih => rw [List.cons_append, behind?, if_pos rfl, ih]

/-- The parameters that have a value. -/
def present (fields : List (String × Option (List Char))) : List (String × List Char) :=
  fields.filterMap fun (name, v?) => v?.map (name, ·)

@[simp] theorem present_none (name : String) (fields : List (String × Option (List Char))) :
    present ((name, none) :: fields) = present fields := rfl

@[simp] theorem present_some (name : String) (v : List Char) (fields : List (String × Option (List Char))) :
    present ((name, some v) :: fields) = (name, v) :: present fields := rfl

theorem takeValues_skip {name : String} {names : List String} {ps : List (String × List Char)}
    (h : ∀ p ∈ ps, p.1 ≠ name) :
    takeValues (name :: names) ps = (none :: (takeValues names ps).1, (takeValues names ps).2) := by
  cases ps with
  | nil => rw [takeValues]
  | cons p ps =>
    obtain ⟨n, v⟩ := p
    rw [takeValues, if_neg (h _ List.mem_cons_self)]

theorem takeValues_present {fields : List (String × Option (List Char))} (h : (fields.map (·.1)).Nodup) :
    takeValues (fields.map (·.1)) (present fields) = (fields.map (·.2), []) := by
  induction fields with
  | nil => rfl
  | cons field fields ih =>
    obtain ⟨name, v?⟩ := field
    obtain ⟨hname, hnd⟩ := List.nodup_cons.1 h
    have hrest : ∀ p ∈ present fields, p.1 ≠ name := by
      rintro ⟨n, v⟩ hp rfl
      obtain ⟨⟨n', v'?⟩, hmem, hsome⟩ := List.mem_filterMap.1 hp
      obtain ⟨v', -, heq⟩ := Option.map_eq_some_iff.1 hsome
      obtain ⟨rfl, rfl⟩ := Prod.mk.inj heq
      exact hname (List.mem_map.2 ⟨_, hmem, rfl⟩)
    cases v? with
    | none => rw [present_none, List.map_cons, takeValues_skip hrest, ih hnd]; rfl
    | some v => rw [present_some, List.map_cons, takeValues, if_pos rfl, ih hnd]; rfl

def parameterText (p : String × List Char) : List Char := p.1.toList ++ '=' :: p.2

theorem readParameter_parameterText {p : String × List Char} (h : '=' ∉ p.1.toList) :
    readParameter (parameterText p) = p := by
  rw [readParameter, parameterText, readUntil_of_not_mem h]
  simp only [String.ofList_toList, List.drop_succ_cons, List.drop_zero]

theorem readParameters_render {ps : List (String × List Char)} {request : String} (hne : ps ≠ [])
    (hname : ∀ p ∈ ps, '=' ∉ p.1.toList) (hamp : ∀ p ∈ ps, '&' ∉ parameterText p)
    (h : request.toList = '?' :: ['&'].intercalate (ps.map parameterText)) : readParameters request = some ps := by
  rw [readParameters, h]
  have hsplit : Text.splitAt '&' (['&'].intercalate (ps.map parameterText)) = ps.map parameterText := by
    refine Text.splitAt_intercalate (by simpa using hne) fun cs hcs => ?_
    obtain ⟨p, hp, rfl⟩ := List.mem_map.1 hcs
    exact hamp p hp
  have hread : ∀ p ∈ ps, (readParameter ∘ parameterText) p = id p := fun p hp =>
    readParameter_parameterText (hname p hp)
  simp only [behind?, if_true, Option.map_some, hsplit, List.map_map]
  rw [List.map_congr_left hread, List.map_id]

/-! ### Names, directions and numbers -/

def commaText (xs : List String) : List Char := [','].intercalate (xs.map String.toList)

theorem readNames_commaText {xs : List String} (hne : xs ≠ []) (h : ∀ x ∈ xs, ',' ∉ x.toList) :
    readNames (commaText xs) = xs := by
  rw [readNames, commaText, Text.splitAt_intercalate]
  · exact List.map_ofList_toList xs
  · simpa using hne
  · intro p hp
    obtain ⟨x, hx, rfl⟩ := List.mem_map.1 hp
    exact h x hx

theorem directionOf?_name (d : Direction) : directionOf? d.name.toList = some d := by
  cases d <;> decide

def sortText (s : String × Direction) : String := s.1 ++ " " ++ s.2.name

theorem readSort_sortText {s : String × Direction} (h : ' ' ∉ s.1.toList) : readSort (sortText s).toList = some s := by
  have htext : (sortText s).toList = s.1.toList ++ ' ' :: s.2.name.toList := by simp [sortText]
  rw [htext, readSort, readUntil_of_not_mem h]
  simp only [directionOf?_name, Option.map_some, String.ofList_toList]

theorem mapM_readSort {xs : List (String × Direction)} (h : ∀ s ∈ xs, ' ' ∉ s.1.toList) :
    (xs.map fun s => (sortText s).toList).mapM readSort = some xs := by
  induction xs with
  | nil => rfl
  | cons s xs ih =>
    rw [List.map_cons, List.mapM_cons, readSort_sortText (h s List.mem_cons_self),
      ih fun x hx => h x (List.mem_cons_of_mem _ hx)]
    rfl

theorem readNumber_toString (n : Nat) : readNumber (toString n).toList = some n := by
  rw [Nat.toString_eq_ofList_toDigits, String.toList_ofList, readNumber, if_pos, Nat.ofDigitChars_ten_toDigits]
  refine ⟨Nat.toDigits_ne_nil, List.all_eq_true.2 fun c hc => ?_⟩
  exact Nat.isDigit_of_mem_toDigits (by decide) (by decide) hc

/-! ### Expansions -/

/-- All names in an expansion are identifiers. -/
inductive Expand.Named : Expand → Prop
  | mk {n : String} {s : List String} {xs : List Expand} (navigation : Text.isIdentifier n = true)
      (select : ∀ x ∈ s, Text.isIdentifier x = true) (nested : ∀ e ∈ xs, e.Named) : Expand.Named (.mk n s xs)

def forestText (es : List Expand) : List Char := commaText (renderAll es)

theorem renderAll_eq_map (es : List Expand) : renderAll es = es.map Expand.render := by
  induction es with
  | nil => rfl
  | cons e es ih => rw [renderAll, ih, List.map_cons]

def nestedText (xs : List Expand) : List Char := if xs = [] then [] else "$expand=".toList ++ forestText xs

def innerText (s : List String) (xs : List Expand) : List Char :=
  (if s = [] then [] else "$select=".toList ++ commaText s) ++ (if s = [] ∨ xs = [] then [] else [';']) ++ nestedText xs

theorem toList_render (n : String) (s : List String) (xs : List Expand) :
    (Expand.mk n s xs).render.toList = n.toList ++ '(' :: (innerText s xs ++ [')']) := by
  have hall : renderAll xs = [] ↔ xs = [] := by rw [renderAll_eq_map, List.map_eq_nil_iff]
  rw [Expand.render]
  by_cases hs : s = [] <;> by_cases hxs : xs = [] <;>
    simp [option, innerText, nestedText, forestText, commaText, hs, hxs, hall, renderAll]

theorem behind?_select_nestedText (xs : List Expand) (rest : List Char) :
    behind? "$select=".toList (nestedText xs ++ ')' :: rest) = none := by
  unfold nestedText
  split
  · rfl
  · rw [List.append_assoc]; rfl

theorem readSelect_innerText {s : List String} (hs : ∀ x ∈ s, Text.isIdentifier x = true) (xs : List Expand)
    (rest : List Char) : readSelect (innerText s xs ++ ')' :: rest) = (s, nestedText xs ++ ')' :: rest) := by
  unfold innerText
  by_cases hne : s = []
  · rw [if_pos hne, if_pos (.inl hne), List.nil_append, List.nil_append, readSelect, behind?_select_nestedText, hne]
  have hstop : ∀ c ∈ commaText s, (c == ';' || c == ')') = false := by
    refine List.forall_mem_intercalate (List.forall_mem_singleton.2 rfl) fun p hp c hc => ?_
    obtain ⟨x, hx, rfl⟩ := List.mem_map.1 hp
    rw [Bool.or_eq_false_iff, beq_eq_false_iff_ne, beq_eq_false_iff_ne]
    constructor <;> (rintro rfl; exact Text.isIdentifier_not_mem (hs x hx) (by decide) hc)
  have hnames := readNames_commaText hne fun x hx => Text.isIdentifier_not_mem (hs x hx) (by decide)
  rw [if_neg hne]
  simp only [hne, false_or, List.append_assoc]
  rw [readSelect, behind?_append]
  by_cases hxs : xs = []
  · have hread : readUntil (fun c => c == ';' || c == ')') (commaText s ++ ')' :: rest) = (commaText s, ')' :: rest) :=
      readUntil_append hstop (by simp)
    rw [if_pos hxs, nestedText, if_pos hxs, List.nil_append, List.nil_append]
    simp only [hread]
    show (readNames (commaText s), ')' :: rest) = _
    rw [hnames]
  · have hread : readUntil (fun c => c == ';' || c == ')') (commaText s ++ ';' :: (nestedText xs ++ ')' :: rest)) =
        (commaText s, ';' :: (nestedText xs ++ ')' :: rest)) := readUntil_append hstop (by simp)
    rw [if_neg hxs, List.singleton_append]
    simp only [hread, hnames]

theorem length_render_pos (e : Expand) : 2 ≤ e.render.toList.length := by
  obtain ⟨n, s, xs⟩ := e
  rw [toList_render]
  simp only [List.length_append, List.length_cons]
  omega

theorem forestText_cons (e : Expand) (es : List Expand) :
    forestText (e :: es) = e.render.toList ++ if es = [] then [] else ',' :: forestText es := by
  cases es with
  | nil => simp [forestText, commaText, renderAll]
  | cons e' es =>
    rw [forestText, commaText, renderAll, renderAll, List.map_cons, List.map_cons, List.intercalate_cons_cons,
      if_neg (List.cons_ne_nil _ _), List.append_assoc]
    rfl

theorem readNestedExpands_nestedText {read : List Char → Option (List Expand × List Char)} {xs : List Expand}
    {rest : List Char} (h : xs ≠ [] → read (forestText xs ++ ')' :: rest) = some (xs, ')' :: rest)) :
    readNestedExpands read (nestedText xs ++ ')' :: rest) = some (xs, ')' :: rest) := by
  rw [readNestedExpands, nestedText]
  by_cases hxs : xs = []
  · subst hxs; rfl
  · rw [if_neg hxs, List.append_assoc, behind?_append]
    exact h hxs

theorem readClosing_forestText {read : List Char → Option (List Expand × List Char)} (e : Expand) {es : List Expand}
    {rest : List Char} (h : es ≠ [] → read (forestText es ++ rest) = some (es, rest)) (hrest : ∀ c ∈ rest.head?, c ≠ ',') :
    readClosing read e (')' :: ((if es = [] then [] else ',' :: forestText es) ++ rest)) = some (e :: es, rest) := by
  by_cases hes : es = []
  · subst hes
    cases rest with
    | nil => rfl
    | cons c rest =>
      have hc : c ≠ ',' := hrest c rfl
      rw [if_pos rfl, List.nil_append, readClosing]
      rintro r hr
      exact hc (List.cons.inj hr).1
  · rw [if_neg hes, List.cons_append, readClosing, h hes]
    rfl

theorem length_forestText_le_innerText (s : List String) {xs : List Expand} (h : xs ≠ []) :
    (forestText xs).length ≤ (innerText s xs).length := by
  rw [innerText, nestedText, if_neg h]
  simp only [List.length_append]
  omega

/-- Each expansion takes a step, and its nested ones and those after it are written shorter. -/
theorem readExpands_forestText {steps : Nat} {es : List Expand} (hne : es ≠ []) (hes : ∀ e ∈ es, e.Named)
    (hsteps : (forestText es).length ≤ steps) {rest : List Char} (hrest : ∀ c ∈ rest.head?, c ≠ ',') :
    readExpands steps (forestText es ++ rest) = some (es, rest) := by
  induction steps generalizing es rest with
  | zero =>
    obtain ⟨e, es, rfl⟩ := List.exists_cons_of_ne_nil hne
    have := length_render_pos e
    rw [forestText_cons, List.length_append] at hsteps
    omega
  | succ steps ih =>
    obtain ⟨e, es, rfl⟩ := List.exists_cons_of_ne_nil hne
    obtain ⟨he, hafter⟩ := List.forall_mem_cons.1 hes
    obtain @⟨n, s, xs, hn, hs, hxs⟩ := he
    rw [forestText_cons, toList_render] at hsteps ⊢
    simp only [List.length_append, List.length_cons, List.length_nil] at hsteps
    simp only [List.append_assoc, List.cons_append, List.nil_append]
    -- the bound on the steps is the length of the text, which both parts undercut by the parentheses
    have hnested (tail : List Char) :
        readNestedExpands (readExpands steps) (nestedText xs ++ ')' :: tail) = some (xs, ')' :: tail) :=
      readNestedExpands_nestedText fun h => by
        have hlen := length_forestText_le_innerText s h
        exact ih h hxs (by omega) (by simp)
    have hclosing := readClosing_forestText (.mk n s xs) (fun h => by
      rw [if_neg h, List.length_cons] at hsteps
      exact ih h hafter (by omega) hrest) hrest
    rw [readExpands, readUntil_of_not_mem (Text.isIdentifier_not_mem hn (by decide))]
    simp only [readSelect_innerText hs, hnested, Option.bind_some, String.ofList_toList, hclosing]

theorem readForest_forestText {es : List Expand} (hne : es ≠ []) (hes : ∀ e ∈ es, e.Named) :
    readForest (forestText es) = some es := by
  have hread : readExpands (forestText es).length (forestText es ++ []) = some (es, []) :=
    readExpands_forestText hne hes (Nat.le_refl _) (by simp)
  rw [List.append_nil] at hread
  rw [readForest, hread]

/-! ### Options -/

/-- Options whose names are identifiers and whose paths are made of those. -/
structure Options.Named (o : Options) : Prop where
  select : ∀ x ∈ o.select, Text.isIdentifier x = true
  expand : ∀ e ∈ o.expand, e.Named
  orderBy : ∀ s ∈ o.orderBy, ∀ c ∈ s.1.toList, Text.isIdentifierPart c = true ∨ c = '/'

/-- The value of a list, unless it is empty. -/
def listValue (xs : List String) : Option (List Char) := if xs = [] then none else some (commaText xs)

def Options.fields (o : Options) : List (String × Option (List Char)) :=
  [("$count", some "true".toList), ("$select", listValue o.select), ("$expand", listValue (renderAll o.expand)),
    ("$filter", o.filter.map fun f => (encodeParam f).toList), ("$orderby", listValue (o.orderBy.map sortText)),
    ("$top", some (toString o.top).toList), ("$skip", o.skip.map fun n => (toString n).toList)]

theorem toList_option (name : String) (xs : List String) :
    (option name xs).map String.toList = (present [(name, listValue xs)]).map parameterText := by
  unfold option listValue
  by_cases h : xs = []
  · simp [h, present]
  · simp [h, present, parameterText, commaText]

theorem present_append (fs gs : List (String × Option (List Char))) : present (fs ++ gs) = present fs ++ present gs :=
  List.filterMap_append

def optional (name : String) (value? : Option String) : List String := (value?.map (name ++ "=" ++ ·)).toList

theorem toList_optional (name : String) (value? : Option String) :
    (optional name value?).map String.toList = (present [(name, value?.map String.toList)]).map parameterText := by
  cases value? with
  | none => rfl
  | some v => simp [optional, present, parameterText]

theorem Options.parameters_eq (o : Options) : o.parameters = optional "$count" (some "true")
    ++ option "$select" o.select ++ option "$expand" (renderAll o.expand) ++ optional "$filter" (o.filter.map encodeParam)
    ++ option "$orderby" (o.orderBy.map sortText) ++ optional "$top" (some (toString o.top))
    ++ optional "$skip" (o.skip.map toString) := by
  obtain ⟨select, expand, filter, orderBy, top, skip⟩ := o
  cases filter <;> cases skip <;> rfl

theorem Options.toList_parameters (o : Options) : o.parameters.map String.toList = (present o.fields).map parameterText := by
  have hfields : o.fields = [("$count", (some "true").map String.toList)] ++ [("$select", listValue o.select)]
      ++ [("$expand", listValue (renderAll o.expand))] ++ [("$filter", (o.filter.map encodeParam).map String.toList)]
      ++ [("$orderby", listValue (o.orderBy.map sortText))] ++ [("$top", (some (toString o.top)).map String.toList)]
      ++ [("$skip", (o.skip.map toString).map String.toList)] := by
    rw [Option.map_map, Option.map_map]
    rfl
  rw [hfields, parameters_eq]
  simp only [present_append, List.map_append, toList_option, toList_optional]

theorem Options.toList_render (o : Options) :
    o.render.toList = '?' :: ['&'].intercalate ((present o.fields).map parameterText) := by
  rw [render, String.toList_append, String.toList_intercalate, toList_parameters]
  rfl

/-! ### Characters -/

/-- The characters of options outside of the filter: those of identifiers and the separators. -/
def isOptionChar (c : Char) : Bool := Text.isIdentifierPart c || "$=,;()/ ".toList.contains c

theorem isOptionChar_of_part {c : Char} (h : Text.isIdentifierPart c = true) : isOptionChar c = true := by
  rw [isOptionChar, h, Bool.true_or]

theorem isOptionChar_of_identifier {s : String} (h : Text.isIdentifier s = true) : ∀ c ∈ s.toList, isOptionChar c = true :=
  fun c hc => isOptionChar_of_part (Text.isIdentifier_parts h c hc)

theorem isOptionChar_toString (n : Nat) : ∀ c ∈ (toString n).toList, isOptionChar c = true := by
  rw [Nat.toString_eq_ofList_toDigits, String.toList_ofList]
  intro c hc
  have hdigit := Nat.isDigit_of_mem_toDigits (by decide) (by decide) hc
  refine isOptionChar_of_part ?_
  rw [Text.isIdentifierPart, Text.isAsciiDigit, Bool.or_eq_true]
  simp only [Char.isDigit, Bool.and_eq_true, decide_eq_true_eq] at hdigit
  exact .inr (by simpa only [Bool.and_eq_true, decide_eq_true_eq, Char.le_def] using hdigit)

theorem isOptionChar_commaText {xs : List String} (h : ∀ x ∈ xs, ∀ c ∈ x.toList, isOptionChar c = true) :
    ∀ c ∈ commaText xs, isOptionChar c = true :=
  List.forall_mem_intercalate (List.all_eq_true.1 rfl) fun p hp c hc => by
    obtain ⟨x, hx, rfl⟩ := List.mem_map.1 hp
    exact h x hx c hc

theorem Expand.Named.isOptionChar {e : Expand} (h : e.Named) : ∀ c ∈ e.render.toList, isOptionChar c = true := by
  induction h with
  | @mk n s xs hn hs hxs ih =>
    have hforest : ∀ c ∈ forestText xs, OData.isOptionChar c = true := isOptionChar_commaText fun t ht => by
      rw [renderAll_eq_map] at ht
      obtain ⟨e, he, rfl⟩ := List.mem_map.1 ht
      exact ih e he
    have hselect := isOptionChar_commaText fun x hx => isOptionChar_of_identifier (hs x hx)
    rw [toList_render, innerText, nestedText]
    refine List.forall_mem_append.2 ⟨isOptionChar_of_identifier hn, List.forall_mem_cons.2 ⟨by decide,
      List.forall_mem_append.2 ⟨List.forall_mem_append.2 ⟨List.forall_mem_append.2 ⟨?_, ?_⟩, ?_⟩, List.all_eq_true.1 rfl⟩⟩⟩
    · split
      · exact List.forall_mem_nil _
      · exact List.forall_mem_append.2 ⟨List.all_eq_true.1 rfl, hselect⟩
    · split <;> exact List.all_eq_true.1 rfl
    · split
      · exact List.forall_mem_nil _
      · exact List.forall_mem_append.2 ⟨List.all_eq_true.1 rfl, hforest⟩

theorem mem_encodeChar {c d : Char} (h : d ∈ encodeChar c) : d ≠ '&' ∧ d ≠ '#' ∧ d ≠ '+' := by
  unfold encodeChar at h
  have escape {cs : List Char} (hd : d ∈ cs) (hcs : cs.all fun c => c ≠ '&' ∧ c ≠ '#' ∧ c ≠ '+') :
      d ≠ '&' ∧ d ≠ '#' ∧ d ≠ '+' := by
    simpa using List.all_eq_true.1 hcs d hd
  split at h
  · exact escape h (by decide)
  · split at h
    · exact escape h (by decide)
    · next hamp =>
      split at h
      · exact escape h (by decide)
      · next hhash =>
        split at h
        · exact escape h (by decide)
        · next hplus =>
          obtain rfl := List.mem_singleton.1 h
          exact ⟨hamp, hhash, hplus⟩

theorem mem_encodeParam {f : String} {d : Char} (h : d ∈ (encodeParam f).toList) : d ≠ '&' ∧ d ≠ '#' ∧ d ≠ '+' := by
  rw [encodeParam, String.toList_ofList] at h
  obtain ⟨c, -, hc⟩ := List.mem_flatMap.1 h
  exact mem_encodeChar hc

/-- Whether every percent sign starts the escape of a character that needs one. -/
def onlyEscapes : List Char → Bool
  | [] => true
  | '%' :: a :: b :: rest => ["25", "26", "23", "2B"].contains (String.ofList [a, b]) && onlyEscapes rest
  | '%' :: _ => false
  | _ :: rest => onlyEscapes rest

theorem onlyEscapes_cons {c : Char} (h : c ≠ '%') (cs : List Char) : onlyEscapes (c :: cs) = onlyEscapes cs := by
  rw [onlyEscapes]
  · exact fun _ _ _ hc _ => h hc
  · exact h

theorem onlyEscapes_flatMap (cs : List Char) : onlyEscapes (cs.flatMap encodeChar) = true := by
  induction cs with
  | nil => rfl
  | cons c cs ih =>
    rw [List.flatMap_cons, encodeChar]
    split
    · exact ih
    · next hpercent =>
      split
      · exact ih
      · split
        · exact ih
        · split
          · exact ih
          · rw [List.singleton_append, onlyEscapes_cons hpercent, ih]

theorem onlyEscapes_encodeParam (f : String) : onlyEscapes (encodeParam f).toList = true := by
  rw [encodeParam, String.toList_ofList, onlyEscapes_flatMap]

/-! ### Requests read back -/

theorem mem_present {fields : List (String × Option (List Char))} {p : String × List Char} :
    p ∈ present fields ↔ (p.1, some p.2) ∈ fields := by
  rw [present, List.mem_filterMap]
  constructor
  · rintro ⟨⟨name, v?⟩, hmem, hsome⟩
    obtain ⟨v, rfl, rfl⟩ := Option.map_eq_some_iff.1 hsome
    exact hmem
  · intro h
    exact ⟨_, h, rfl⟩

theorem Options.fields_names (o : Options) : o.fields.map Prod.fst = parameterNames := rfl

namespace Options.Named
variable {o : Options}

theorem isOptionChar_orderBy (h : o.Named) :
    ∀ t ∈ o.orderBy.map sortText, ∀ c ∈ t.toList, OData.isOptionChar c = true := by
  intro t ht
  obtain ⟨s, hs, rfl⟩ := List.mem_map.1 ht
  rw [sortText, String.toList_append, String.toList_append]
  refine List.forall_mem_append.2 ⟨List.forall_mem_append.2 ⟨fun c hc => ?_, List.all_eq_true.1 rfl⟩, ?_⟩
  · rcases h.orderBy s hs c hc with hpart | rfl
    · exact isOptionChar_of_part hpart
    · decide
  · cases s.2 <;> exact List.all_eq_true.1 rfl

/-- Outside of the filter there are option characters only. -/
theorem values (h : o.Named) : ∀ p ∈ present o.fields, p.1 ∈ parameterNames ∧
    ((∀ c ∈ p.2, OData.isOptionChar c = true) ∨ p.1 = "$filter" ∧ ∃ f, p.2 = (encodeParam f).toList) := by
  intro p hp
  have hmem := mem_present.1 hp
  refine ⟨o.fields_names ▸ List.mem_map_of_mem hmem, ?_⟩
  have hlist {xs : List String} (hxs : ∀ x ∈ xs, ∀ c ∈ x.toList, OData.isOptionChar c = true) {v : List Char}
      (hv : some v = listValue xs) : ∀ c ∈ v, OData.isOptionChar c = true := by
    unfold listValue at hv
    split at hv
    · cases hv
    · obtain rfl := Option.some.inj hv
      exact isOptionChar_commaText hxs
  have hexpand : ∀ t ∈ renderAll o.expand, ∀ c ∈ t.toList, OData.isOptionChar c = true := by
    intro t ht
    rw [renderAll_eq_map] at ht
    obtain ⟨e, he, rfl⟩ := List.mem_map.1 ht
    exact (h.expand e he).isOptionChar
  simp only [fields, List.mem_cons, Prod.mk.injEq, List.not_mem_nil, or_false] at hmem
  rcases hmem with ⟨-, hv⟩ | ⟨-, hv⟩ | ⟨-, hv⟩ | ⟨hname, hv⟩ | ⟨-, hv⟩ | ⟨-, hv⟩ | ⟨-, hv⟩
  · rw [Option.some.inj hv]
    exact .inl (List.all_eq_true.1 rfl)
  · exact .inl (hlist (fun x hx => isOptionChar_of_identifier (h.select x hx)) hv)
  · exact .inl (hlist hexpand hv)
  · obtain ⟨f, -, hf⟩ := Option.map_eq_some_iff.1 hv.symm
    exact .inr ⟨hname, f, hf.symm⟩
  · exact .inl (hlist h.isOptionChar_orderBy hv)
  · rw [Option.some.inj hv]
    exact .inl (isOptionChar_toString _)
  · obtain ⟨n, -, hn⟩ := Option.map_eq_some_iff.1 hv.symm
    exact .inl (hn ▸ isOptionChar_toString n)

/-- The characters that separate parameters, end a query string or stand for a blank are not in a parameter. -/
theorem not_mem_parameterText (h : o.Named) {c : Char} (hc : c = '&' ∨ c = '#' ∨ c = '+') :
    ∀ p ∈ present o.fields, c ∉ parameterText p := by
  intro p hp hmem
  obtain ⟨hname, hvalue⟩ := h.values p hp
  have hnames : ∀ n ∈ parameterNames, '&' ∉ n.toList ∧ '#' ∉ n.toList ∧ '+' ∉ n.toList := by decide
  rcases List.mem_append.1 hmem with hn | hv
  · have := hnames _ hname
    rcases hc with rfl | rfl | rfl
    · exact this.1 hn
    · exact this.2.1 hn
    · exact this.2.2 hn
  rcases List.mem_cons.1 hv with rfl | hv
  · revert hc; decide
  rcases hvalue with hoption | ⟨-, f, hf⟩
  · have := hoption c hv
    rcases hc with rfl | rfl | rfl <;> exact absurd this (by decide)
  · have := mem_encodeParam (hf ▸ hv)
    rcases hc with rfl | rfl | rfl
    · exact this.1 rfl
    · exact this.2.1 rfl
    · exact this.2.2 rfl

theorem readParameters_render (h : o.Named) : readParameters o.render = some (present o.fields) := by
  have hnames : ∀ n ∈ parameterNames, '=' ∉ n.toList := by decide
  refine OData.readParameters_render (List.cons_ne_nil _ _) (fun p hp => hnames _ (h.values p hp).1) ?_ o.toList_render
  exact h.not_mem_parameterText (.inl rfl)

theorem not_mem_render (h : o.Named) {c : Char} (hc : c = '#' ∨ c = '+') : c ∉ o.render.toList := by
  rw [Options.toList_render, List.mem_cons, not_or]
  refine ⟨by rcases hc with rfl | rfl <;> decide, fun hmem => ?_⟩
  refine List.forall_mem_intercalate (P := (· ≠ c)) ?_ ?_ c hmem rfl
  · rcases hc with rfl | rfl <;> exact List.forall_mem_singleton.2 (by decide)
  · rintro text htext d hd rfl
    obtain ⟨p, hp, rfl⟩ := List.mem_map.1 htext
    exact h.not_mem_parameterText (.inr hc) p hp hd

theorem readNames_select (h : o.Named) : ((listValue o.select).map readNames).getD [] = o.select := by
  unfold listValue
  split
  · next hs => rw [hs]; rfl
  · next hs =>
    rw [Option.map_some, Option.getD_some, readNames_commaText hs]
    exact fun x hx => Text.isIdentifier_not_mem (h.select x hx) (by decide)

theorem readForest_expand (h : o.Named) :
    ((listValue (renderAll o.expand)).map readForest).getD (some []) = some o.expand := by
  have hall : renderAll o.expand = [] ↔ o.expand = [] := by rw [renderAll_eq_map, List.map_eq_nil_iff]
  unfold listValue
  split
  · next hs => rw [hall.1 hs]; rfl
  · next hs => exact readForest_forestText (mt hall.2 hs) h.expand

theorem readSort_orderBy (h : o.Named) :
    ((listValue (o.orderBy.map sortText)).map fun cs => (Text.splitAt ',' cs).mapM readSort).getD (some []) =
      some o.orderBy := by
  have hnot {s : String × Direction} (hs : s ∈ o.orderBy) {c : Char} (hpart : Text.isIdentifierPart c = false)
      (hslash : c ≠ '/') : c ∉ s.1.toList := Text.not_mem_of_pathParts (h.orderBy s hs) hpart hslash
  unfold listValue
  split
  · next hs => rw [List.map_eq_nil_iff.1 hs]; rfl
  · next hs =>
    have hcomma : ∀ p ∈ (o.orderBy.map sortText).map String.toList, ',' ∉ p := by
      intro p hp
      obtain ⟨t, ht, rfl⟩ := List.mem_map.1 hp
      obtain ⟨s, hs, rfl⟩ := List.mem_map.1 ht
      rw [sortText, String.toList_append, String.toList_append, List.mem_append, List.mem_append, not_or, not_or]
      exact ⟨⟨hnot hs (by decide) (by decide), by decide⟩, by cases s.2 <;> decide⟩
    rw [Option.map_some, Option.getD_some, commaText, Text.splitAt_intercalate (by simpa using hs) hcomma,
      List.map_map]
    exact mapM_readSort fun s hs => hnot hs (by decide) (by decide)

/-- Options are read back from the query string written for them. -/
theorem readOptions_render (h : o.Named) : readOptions o.render = some o := by
  have htake : takeValues parameterNames (present o.fields) = (o.fields.map Prod.snd, []) :=
    o.fields_names ▸ takeValues_present (o.fields_names ▸ (by decide))
  have hfilter : (o.filter.map fun f => (encodeParam f).toList).mapM Text.decodeSegment? = some o.filter := by
    cases o.filter with
    | none => rfl
    | some f => simp [Text.decodeSegment?_encodeParam]
  have hskip : (o.skip.map fun n => (toString n).toList).mapM readNumber = some o.skip := by
    cases o.skip with
    | none => rfl
    | some n => rw [Option.map_some, Option.mapM_some, readNumber_toString]; rfl
  rw [readOptions, h.readParameters_render, Option.bind_eq_bind, Option.bind_some, htake]
  simp only [fields, List.map_cons, List.map_nil, if_true, Option.bind_eq_bind, h.readNames_select,
    h.readForest_expand, hfilter, h.readSort_orderBy, readNumber_toString, hskip, Option.bind_some]

end Options.Named

end OData

open OData

/-! ### The options of a valid query -/

namespace Query
variable {q : Query}

theorem Valid.expandsBelow (h : q.Valid) (levels : Nat) (a : String) :
    ∀ e ∈ q.expandsBelow q.distinctFields levels a, e.Named := by
  induction levels generalizing a with
  | zero => exact List.forall_mem_nil _
  | succ levels ih =>
    intro e he
    obtain ⟨j, hj, hof⟩ := List.mem_filterMap.1 he
    unfold Expand.of? at hof
    split at hof
    · cases hof
    · obtain rfl := Option.some.inj hof
      exact .mk (h.joins j ((q.childrenOf_sublist a).subset hj)).navigation (h.isIdentifier_selectedNames _) (ih _)

theorem Valid.options (h : q.Valid) (page pageSize : Nat) (countOnly : Bool) :
    (q.options page pageSize countOnly).Named where
  select := h.isIdentifier_selectedNames _
  expand := h.expandsBelow _ _
  orderBy := by
    intro s hs
    obtain ⟨k, hk, rfl⟩ := List.mem_map.1 hs
    exact h.propertyPath_parts _ (h.sorts k hk)

/-- Which parameters a query string has: the options that ask for nothing are left out. -/
def requestNames (q : Query) (page : Nat) (countOnly : Bool) : List String :=
  ["$count"] ++ (if ∀ f ∈ q.distinctFields, f.entityAlias ≠ q.primaryAlias then [] else ["$select"])
    ++ (if q.expands = [] then [] else ["$expand"]) ++ (if q.filters = [] then [] else ["$filter"])
    ++ (if q.sorts = [] then [] else ["$orderby"]) ++ ["$top"] ++ (if countOnly ∨ page ≤ 1 then [] else ["$skip"])

theorem map_fst_present_cons (name : String) (v? : Option (List Char)) (fields : List (String × Option (List Char))) :
    (present ((name, v?) :: fields)).map Prod.fst =
      (if v? = none then [] else [name]) ++ (present fields).map Prod.fst := by
  cases v? <;> rfl

theorem listValue_eq_none {xs : List String} : listValue xs = none ↔ xs = [] := by
  unfold listValue
  split <;> simp_all

theorem Valid.map_fst_fields (h : q.Valid) (page pageSize : Nat) (countOnly : Bool) :
    (present (q.options page pageSize countOnly).fields).map Prod.fst = q.requestNames page countOnly := by
  have hfilter : (if q.filters.isEmpty = true then none else some q.filterExpression) = none ↔ q.filters = [] := by
    simp [List.isEmpty_iff]
  have hskip : (if (countOnly || decide (page ≤ 1)) = true then none else some ((page - 1) * pageSize)) = none ↔
      countOnly ∨ page ≤ 1 := by
    cases countOnly <;> simp
  have hexpand : renderAll q.expands = [] ↔ q.expands = [] := by rw [renderAll_eq_map, List.map_eq_nil_iff]
  simp only [Options.fields, Query.options, map_fst_present_cons, listValue_eq_none, hexpand,
    h.selectedNames_eq_nil, Option.map_eq_none_iff, List.map_eq_nil_iff, hfilter, hskip]
  simp [requestNames, present]

/-- The numbers of a page fit into 32 bits, so 64 bits hold the number of records to skip. -/
theorem toNat_skip {page pageSize : Nat} (hpage : page < UInt32.size) (hsize : pageSize < UInt32.size) :
    (UInt64.ofNat (page - 1) * UInt64.ofNat pageSize).toNat = (page - 1) * pageSize := by
  have hskip : page - 1 < UInt32.size := Nat.lt_of_le_of_lt (Nat.sub_le page 1) hpage
  have hproduct : (page - 1) * pageSize < UInt64.size :=
    Nat.lt_of_le_of_lt (Nat.mul_le_mul (Nat.le_of_lt_succ hskip) (Nat.le_of_lt_succ hsize)) (by decide)
  have hwide {n : Nat} (h : n < UInt32.size) : n < UInt64.size := Nat.lt_trans h (by decide)
  rw [UInt64.toNat_mul, UInt64.toNat_ofNat', UInt64.toNat_ofNat', Nat.mod_eq_of_lt (hwide hskip),
    Nat.mod_eq_of_lt (hwide hsize), Nat.mod_eq_of_lt hproduct]

/-- A valid query is read back from its query string, parameter by parameter, and nothing in the string ends it,
stands for a blank or is an escape that the filter does not need. -/
theorem readOptions_compile (q : Query) (page pageSize : Nat) (countOnly : Bool) (h : q.validate = .ok ()) :
    (∃ ps, readParameters (q.compile page pageSize countOnly) = some ps ∧
      ps.map Prod.fst = q.requestNames page countOnly ∧
      ∀ name value, (name, value) ∈ ps → '%' ∈ value → name = "$filter" ∧ onlyEscapes value = true) ∧
    readOptions (q.compile page pageSize countOnly) = some
      { select := (q.distinctFields.filter (·.entityAlias == q.primaryAlias)).map (·.fieldName)
        expand := q.expands
        filter := if q.filters = [] then none else some q.filterExpression
        orderBy := q.sorts.map fun s => (q.propertyPath s.entityAlias s.fieldName, s.direction.getD .asc)
        top := if countOnly then 0 else pageSize
        skip := if countOnly ∨ page ≤ 1 then none else some ((page - 1) * pageSize) } ∧
    (page < UInt32.size → pageSize < UInt32.size →
      (UInt64.ofNat (page - 1) * UInt64.ofNat pageSize).toNat = (page - 1) * pageSize) ∧
    '#' ∉ (q.compile page pageSize countOnly).toList ∧ '+' ∉ (q.compile page pageSize countOnly).toList := by
  have hq := validate_eq_ok_iff.1 h
  have hnamed := hq.options page pageSize countOnly
  refine ⟨⟨_, hnamed.readParameters_render, hq.map_fst_fields _ _ _, fun name value hmem hpercent => ?_⟩, ?_,
    toNat_skip, hnamed.not_mem_render (.inl rfl), hnamed.not_mem_render (.inr rfl)⟩
  · obtain ⟨-, hoption | ⟨hname, f, hf⟩⟩ := hnamed.values _ hmem
    · exact absurd (hoption '%' hpercent) (by decide)
    · obtain rfl : value = _ := hf
      exact ⟨hname, onlyEscapes_encodeParam f⟩
  · rw [compile, hnamed.readOptions_render, Query.options, hq.selectedNames]
    simp only [List.isEmpty_iff, Bool.or_eq_true, decide_eq_true_eq]

theorem readOptions_sample : sample.validate = .ok () ∧ readOptions (sample.compile 2 50 false) = some
    { select := ["name"]
      expand := [.mk "parentaccount" ["name"] [.mk "primarycontact" ["fullname"] []]]
      filter := some ("contains(parentaccount/primarycontact/fullname,'O''Neil, or') or and eq ''' or 1 eq 1 & x+y' "
        ++ "and parentaccount/tags ne [\"a ] b\",null] and revenue ge 5")
      orderBy := [("parentaccount/primarycontact/fullname", .desc), ("name", .asc)]
      top := 50
      skip := some 50 } :=
  ⟨rfl, (readOptions_compile sample 2 50 false rfl).2.1.trans rfl⟩

end Query

end QueryDesk
