import QueryDesk.OData.Predicate
import QueryDesk.Proofs.JsonText
import QueryDesk.Proofs.Percent
import QueryDesk.Proofs.Validity

/-!
# Filter expressions read back

`readFilters` reads a filter expression from left to right: a predicate is a path, a comparison and an
operand, or a function applied to a path and a quoted text, and predicates stand behind connectors. From
the expression of a valid query it recovers every filter as it was given. Where a predicate ends is settled
by its own text, whatever the names and values are.
-/

namespace QueryDesk

/-! ### What is written for a filter -/

/-- The name an operator is written by; an unknown one is an equality. -/
def Operator.verb : Operator → String
  | .isNull | .unrecognized => "eq"
  | .notNull => "ne"
  | op => op.name

def Operator.isCall : Operator → Bool
  | .contains | .startsWith | .endsWith => true
  | _ => false

theorem Operator.verb_parts (op : Operator) : ∀ c ∈ op.verb.toList, Text.isIdentifierPart c = true := by
  cases op <;> exact List.all_eq_true.1 rfl

namespace OData

/-- A filter as it stands in an expression. -/
structure Clause where
  connector : Option Connector
  path : List String
  verb : String
  operand : Operand
  deriving DecidableEq, Repr

/-! ### The reader -/

/-- The text before the first character that stops the reader, and the text from there on. -/
def readUntil (stop : Char → Bool) (cs : List Char) : List Char × List Char :=
  (cs.takeWhile (!stop ·), cs.dropWhile (!stop ·))

/-- The text up to the closing quote, with doubled quotes undone, and what follows the closing quote. -/
def readQuoted : List Char → Option (List Char × List Char)
  | '\'' :: '\'' :: rest => (readQuoted rest).map fun (t, r) => ('\'' :: t, r)
  | '\'' :: rest => some ([], rest)
  | c :: rest => (readQuoted rest).map fun (t, r) => (c :: t, r)
  | [] => none

/-- A quoted text, a JSON array or object, or a run without blanks. -/
def readOperand : List Char → Option (Operand × List Char)
  | [] => none
  | c :: rest =>
    if c = '\'' then (readQuoted rest).map fun (t, r) => (.quoted (String.ofList t), r)
    else if Json.isOpening c then
      (Json.readNested 0 .plain rest).map fun (t, r) => (.bare (String.ofList (c :: t)), r)
    else
      let (run, r) := readUntil (· == ' ') (c :: rest)
      some (.bare (String.ofList run), r)

def readPath (cs : List Char) : List String := (Text.splitAt '/' cs).map String.ofList

def readComparison (connector : Option Connector) (path cs : List Char) : Option (Clause × List Char) :=
  match readUntil (· == ' ') cs with
  | (verb, ' ' :: rest) => (readOperand rest).map fun (operand, r) =>
      (⟨connector, readPath path, String.ofList verb, operand⟩, r)
  | _ => none

def readCall (connector : Option Connector) (function cs : List Char) : Option (Clause × List Char) :=
  match readUntil (· == ',') cs with
  | (path, ',' :: '\'' :: rest) =>
    match readQuoted rest with
    | some (t, ')' :: r) => some (⟨connector, readPath path, String.ofList function, .quoted (String.ofList t)⟩, r)
    | _ => none
  | _ => none

def readClause (connector : Option Connector) (cs : List Char) : Option (Clause × List Char) :=
  match readUntil (fun c => c == ' ' || c == '(') cs with
  | (path, ' ' :: rest) => readComparison connector path rest
  | (function, '(' :: rest) => readCall connector function rest
  | _ => none

def connectorOf? (word : List Char) : Option Connector :=
  if word = "and".toList then some .and else if word = "or".toList then some .or else none

/-- The clauses up to the end of the text, of which there are at most as many as steps. -/
def readClauses (connector : Option Connector) (cs : List Char) : Nat → Option (List Clause)
  | 0 => none
  | steps + 1 =>
    match readClause connector cs with
    | some (clause, []) => some [clause]
    | some (clause, ' ' :: rest) =>
      match readUntil (· == ' ') rest with
      | (word, ' ' :: rest) => do
        let next ← connectorOf? word
        (readClauses (some next) rest steps).map (clause :: ·)
      | _ => none
    | _ => none

/-- The filters of an expression, of which there are at most as many as characters. -/
def readFilters (expression : String) : Option (List Clause) :=
  if expression = "" then some [] else readClauses none expression.toList expression.toList.length

/-! ### Words and quoted texts -/

theorem readUntil_append {stop : Char → Bool} {word rest : List Char} (hword : ∀ c ∈ word, stop c = false)
    (hrest : ∀ c ∈ rest.head?, stop c = true) : readUntil stop (word ++ rest) = (word, rest) := by
  have hall : ∀ c ∈ word, (!stop c) = true := fun c hc => by rw [hword c hc]; rfl
  rw [readUntil, List.takeWhile_append_of_pos hall, List.dropWhile_append_of_pos hall]
  cases rest with
  | nil => simp
  | cons c rest => simp [hrest c rfl]

theorem readUntil_of_not_mem {c : Char} {word : List Char} (h : c ∉ word) (rest : List Char) :
    readUntil (· == c) (word ++ c :: rest) = (word, c :: rest) := by
  refine readUntil_append (fun d hd => ?_) (by simp)
  rw [beq_eq_false_iff_ne]
  rintro rfl; exact h hd

/-- What may follow a predicate: nothing or a blank. -/
def Ends (rest : List Char) : Prop := ∀ c ∈ rest.head?, c = ' '

theorem readQuoted_doubleQuotes (cs : List Char) {rest : List Char} (h : ∀ c ∈ rest.head?, c ≠ '\'') :
    readQuoted (doubleQuotes cs ++ '\'' :: rest) = some (cs, rest) := by
  induction cs with
  | nil =>
    rw [doubleQuotes, List.flatMap_nil, List.nil_append]
    cases rest with
    | nil => rfl
    | cons c rest =>
      have hc : c ≠ '\'' := h c rfl
      rw [readQuoted]
      rintro r hr
      exact hc (List.cons.inj hr).1
  | cons c cs ih =>
    rw [doubleQuotes, List.flatMap_cons, ← doubleQuotes]
    by_cases hc : c = '\''
    · rw [if_pos hc, hc]
      simp only [List.cons_append, List.nil_append]
      rw [readQuoted, ih, Option.map_some]
    · rw [if_neg hc]
      simp only [List.cons_append, List.nil_append]
      rw [readQuoted, ih, Option.map_some]
      · rintro r rfl; exact absurd rfl hc
      · exact hc

theorem toList_quoteLiteral (s : String) : (quoteLiteral s).toList = '\'' :: (doubleQuotes s.toList ++ ['\'']) :=
  String.toList_ofList

/-! ### Operands -/

theorem readOperand_quoted (s : String) {rest : List Char} (h : Ends rest) :
    readOperand ((Operand.quoted s).render.toList ++ rest) = some (.quoted s, rest) := by
  have hne : ∀ c ∈ rest.head?, c ≠ '\'' := fun c hc => by rw [h c hc]; decide
  rw [Operand.render, toList_quoteLiteral, List.cons_append, List.append_assoc, List.singleton_append, readOperand,
    if_pos rfl, readQuoted_doubleQuotes _ hne, Option.map_some]
  simp only [String.ofList_toList]

theorem readOperand_nested {j : Json} (h : j.isNested = true) (rest : List Char) :
    readOperand ((Operand.bare j.compact).render.toList ++ rest) = some (.bare j.compact, rest) := by
  obtain ⟨o, inner, heq, ho, hread⟩ := Json.readNested_print j h
  have hquote : o ≠ '\'' := by rintro rfl; exact absurd ho (by decide)
  rw [Operand.render, Json.compact, String.toList_ofList, heq, List.cons_append, readOperand, if_neg hquote,
    if_pos ho, hread, Option.map_some]

theorem readOperand_literal {t : String} (hne : t.toList ≠ []) (hlit : ∀ c ∈ t.toList, isLiteralPart c = true)
    {rest : List Char} (h : Ends rest) :
    readOperand ((Operand.bare t).render.toList ++ rest) = some (.bare t, rest) := by
  have hrun : readUntil (· == ' ') (t.toList ++ rest) = (t.toList, rest) := by
    refine readUntil_append (fun c hc => ?_) fun c hc => beq_iff_eq.2 (h c hc)
    rw [beq_eq_false_iff_ne]
    rintro rfl; exact absurd (hlit _ hc) (by decide)
  rw [Operand.render]
  cases heq : t.toList with
  | nil => exact absurd heq hne
  | cons c cs =>
    rw [heq] at hrun hlit
    have hc := hlit c List.mem_cons_self
    have hquote : c ≠ '\'' := by rintro rfl; exact absurd hc (by decide)
    have hopen : Json.isOpening c = false := by
      rw [Json.isOpening, Bool.or_eq_false_iff, beq_eq_false_iff_ne, beq_eq_false_iff_ne]
      constructor <;> (rintro rfl; exact absurd hc (by decide))
    rw [List.cons_append, readOperand, if_neg hquote, hopen, if_neg Bool.false_ne_true, ← List.cons_append, hrun,
      ← heq]
    simp only [String.ofList_toList]

end OData

open OData

theorem isPlainLiteral_ne_nil {s : String} (h : isPlainLiteral s = true) : s.toList ≠ [] := by
  intro heq
  rw [isPlainLiteral, heq] at h
  cases h

theorem isPlainLiteral_parts {s : String} (h : isPlainLiteral s = true) : ∀ c ∈ s.toList, isLiteralPart c = true := by
  unfold isPlainLiteral at h
  split at h
  · cases h
  · next c rest heq =>
    obtain ⟨hc, hrest⟩ := Bool.and_eq_true_iff.1 h
    rw [heq]
    exact List.forall_mem_cons.2 ⟨by simp [isLiteralPart, hc], List.all_eq_true.1 hrest⟩

namespace Filter
variable {f : Filter}

/-- What is compared with: a string is quoted by an equality and bare in an order comparison, any other
value is its JSON text, and an unknown operator compares with the quoted text. -/
def operand (f : Filter) : Operand :=
  match f.operator with
  | .eq | .ne => equalityOperand f.value
  | .gt | .ge | .lt | .le => .bare (bareText f.value)
  | .isNull | .notNull => .bare "null"
  | .contains | .startsWith | .endsWith | .unrecognized => .quoted (quotedText f.value)

theorem predicate_of_call (h : f.operator.isCall = true) (path : String) :
    f.predicate path = .call f.operator.verb path (quotedText f.value) ∧
      f.operand = .quoted (quotedText f.value) := by
  unfold predicate operand
  cases hop : f.operator <;> simp_all [Operator.isCall, Operator.verb, Operator.name]

theorem predicate_of_not_call (h : f.operator.isCall = false) (path : String) :
    f.predicate path = .compare path f.operator.verb f.operand := by
  unfold predicate operand
  cases hop : f.operator <;> simp_all [Operator.isCall, Operator.verb, Operator.name]

theorem bareText_cases (v : Option Json) (h : ∀ s, v = some (.text s) → isPlainLiteral s = true) :
    ((bareText v).toList ≠ [] ∧ ∀ c ∈ (bareText v).toList, isLiteralPart c = true) ∨
      ∃ j : Json, j.isNested = true ∧ bareText v = j.compact := by
  cases v with
  | none => exact .inl ⟨by decide, List.all_eq_true.1 rfl⟩
  | some j =>
    cases j with
    | null => exact .inl ⟨by decide, List.all_eq_true.1 rfl⟩
    | bool b => cases b <;> exact .inl ⟨by decide, List.all_eq_true.1 rfl⟩
    | number n =>
      refine .inl ?_
      rw [bareText, Json.compact, String.toList_ofList, Json.print]
      · exact ⟨n.print_ne_nil, n.print_literal⟩
      all_goals simp
    | text s => exact .inl ⟨isPlainLiteral_ne_nil (h s rfl), isPlainLiteral_parts (h s rfl)⟩
    | array xs => exact .inr ⟨_, rfl, rfl⟩
    | object ms => exact .inr ⟨_, rfl, rfl⟩

theorem readOperand_bareText (v : Option Json) (hv : ∀ s, v = some (.text s) → isPlainLiteral s = true)
    {rest : List Char} (h : Ends rest) :
    readOperand ((Operand.bare (bareText v)).render.toList ++ rest) = some (.bare (bareText v), rest) := by
  rcases bareText_cases v hv with ⟨hne, hlit⟩ | ⟨j, hj, heq⟩
  · exact readOperand_literal hne hlit h
  · rw [heq]; exact readOperand_nested hj rest

theorem readOperand_equality (v : Option Json) {rest : List Char} (h : Ends rest) :
    readOperand ((equalityOperand v).render.toList ++ rest) = some (equalityOperand v, rest) := by
  unfold equalityOperand
  split
  · exact readOperand_quoted _ h
  · next hne => exact readOperand_bareText _ (fun s hs => absurd hs (hne s)) h

theorem Valid.readOperand (hf : f.Valid) {rest : List Char} (h : Ends rest) :
    OData.readOperand (f.operand.render.toList ++ rest) = some (f.operand, rest) := by
  have hlit := hf.literal
  unfold operand
  cases hop : f.operator with
  | eq | ne => exact readOperand_equality _ h
  | gt | ge | lt | le => exact readOperand_bareText _ (hlit (by rw [hop]; rfl)) h
  | isNull | notNull => exact readOperand_literal (by decide) (List.all_eq_true.1 rfl) h
  | contains | startsWith | endsWith | unrecognized => exact readOperand_quoted _ h

end Filter

/-! ### Clauses -/

namespace Query
variable {q : Query}

theorem Valid.readPath (h : q.Valid) (a : String) {f : String} (hf : Text.isIdentifier f = true) :
    OData.readPath (q.propertyPath a f).toList = q.segments a f := by
  rw [OData.readPath, toList_propertyPath, Text.splitAt_intercalate]
  · exact List.map_ofList_toList _
  · simp [segments_ne_nil]
  · intro p hp
    obtain ⟨s, hs, rfl⟩ := List.mem_map.1 hp
    exact Text.isIdentifier_not_mem (h.isIdentifier_segments a hf s hs) (by decide)

theorem Valid.not_mem_propertyPath (h : q.Valid) (a : String) {f : String} (hf : Text.isIdentifier f = true)
    {c : Char} (hc : Text.isIdentifierPart c = false) (hslash : c ≠ '/') : c ∉ (q.propertyPath a f).toList :=
  Text.not_mem_of_pathParts (h.propertyPath_parts a hf) hc hslash

def clause (q : Query) (connector : Option Connector) (f : Filter) : Clause where
  connector := connector
  path := q.segments f.entityAlias f.fieldName
  verb := f.operator.verb
  operand := f.operand

variable {f : Filter}

theorem Valid.readComparison (h : q.Valid) (hf : f.Valid) (k : Option Connector) {rest : List Char}
    (hrest : Ends rest) :
    OData.readComparison k (q.propertyPath f.entityAlias f.fieldName).toList
      (f.operator.verb.toList ++ ' ' :: (f.operand.render.toList ++ rest)) = some (q.clause k f, rest) := by
  have hverb : readUntil (· == ' ') (f.operator.verb.toList ++ ' ' :: (f.operand.render.toList ++ rest)) =
      (f.operator.verb.toList, ' ' :: (f.operand.render.toList ++ rest)) :=
    readUntil_of_not_mem (fun hmem => absurd (Operator.verb_parts _ _ hmem) (by decide)) _
  rw [OData.readComparison, hverb]
  simp only [hf.readOperand hrest, Option.map_some, h.readPath _ hf.fieldName, String.ofList_toList]
  rfl

theorem Valid.readCall (h : q.Valid) (hf : f.Valid) (k : Option Connector) (t : String) (hop : f.operand = .quoted t)
    (rest : List Char) :
    OData.readCall k f.operator.verb.toList ((q.propertyPath f.entityAlias f.fieldName).toList ++
      ',' :: ((quoteLiteral t).toList ++ ')' :: rest)) = some (q.clause k f, rest) := by
  have hpath : readUntil (· == ',') ((q.propertyPath f.entityAlias f.fieldName).toList ++
      ',' :: ((quoteLiteral t).toList ++ ')' :: rest)) =
      ((q.propertyPath f.entityAlias f.fieldName).toList, ',' :: ((quoteLiteral t).toList ++ ')' :: rest)) :=
    readUntil_of_not_mem (h.not_mem_propertyPath _ hf.fieldName (by decide) (by decide)) _
  have htext : readQuoted (doubleQuotes t.toList ++ '\'' :: ')' :: rest) = some (t.toList, ')' :: rest) :=
    readQuoted_doubleQuotes _ (by simp)
  rw [OData.readCall, hpath, toList_quoteLiteral]
  simp only [List.cons_append, List.append_assoc, List.nil_append, htext, h.readPath _ hf.fieldName,
    String.ofList_toList]
  rw [clause, hop]

/-- A predicate is read to its end, whatever a blank separates from it. -/
theorem Valid.readClause (h : q.Valid) (hf : f.Valid) (k : Option Connector) {rest : List Char} (hrest : Ends rest) :
    OData.readClause k ((q.predicateOf f).render.toList ++ rest) = some (q.clause k f, rest) := by
  have hstop {c : Char} (hc : Text.isIdentifierPart c = true ∨ c = '/') : (c == ' ' || c == '(') = false := by
    rw [Bool.or_eq_false_iff, beq_eq_false_iff_ne, beq_eq_false_iff_ne]
    constructor <;> (rintro rfl; exact absurd hc (by decide))
  cases hcall : f.operator.isCall with
  | true =>
    obtain ⟨hpred, hop⟩ := Filter.predicate_of_call hcall (q.propertyPath f.entityAlias f.fieldName)
    have hverb : readUntil (fun c => c == ' ' || c == '(') (f.operator.verb.toList ++
        '(' :: ((q.propertyPath f.entityAlias f.fieldName).toList ++
          ',' :: ((quoteLiteral (quotedText f.value)).toList ++ ')' :: rest))) = (f.operator.verb.toList, _) :=
      readUntil_append (fun c hc => hstop (.inl (Operator.verb_parts _ c hc))) (by simp)
    have htext : (q.predicateOf f).render.toList ++ rest = f.operator.verb.toList ++
        '(' :: ((q.propertyPath f.entityAlias f.fieldName).toList ++
          ',' :: ((quoteLiteral (quotedText f.value)).toList ++ ')' :: rest)) := by
      simp [predicateOf, hpred, Predicate.render]
    rw [htext, OData.readClause, hverb]
    exact h.readCall hf k _ hop rest
  | false =>
    have hpred := Filter.predicate_of_not_call hcall (q.propertyPath f.entityAlias f.fieldName)
    have hpath : readUntil (fun c => c == ' ' || c == '(') ((q.propertyPath f.entityAlias f.fieldName).toList ++
        ' ' :: (f.operator.verb.toList ++ ' ' :: (f.operand.render.toList ++ rest))) =
        ((q.propertyPath f.entityAlias f.fieldName).toList, _) :=
      readUntil_append (fun c hc => hstop (h.propertyPath_parts _ hf.fieldName c hc)) (by simp)
    have htext : (q.predicateOf f).render.toList ++ rest = (q.propertyPath f.entityAlias f.fieldName).toList ++
        ' ' :: (f.operator.verb.toList ++ ' ' :: (f.operand.render.toList ++ rest)) := by
      simp [predicateOf, hpred, Predicate.render]
    rw [htext, OData.readClause, hpath]
    exact h.readComparison hf k hrest

/-! ### Whole expressions -/

/-- The filters behind the first one, each after a blank. -/
def connectedText (q : Query) (fs : List Filter) : List Char := fs.flatMap fun f => ' ' :: (q.connected f).toList

theorem toList_filterExpression {fs : List Filter} (hq : q.filters = f :: fs) :
    q.filterExpression.toList = (q.predicateOf f).render.toList ++ q.connectedText fs := by
  rw [filterExpression, hq]
  simp only [String.toList_intercalate, List.map_cons, List.map_map, List.intercalate_cons_eq_flatMap,
    List.flatMap_map]
  rfl

theorem render_ne_nil (p : Predicate) : p.render.toList ≠ [] := by
  cases p <;> simp [Predicate.render]

theorem length_le_connectedText (fs : List Filter) : fs.length ≤ (q.connectedText fs).length := by
  induction fs with
  | nil => simp
  | cons g fs ih =>
    rw [connectedText, List.flatMap_cons, ← connectedText]
    simp only [List.length_cons, List.length_append]
    omega

theorem ends_connectedText (fs : List Filter) : Ends (q.connectedText fs) := by
  cases fs with
  | nil => rintro c ⟨⟩
  | cons g fs =>
    intro c hc
    rw [connectedText, List.flatMap_cons, List.cons_append, List.head?_cons] at hc
    exact (Option.some.inj hc).symm

def connector (f : Filter) : Connector := f.connector.getD .and

theorem readUntil_connector (k : Connector) (rest : List Char) :
    readUntil (· == ' ') (k.name.toList ++ ' ' :: rest) = (k.name.toList, ' ' :: rest) :=
  readUntil_of_not_mem (by cases k <;> decide) rest

theorem connectorOf?_name (k : Connector) : connectorOf? k.name.toList = some k := by
  cases k <;> decide

/-- One step reads one filter, and the text that follows starts with its connector. -/
theorem Valid.readClauses (h : q.Valid) {fs : List Filter} (hf : f.Valid) (hfs : ∀ g ∈ fs, g.Valid)
    (k : Option Connector) {steps : Nat} (hsteps : fs.length < steps) :
    OData.readClauses k ((q.predicateOf f).render.toList ++ q.connectedText fs) steps =
      some (q.clause k f :: fs.map fun g => q.clause (some (connector g)) g) := by
  induction fs generalizing f k steps with
  | nil =>
    obtain ⟨steps, rfl⟩ := Nat.exists_eq_add_one_of_ne_zero (Nat.ne_of_gt hsteps)
    rw [OData.readClauses, h.readClause hf k (ends_connectedText [])]
    rfl
  | cons g fs ih =>
    obtain ⟨steps, rfl⟩ := Nat.exists_eq_add_one_of_ne_zero (Nat.ne_of_gt (Nat.zero_lt_of_lt hsteps))
    have htail : q.connectedText (g :: fs) =
        ' ' :: ((connector g).name.toList ++ ' ' :: ((q.predicateOf g).render.toList ++ q.connectedText fs)) := by
      rw [connectedText, List.flatMap_cons, ← connectedText, connected]
      simp [connector]
    have hrest := ih (hfs g List.mem_cons_self) (fun x hx => hfs x (List.mem_cons_of_mem _ hx))
      (some (connector g)) (Nat.lt_of_succ_lt_succ hsteps)
    rw [OData.readClauses, h.readClause hf k (ends_connectedText (g :: fs)), htail]
    simp only [readUntil_connector, connectorOf?_name, Option.bind_eq_bind, Option.bind_some, hrest, Option.map_some,
      List.map_cons]

theorem List.mapIdx_const {α β : Type} (g : α → β) (xs : List α) : xs.mapIdx (fun _ x => g x) = xs.map g := by
  induction xs with
  | nil => rfl
  | cons x xs ih => rw [List.mapIdx_cons, ih, List.map_cons]

/-- The filters of a valid query are read back from its expression, each with its connector, path,
operator and operand. -/
theorem readFilters_filterExpression (q : Query) (h : q.validate = .ok ()) :
    readFilters q.filterExpression = some (q.filters.mapIdx fun i f =>
      { connector := if i = 0 then none else some (f.connector.getD .and)
        path := (q.joinPath f.entityAlias).map Join.navigation ++ [f.fieldName]
        verb := f.operator.verb
        operand := f.operand }) := by
  have hq := validate_eq_ok_iff.1 h
  cases hfs : q.filters with
  | nil => simp [readFilters, filterExpression, hfs]
  | cons f fs =>
    have hvalid := hq.filters
    rw [hfs, List.forall_mem_cons] at hvalid
    have htext := toList_filterExpression hfs
    have hne : q.filterExpression.toList ≠ [] := by
      rw [htext]
      exact List.append_ne_nil_of_left_ne_nil (render_ne_nil _) _
    have hsteps : fs.length < q.filterExpression.toList.length := by
      have hpos := List.length_pos_iff.2 (render_ne_nil (q.predicateOf f))
      have hle := length_le_connectedText (q := q) fs
      rw [htext, List.length_append]
      omega
    rw [readFilters, if_neg (mt String.toList_eq_nil_iff.2 hne)]
    generalize q.filterExpression.toList.length = steps at hsteps
    rw [htext, hq.readClauses hvalid.1 hvalid.2 none hsteps, List.mapIdx_cons]
    simp only [Nat.add_one_ne_zero, if_false, if_true]
    rw [List.mapIdx_const]
    rfl

theorem readFilters_sample : sample.validate = .ok () ∧ readFilters sample.filterExpression = some
    [⟨none, ["parentaccount", "primarycontact", "fullname"], "contains", .quoted "O'Neil, or"⟩,
      ⟨some .or, ["and"], "eq", .quoted "' or 1 eq 1 & x+y"⟩,
      ⟨some .and, ["parentaccount", "tags"], "ne", .bare "[\"a ] b\",null]"⟩,
      ⟨some .and, ["revenue"], "ge", .bare "5"⟩] :=
  ⟨rfl, (readFilters_filterExpression sample rfl).trans rfl⟩

end Query

end QueryDesk
