import QueryDesk.Grid
import QueryDesk.OData.Options
import QueryDesk.Proofs.GivenValues
import QueryDesk.Proofs.RecordText
import QueryDesk.Query.Validation
import QueryDesk.Saved.Store

/-!
# Stored queries are read back

A query that has been read from a text and is written out is read as that query again, unless one of its filter values
is not (`Query.ofText_toJson_iff`). Where no object of the text has a member that stands for a value, all of them are
(`Query.rereadable_of_unmarked`).
-/

namespace QueryDesk

/-! ### Values without doubles -/

namespace Json

def isDouble : Json → Bool
  | .number (.double _) => true
  | _ => false

/-- All numbers of the value are integers. -/
def Integral (v : Json) : Prop := ∀ y ∈ v.parts, y.isDouble = false

instance (v : Json) : Decidable v.Integral := inferInstanceAs (Decidable (∀ y ∈ v.parts, _))

theorem Canonical.isHeld {j : Json} (hj : j.Canonical) {i : Int} (hi : .number (.int i) ∈ j.parts) : IsHeld i := by
  induction hj with
  | null | bool | text => cases List.mem_singleton.1 hi
  | number held =>
    cases List.mem_singleton.1 hi
    exact held i rfl
  | array _ ih =>
    rcases mem_parts_array.1 hi with hself | ⟨x, hx, hi⟩
    · cases hself
    · exact ih x hx hi
  | object _ _ _ ih =>
    rcases mem_parts_object.1 hi with hself | ⟨m, hm, hi⟩
    · cases hself
    · exact ih m hm hi

theorem Canonical.whole {j : Json} (hj : j.Canonical) (hint : j.Integral) : j.Whole := by
  intro n hn
  cases n with
  | int i => exact ⟨i, rfl, hj.isHeld hn⟩
  | double x =>
    have hdouble : true = false := hint _ hn
    cases hdouble

theorem whole_text (s : String) : (text s).Whole := fun _ hn => by cases List.mem_singleton.1 hn

theorem whole_ofMembers {xs : List (String × Option Json)} (h : ∀ m ∈ xs, ∀ v ∈ m.2, v.Whole) :
    (ofMembers (presentMembers xs)).Whole := by
  refine whole_object.2 fun m hm => ?_
  obtain ⟨x, hx, hm⟩ := List.mem_filterMap.1 (Members.mem_of_mem_ofList hm)
  obtain ⟨v, hv, rfl⟩ := Option.map_eq_some_iff.1 hm
  exact h x hx v hv

end Json

theorem Query.forall_mem_filters {q : Query} {P : Filter → Prop} :
    (∀ f ∈ q.filters, P f) ↔ ∀ fs ∈ q.givenFilters, ∀ f ∈ fs, P f := by
  rw [filters]
  cases q.givenFilters with
  | none => simp
  | some fs => simp

/-! ### Written queries -/

section
open Json
variable {q : Query}

theorem Field.whole_toJson (f : Field) : f.toJson.Whole := whole_ofMembers (by simp [whole_text])

theorem Join.whole_toJson (j : Join) : j.toJson.Whole := whole_ofMembers (by simp [whole_text])

theorem SortKey.whole_toJson (s : SortKey) : s.toJson.Whole := whole_ofMembers (by simp [whole_text])

theorem Filter.whole_toJson {f : Filter} (h : ∀ v ∈ f.value, v.Whole) : f.toJson.Whole :=
  whole_ofMembers (by simpa [whole_text] using h)

theorem Query.whole_toJson (htop : ∀ i ∈ q.top, i < 2 ^ 32)
    (h : ∀ f ∈ q.filters, ∀ v ∈ f.value, v.Whole) : q.toJson.Whole := by
  have hfields : (array (q.fields.map Field.toJson)).Whole :=
    whole_array.2 (List.forall_mem_map.2 fun f _ => f.whole_toJson)
  have hjoins : ∀ js ∈ q.givenJoins, (array (js.map Join.toJson)).Whole := fun js _ =>
    whole_array.2 (List.forall_mem_map.2 fun j _ => j.whole_toJson)
  have hfilters : ∀ fs ∈ q.givenFilters, (array (fs.map Filter.toJson)).Whole := fun fs hfs =>
    whole_array.2 (List.forall_mem_map.2 fun f hf => Filter.whole_toJson (forall_mem_filters.1 h fs hfs f hf))
  have hsorts : ∀ ss ∈ q.givenSorts, (array (ss.map SortKey.toJson)).Whole := fun ss _ =>
    whole_array.2 (List.forall_mem_map.2 fun s _ => s.whole_toJson)
  have htop' : ∀ i ∈ q.top, (ofNat i).Whole := fun i hi =>
    whole_number.2 ⟨i, rfl, by omega, by have := htop i hi; omega⟩
  simp only [Option.mem_def] at hjoins hfilters hsorts htop'
  exact whole_ofMembers (by simpa [whole_text, hfields] using ⟨hjoins, hfilters, hsorts, htop'⟩)

open Json.Record Json.Decoder
variable {n : Nat}

theorem Operator.readsBack (op : Operator) : Operator.decoder.ReadsBack n (.text op.name) op True := by
  intro s d hd
  rw [Operator.decoder, variant_readsBack op.name op hd]
  cases op <;> exact iff_of_true rfl trivial

theorem Connector.readsBack (c : Connector) : Connector.decoder.ReadsBack n (.text c.name) c True := by
  intro s d hd
  rw [Connector.decoder, oneOf, variant_readsBack c.name c hd]
  cases c <;> exact iff_of_true rfl trivial

theorem Direction.readsBack (d : Direction) : Direction.decoder.ReadsBack n (.text d.name) d True := by
  intro s doc hd
  rw [Direction.decoder, oneOf, variant_readsBack d.name d hd]
  cases d <;> exact iff_of_true rfl trivial

theorem Field.readsBack (f : Field) : Field.decoder.ReadsBack (n + 1) f.toJson f True := by
  refine record_readsBack (by simp) fun fields hfields => ?_
  refine (((((builds_pure hfields.spells _).field (by decide)).field (by decide)).optional (by decide)).optional
    (by decide) |>.yields_iff f).trans ?_
  obtain ⟨entityAlias, fieldName, displayName, aggregation⟩ := f
  simp [yields_text hfields, yields_optional_text hfields]

theorem Join.readsBack (j : Join) : Join.decoder.ReadsBack (n + 1) j.toJson j True := by
  refine record_readsBack (by simp) fun fields hfields => ?_
  refine ((((((((builds_pure hfields.spells _).field (by decide)).field (by decide)).field (by decide)).field
    (by decide)).field (by decide)).optional (by decide)).optional (by decide) |>.yields_iff j).trans ?_
  obtain ⟨fromEntityAlias, fromField, toEntity, toEntityAlias, toField, joinType, navigationProperty⟩ := j
  simp [yields_text hfields, yields_optional_text hfields]

theorem SortKey.readsBack (s : SortKey) : SortKey.decoder.ReadsBack (n + 1) s.toJson s True := by
  refine record_readsBack (by simp) fun fields hfields => ?_
  refine ((((builds_pure hfields.spells _).field (by decide)).field (by decide)).optional (by decide)
    |>.yields_iff s).trans ?_
  have hdirection : (optional "direction" Direction.decoder).Yields (.text (n + 1)) fields s.direction ↔ _ :=
    yields_optional hfields (by simp) fun d _ => Direction.readsBack d
  obtain ⟨entityAlias, fieldName, direction⟩ := s
  simp [yields_text hfields, hdirection]

theorem Filter.readsBack {f : Filter} (hf : ∀ v ∈ f.value, v.Canonical) :
    Filter.decoder.ReadsBack (n + 1) f.toJson f (∀ v ∈ f.value, v ≠ .null ∧ v.Fits n) := by
  refine record_readsBack (by simp) fun fields hfields => ?_
  refine ((((((builds_pure hfields.spells _).field (by decide)).field (by decide)).field (by decide)).optional
    (by decide)).optional (by decide) |>.yields_iff f).trans ?_
  have hoperator : (field "operator" Operator.decoder).Yields (.text (n + 1)) fields f.operator ↔ _ :=
    yields_field hfields (by simp) (Operator.readsBack _)
  have hvalue : (optional "value" json).Yields (.text (n + 1)) fields f.value ↔ _ :=
    yields_optional_json hfields (by simp) hf
  have hconnector : (optional "logicalOperator" Connector.decoder).Yields (.text (n + 1)) fields f.connector ↔ _ :=
    yields_optional hfields (by simp) fun c _ => Connector.readsBack c
  obtain ⟨entityAlias, fieldName, operator, value, connector⟩ := f
  simp [yields_text hfields, hoperator, hvalue, hconnector]

theorem Query.readsBack (hq : ∀ f ∈ q.filters, ∀ v ∈ f.value, v.Canonical) :
    Query.decoder.ReadsBack (n + 3) q.toJson q
      ((∀ n ∈ q.top, n < 2 ^ 32) ∧ ∀ f ∈ q.filters, ∀ v ∈ f.value, v ≠ .null ∧ v.Fits n) := by
  refine record_readsBack (by simp) fun fields hfields => ?_
  refine (((((((((builds_pure hfields.spells _).field (by decide)).field (by decide)).optional (by decide)).field
    (by decide)).optional (by decide)).optional (by decide)).optional (by decide)).optional (by decide)
    |>.yields_iff q).trans ?_
  have hselected : (field "fields" (.list Field.decoder)).Yields (.text (n + 3)) fields q.fields ↔ _ :=
    yields_field hfields (by simp) (list_readsBack fun f _ => Field.readsBack f)
  have hjoins : (optional "joins" (.list Join.decoder)).Yields (.text (n + 3)) fields q.givenJoins ↔ _ :=
    yields_optional hfields (by simp) fun js _ => list_readsBack fun j _ => Join.readsBack j
  have hfilters : (optional "filters" (.list Filter.decoder)).Yields (.text (n + 3)) fields q.givenFilters ↔ _ :=
    yields_optional hfields (by simp) fun fs hfs => list_readsBack fun f hf =>
      Filter.readsBack (forall_mem_filters.1 hq fs hfs f hf)
  have hsorts : (optional "orderBy" (.list SortKey.decoder)).Yields (.text (n + 3)) fields q.givenSorts ↔ _ :=
    yields_optional hfields (by simp) fun ss _ => list_readsBack fun s _ => SortKey.readsBack s
  have htop : (optional "top" nat32).Yields (.text (n + 3)) fields q.top ↔ _ :=
    yields_optional hfields (by simp) fun i _ => nat32_readsBack i
  obtain ⟨environmentId, primaryEntity, primaryEntityAlias, selected, joins, filters, sorts, top⟩ := q
  simp [yields_text hfields, yields_optional_text hfields, hselected, hjoins, hfilters, hsorts, htop,
    forall_mem_filters, ofNat, and_comm]

/-! ### Read queries -/

variable {S : Document → Prop}

theorem Filter.gives_decoder : Filter.decoder.Gives S (n + 1) fun f => ∀ v ∈ f.value, ReadFrom S n v := by
  refine (((((gives_pure ?_).seq (gives_field _ (gives_any _))).seq (gives_field _ (gives_any _))).seq
    (gives_field _ (gives_any _))).seq (gives_optional _ gives_nullable_json nofun)).seq
    (gives_optional _ (gives_any _) trivial) |>.decoder _
  exact fun _ _ _ _ _ _ _ hvalue _ _ => hvalue

theorem Query.gives_decoder : Query.decoder.Gives S (n + 3) fun q =>
    (∀ i ∈ q.top, i < 2 ^ 32) ∧ ∀ fs ∈ q.givenFilters, ∀ f ∈ fs, ∀ v ∈ f.value, ReadFrom S n v := by
  refine ((((((((gives_pure ?_).seq (gives_field _ (gives_any _))).seq (gives_field _ (gives_any _))).seq
    (gives_optional _ (gives_any _) trivial)).seq (gives_field _ (gives_any _))).seq
    (gives_optional _ (gives_any _) trivial)).seq
    (gives_optional _ Filter.gives_decoder.list.nullable nofun)).seq (gives_optional _ (gives_any _) trivial)).seq
    (gives_optional _ gives_nat32.nullable nofun) |>.decoder _
  exact fun _ _ _ _ _ _ _ _ _ _ fs hfs _ _ top htop => ⟨htop, hfs⟩

end

/-! ### Reading again -/

namespace Json

/-- Decodes the characters of a whole text. -/
def decodeChars {α : Type} (f : Decoder α) (cs : List Char) : Except Error α := do
  let (d, trailing) := Document.ofText cs
  let a ← f .ofText (.whole cs) d
  match trailing with
  | some g => .error (.fault g)
  | none => return a

/-- What is written can be decoded without making a string of it. -/
theorem decodeText_compact {α : Type} (f : Decoder α) (j : Json) : decodeText f j.compact = decodeChars f j.print := by
  have hchars : decodeText f j.compact = decodeChars f j.compact.toList := rfl
  rw [hchars, compact, String.toList_ofList]

end Json

namespace Query
open Json

/-- A filter value of the query is written as something else than null, nested at most 124 levels deep, and has no
object that would stand for another value. -/
def Rereadable (q : Query) : Prop := ∀ f ∈ q.filters, ∀ v ∈ f.value, v ≠ .null ∧ v.Fits 124

theorem ofText_toJson_iff {q : Query} (htop : ∀ i ∈ q.top, i < 2 ^ 32)
    (h : ∀ f ∈ q.filters, ∀ v ∈ f.value, v.Canonical ∧ v.Integral) :
    ofText q.toJson.compact = .ok q ↔ q.Rereadable := by
  have hwhole : q.toJson.Whole := whole_toJson htop fun f hf v hv => (h f hf v hv).1.whole (h f hf v hv).2
  obtain ⟨d, hread, hspell⟩ := ofText_print hwhole
  -- of the 128 levels the query, its filters and the filter take three, and the last one lets nothing in
  have hdecode := readsBack (n := 124) (fun f hf v hv => (h f hf v hv).1) hspell (s := .whole q.toJson.print)
  rw [and_iff_right htop] at hdecode
  rw [Rereadable, ← hdecode, ofText, decodeText_compact, decodeChars, hread]
  show (decoder (.text 128) _ d >>= .ok) = .ok q ↔ _
  cases decoder (.text 128) (.whole q.toJson.print) d <;> rfl

/-- What is read from a text: the row cap has 32 bits, and each filter value is that of a part of the document. -/
theorem gives_ofText {text : String} {q : Query} (h : ofText text = .ok q) {S : Document → Prop}
    (hS : ∀ x ∈ (Document.ofText text.toList).1.parts, S x) :
    (∀ i ∈ q.top, i < 2 ^ 32) ∧ ∀ f ∈ q.filters, ∀ v ∈ f.value, ReadFrom S 125 v := by
  rw [forall_mem_filters]
  rw [ofText, decodeText] at h
  generalize Document.ofText text.toList = read at h hS
  obtain ⟨d, trailing⟩ := read
  obtain ⟨r, hr, h⟩ := Except.exists_of_bind_eq_ok h
  cases trailing with
  | some g => cases h
  | none =>
    cases h
    exact gives_decoder (n := 125) hS hr

theorem rereadable_of_unmarked {text : String} {q : Query} (h : ofText text = .ok q)
    (htext : ∀ d ∈ (Document.ofText text.toList).1.parts, d.Unmarked) : q.Rereadable := by
  intro f hf v hv
  obtain ⟨d, hd, hnull, hread⟩ := (gives_ofText h htext).2 f hf v hv
  refine ⟨?_, Document.fits_of_toJsonWith hd hread⟩
  rintro rfl
  exact hnull (Document.eq_null_of_toJsonWith hd hread)

end Query

namespace SavedQuery
open Json

theorem parseDefinition_eq_ok_iff {text : String} {q : Query} :
    parseDefinition text = .ok q ↔ Query.ofText text = .ok q := by
  rw [parseDefinition]
  cases Query.ofText text with
  | error e => exact iff_of_false nofun nofun
  | ok r => exact ⟨fun h => congrArg _ (Except.ok.inj h), fun h => congrArg _ (Except.ok.inj h)⟩

/-- A definition that is accepted and has no doubles in its filter values is written out as a text that reads as itself
exactly if these values can be read again, and they can where no object of the definition has a member that stands for a
value. Then nothing that is made of the query changes. -/
theorem definition_reads_back {text : String} {q : Query} (h : parseDefinition text = .ok q)
    (hint : ∀ f ∈ q.filters, ∀ v ∈ f.value, v.Integral) :
    ((∀ d ∈ (Document.ofText text.toList).1.parts, d.Unmarked) → q.Rereadable) ∧
      (parseDefinition q.toJson.compact = .ok q ↔ q.Rereadable) ∧
      ∀ r, q.Rereadable → parseDefinition q.toJson.compact = .ok r →
        r.toJson.compact = q.toJson.compact ∧ r.validate = q.validate ∧
          (∀ page pageSize countOnly, r.compile page pageSize countOnly = q.compile page pageSize countOnly) ∧
          r.columns = q.columns ∧ ∀ records, r.rows records = q.rows records := by
  have hread := parseDefinition_eq_ok_iff.1 h
  have hback : parseDefinition q.toJson.compact = .ok q ↔ q.Rereadable := by
    obtain ⟨htop, hvalues⟩ := Query.gives_ofText hread (held_ofText text.toList)
    refine parseDefinition_eq_ok_iff.trans (Query.ofText_toJson_iff htop fun f hf v hv => ⟨?_, hint f hf v hv⟩)
    obtain ⟨d, hd, -, hv⟩ := hvalues f hf v hv
    exact canonical_of_toJson hd hv
  refine ⟨Query.rereadable_of_unmarked hread, hback, fun r hq hr => ?_⟩
  obtain rfl : q = r := Except.ok.inj ((hback.2 hq).symm.trans hr)
  exact ⟨rfl, rfl, fun _ _ _ => rfl, rfl, fun _ => rfl⟩

theorem exists_ok_of_check {ε α : Type} {P : α → Prop} [DecidablePred P] {x : Except ε α}
    (h : x.toOption.any (P ·) = true) : ∃ a, x = .ok a ∧ P a := by
  cases x with
  | error e => cases h
  | ok a => exact ⟨a, rfl, of_decide_eq_true h⟩

/-- A query with one filter, which is on the value. -/
def filtered (v : Json) : Query where
  environmentId := "dev"
  primaryEntity := "account"
  primaryEntityAlias := none
  fields := []
  givenJoins := none
  givenFilters := some [⟨"main", "name", .eq, some v, none⟩]
  givenSorts := none
  top := some 5

theorem parseDefinition_compact (j : Json) :
    parseDefinition j.compact = (decodeChars Query.decoder j.print).mapError .json := by
  rw [parseDefinition, Query.ofText, decodeText_compact]

/-- A value with its names out of order, a line break and a character beyond the first plane. -/
def plainValue : Json := .object [("b", .array [.ofNat 1, .null]), ("a", .text "\n😀")]

/-- A value of two members, of which the second has the name that stands for values. -/
def markedValue : Json := .object [("A", .ofNat 1), (embeddedName, .text "5")]

theorem definition_reads_back_sample : ∃ q, parseDefinition (filtered plainValue).toJson.compact = .ok q ∧
    (∀ f ∈ q.filters, ∀ v ∈ f.value, v.Integral) ∧ q.toJson.print ≠ (filtered plainValue).toJson.print ∧
    parseDefinition q.toJson.compact = .ok q := by
  have hread : ∃ q, parseDefinition (filtered plainValue).toJson.compact = .ok q ∧
      (∀ f ∈ q.filters, ∀ v ∈ f.value, v.Integral) ∧ q.toJson.print ≠ (filtered plainValue).toJson.print := by
    rw [parseDefinition_compact]
    exact exists_ok_of_check (by decide +kernel)
  have hunmarked : ∀ d ∈ (Document.ofText (filtered plainValue).toJson.compact.toList).1.parts, d.Unmarked := by
    rw [compact, String.toList_ofList]
    decide +kernel
  obtain ⟨q, hq, hint, hne⟩ := hread
  obtain ⟨hrereadable, hback, -⟩ := definition_reads_back hq hint
  exact ⟨q, hq, hint, hne, hback.2 (hrereadable hunmarked)⟩

/-- Of two members the one whose name stands for values is written first, so the object that was read from them is
refused. -/
theorem written_definition_refused : ¬∀ (text : String) (q : Query), parseDefinition text = .ok q →
    (∀ f ∈ q.filters, ∀ v ∈ f.value, v.Integral) → ∃ r, parseDefinition q.toJson.compact = .ok r := by
  intro h
  have hread : ∃ q, parseDefinition (filtered markedValue).toJson.compact = .ok q ∧
      (∀ f ∈ q.filters, ∀ v ∈ f.value, v.Integral) ∧
      (decodeChars Query.decoder q.toJson.print).toOption.isNone = true := by
    rw [parseDefinition_compact]
    exact exists_ok_of_check (by decide +kernel)
  obtain ⟨q, hq, hint, hrefused⟩ := hread
  obtain ⟨r, hr⟩ := h _ q hq hint
  rw [parseDefinition_compact] at hr
  cases hdecode : decodeChars Query.decoder q.toJson.print with
  | error e => rw [hdecode] at hr; cases hr
  | ok r => rw [hdecode] at hrefused; cases hrefused

end SavedQuery

end QueryDesk
