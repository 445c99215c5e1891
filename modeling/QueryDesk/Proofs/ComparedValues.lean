import QueryDesk.Proofs.FilterText

/-!
# Values compared by order

What a filter compares by order is written without quotes. Validation looks at it only where it is a string, and then
it passes a string that is a run of literal characters with a letter or a digit in front. The text of any other value
but an array or an object is such a run anyway, apart from the sign of a negative number. Arrays and objects pass as
well, although they are written with brackets.
-/

namespace QueryDesk

variable {s : String}

/-! ### Literal texts -/

/-- A run of letters, digits and `-:.+` that is not empty. -/
def IsLiteral (s : String) : Prop := s.toList ≠ [] ∧ ∀ c ∈ s.toList, isLiteralPart c = true

instance (s : String) : Decidable (IsLiteral s) :=
  decidable_of_iff (s.toList ≠ [] ∧ s.toList.all isLiteralPart = true) (and_congr_right fun _ => List.all_eq_true)

/-- The text does not start with one of `-:.+`. -/
def StartsPlainly (s : String) : Prop := ∀ c ∈ s.toList.head?, isLiteralStart c = true

theorem isLiteral_of_isPlainLiteral (h : isPlainLiteral s = true) : IsLiteral s :=
  ⟨isPlainLiteral_ne_nil h, isPlainLiteral_parts h⟩

theorem isPlainLiteral_of_isLiteral (h : IsLiteral s) (hs : StartsPlainly s) : isPlainLiteral s = true := by
  obtain ⟨hne, hparts⟩ := h
  unfold isPlainLiteral
  cases hcs : s.toList with
  | nil => exact absurd hcs hne
  | cons c rest =>
    rw [hcs] at hparts
    have hstart : isLiteralStart c = true := hs c (by simp [hcs])
    have hrest : ∀ d ∈ rest, isLiteralPart d = true := fun d hd => hparts d (by simp [hd])
    simp [hstart, List.all_eq_true.2 hrest]

/-! ### Numbers -/

def Number.isNegative : Number → Bool
  | .int i => i < 0
  | .double x => x.negative

namespace Decimal

theorem isLiteralStart_of_mem_digits {n : Nat} {c : Char} (h : c ∈ digits n) : isLiteralStart c = true :=
  isLiteralStart_of_isDigit (isDigit_of_mem_digits h)

namespace Layout
variable (l : Layout) {ds : List Char} {c : Char}

/-- Whatever the place of the point, a zero or the first digit comes first. -/
theorem head?_place (hne : ds ≠ []) (point : Int) (h : c ∈ (l.place ds point).head?) : c = '0' ∨ c ∈ ds := by
  obtain ⟨d, ds, rfl⟩ := List.exists_cons_of_ne_nil hne
  unfold place at h
  split at h
  · left
    simpa using h.symm
  · next hpoint =>
    obtain ⟨n, hn⟩ : ∃ n, point.toNat = n + 1 := ⟨point.toNat - 1, by omega⟩
    right
    split at h
    · simp [hn] at h
      simp [h]
    · simp at h
      simp [h]

theorem head?_scientific (hne : ds ≠ []) (exponent : Int) (h : c ∈ (l.scientific ds exponent).head?) : c ∈ ds := by
  obtain ⟨d, ds, rfl⟩ := List.exists_cons_of_ne_nil hne
  simp [scientific] at h
  simp [h]

theorem isLiteralStart_head?_write {x : Double} (hx : x.negative = false) (h : c ∈ (l.write x).head?) :
    isLiteralStart c = true := by
  unfold write at h
  simp only [hx, Bool.false_eq_true, if_false] at h
  split at h
  · rcases l.head?_place (digits_ne_nil _) _ h with rfl | hc
    · rfl
    · exact isLiteralStart_of_mem_digits hc
  · exact isLiteralStart_of_mem_digits (l.head?_scientific (digits_ne_nil _) _ h)

end Layout

end Decimal

theorem Number.isLiteralStart_head?_print {n : Number} (hn : n.isNegative = false) {c : Char} (h : c ∈ n.print.head?) :
    isLiteralStart c = true := by
  cases n with
  | int i =>
    have hi : ¬i < 0 := by simpa [isNegative] using hn
    rw [print, Decimal.integer, if_neg hi] at h
    exact Decimal.isLiteralStart_of_mem_digits (List.mem_of_mem_head? h)
  | double x => exact layout.isLiteralStart_head?_write hn h

theorem Number.isPlainLiteral_compact {n : Number} (hn : n.isNegative = false) :
    isPlainLiteral (Json.number n).compact = true := by
  have htext : (Json.number n).compact.toList = n.print := by
    rw [Json.compact, String.toList_ofList]
    simp [Json.print]
  refine isPlainLiteral_of_isLiteral ⟨?_, ?_⟩ fun c hc => ?_
  · rw [htext]
    exact n.print_ne_nil
  · rw [htext]
    exact n.print_literal
  · rw [htext] at hc
    exact isLiteralStart_head?_print hn hc

open OData

/-! ### Operands -/

theorem bareText_of_not_text {j : Json} (h : j.text? = none) : bareText (some j) = j.compact := by
  cases j <;> first | rfl | cases h

theorem isLiteral_compact {j : Json} (hn : j.isNested = false) (ht : j.text? = none) : IsLiteral j.compact := by
  rw [IsLiteral, Json.compact, String.toList_ofList]
  refine ⟨?_, j.print_literal hn ht⟩
  cases j with
  | null => decide
  | bool b => cases b <;> decide
  | number n => exact n.print_ne_nil
  | text s => cases ht
  | array | object => cases hn

theorem not_isLiteral_compact {j : Json} (hn : j.isNested = true) : ¬IsLiteral j.compact := by
  rintro ⟨-, hparts⟩
  -- the text starts with a bracket
  obtain ⟨o, inner, hprint, ho, -⟩ := Json.readNested_print j hn
  have hbracket : isLiteralPart o = true := hparts o (by rw [Json.compact, String.toList_ofList, hprint]; simp)
  rcases Bool.or_eq_true_iff.1 ho with ho | ho
  all_goals
    rw [beq_iff_eq.1 ho] at hbracket
    cases hbracket

/-- What is written for a value other than a string is a literal text unless it is an array or an object. -/
theorem isLiteral_bareText_iff {v : Option Json} (hv : v.bind Json.text? = none) :
    IsLiteral (bareText v) ↔ ∀ j ∈ v, j.isNested = false := by
  cases v with
  | none => exact iff_of_true (by decide) (by simp)
  | some j =>
    have ht : j.text? = none := hv
    rw [bareText_of_not_text ht]
    cases hn : j.isNested with
    | true => exact iff_of_false (not_isLiteral_compact hn) (by simp [hn])
    | false => exact iff_of_true (isLiteral_compact hn ht) (by simp [hn])

/-! ### One filter among the others -/

theorem checkAll_eq_check {α : Type} {check : α → Except Violation Unit} {xs : List α} {k : Nat} {x : α}
    (hk : xs[k]? = some x) (hrest : ∀ i y, xs[i]? = some y → i ≠ k → check y = .ok ()) :
    checkAll check xs = check x := by
  induction xs generalizing k with
  | nil => simp at hk
  | cons y ys ih =>
    rw [checkAll]
    cases k with
    | zero =>
      obtain rfl : y = x := by simpa using hk
      have hys : checkAll check ys = .ok () := by
        refine checkAll_eq_ok_iff.2 fun z hz => ?_
        obtain ⟨i, hi⟩ := List.getElem?_of_mem hz
        exact hrest (i + 1) z (by simpa using hi) (by omega)
      rw [hys]
      cases check y <;> rfl
    | succ k =>
      have hy : check y = .ok () := hrest 0 y rfl (by omega)
      have hys := ih (k := k) (by simpa using hk) fun i z hz hne => hrest (i + 1) z (by simpa using hz) (by omega)
      rw [hy, ← hys]
      rfl

namespace Query

variable {q : Query} {k : Nat} {f : Filter}

/-- The query with another value in the filter at a place, or with none. -/
def withValue (q : Query) (k : Nat) (v : Option Json) : Query :=
  { q with givenFilters := some (q.filters.modify k fun f => { f with value := v }) }

theorem getElem?_filters_withValue (v : Option Json) (i : Nat) : (q.withValue k v).filters[i]? =
    q.filters[i]?.map fun f => if k = i then { f with value := v } else f := by
  show (q.filters.modify k fun f => { f with value := v })[i]? = _
  rw [List.getElem?_modify]
  rfl

/-- Once all else is in order, a query stands and falls with the one filter. -/
theorem validate_eq_check (hk : q.filters[k]? = some f) (hrest : (q.withValue k none).validate = .ok ()) :
    q.validate = f.check := by
  have h := validate_eq_ok_iff.1 hrest
  have hblank : Text.isBlankText q.primaryEntity = false := Text.isIdentifier_not_blank h.primaryEntity
  have hne : q.fields.isEmpty = false := List.isEmpty_eq_false_iff.2 h.fields_ne
  have hentity : checkName .entity q.primaryEntity = .ok () := checkName_eq_ok_iff.2 h.primaryEntity
  have hjoins : q.checkJoins [] q.joins = .ok () :=
    checkJoins_eq_ok_iff.2 ⟨h.joins, h.alias_ne, by simp, h.aliases⟩
  have hfields : checkAll (fun f => checkName .field f.fieldName) q.fields = .ok () :=
    checkAll_eq_ok_iff.2 fun f hf => checkName_eq_ok_iff.2 (h.fields f hf)
  have hsorts : checkAll (fun s => checkName .sortField s.fieldName) q.sorts = .ok () :=
    checkAll_eq_ok_iff.2 fun s hs => checkName_eq_ok_iff.2 (h.sorts s hs)
  have hfilters : checkAll Filter.check q.filters = f.check := by
    -- the other filters are the same with and without the value
    refine checkAll_eq_check hk fun i g hg hne => Filter.check_eq_ok_iff.2 (h.filters g ?_)
    have hget : (q.withValue k none).filters[i]? = some g := by
      rw [getElem?_filters_withValue, hg, Option.map_some, if_neg (Ne.symm hne)]
    exact List.mem_of_getElem? hget
  unfold validate
  rw [hblank, hne, hentity, hjoins, hfields, hfilters, hsorts]
  show (do f.check; .ok ()) = f.check
  cases f.check <;> rfl

theorem isIdentifier_fieldName (hk : q.filters[k]? = some f) (hrest : (q.withValue k none).validate = .ok ()) :
    Text.isIdentifier f.fieldName = true := by
  have hget : (q.withValue k none).filters[k]? = some { f with value := none } := by
    rw [getElem?_filters_withValue, hk, Option.map_some, if_pos rfl]
  exact ((validate_eq_ok_iff.1 hrest).filters _ (List.mem_of_getElem? hget)).fieldName

theorem predicate_of_comparison (hop : f.operator.isComparison = true) (path : String) :
    f.predicate path = .compare path f.operator.name (.bare (bareText f.value)) := by
  unfold Filter.predicate
  cases hf : f.operator <;> simp_all [Operator.isComparison, Operator.name]

theorem check_of_text (hname : Text.isIdentifier f.fieldName = true) (hop : f.operator.isComparison = true) {s : String}
    (hv : f.value = some (.text s)) : f.check = ensure (isPlainLiteral s) (.notPlainLiteral f.fieldName s) := by
  unfold Filter.check
  rw [checkName_eq_ok_iff.2 hname, hv, hop]
  rfl

theorem check_of_not_text (hname : Text.isIdentifier f.fieldName = true) (hv : f.value.bind Json.text? = none) :
    f.check = .ok () := by
  refine Filter.check_eq_ok_iff.2 ⟨hname, fun _ s hs => ?_⟩
  rw [hs] at hv
  cases hv

/-- A query that is in order but for the value of one comparison. The comparison is written with the bare text of the
value. If that is no string, the query passes, and the text is literal unless the value is an array or an object. If it
is a string, the query passes only with a literal text, and passes with one that a letter or a digit starts; otherwise
the string is reported. A number without a sign passes, and so does the string of its decimal text. -/
theorem validate_compared (hk : q.filters[k]? = some f) (hop : f.operator.isComparison = true)
    (hrest : (q.withValue k none).validate = .ok ()) :
    (q.predicateOf f).render =
        q.propertyPath f.entityAlias f.fieldName ++ " " ++ f.operator.name ++ " " ++ bareText f.value ∧
    (f.value.bind Json.text? = none → q.validate = .ok () ∧
      (IsLiteral (bareText f.value) ↔ ∀ j ∈ f.value, j.isNested = false)) ∧
    (∀ s, f.value = some (.text s) →
      (q.validate = .ok () → IsLiteral (bareText f.value)) ∧
      (IsLiteral (bareText f.value) → StartsPlainly (bareText f.value) → q.validate = .ok ()) ∧
      (q.validate = .ok () ∨ q.validate = .error (.notPlainLiteral f.fieldName s))) ∧
    ∀ n : Number, n.isNegative = false → f.value = some (.number n) ∨ f.value = some (.text (Json.number n).compact) →
      q.validate = .ok () := by
  have hname := isIdentifier_fieldName hk hrest
  rw [validate_eq_check hk hrest]
  refine ⟨?_, fun hv => ⟨check_of_not_text hname hv, isLiteral_bareText_iff hv⟩, fun s hs => ?_, fun n hn hv => ?_⟩
  · rw [predicateOf, predicate_of_comparison hop]
    rfl
  · have hbare : bareText f.value = s := by rw [hs]; rfl
    rw [check_of_text hname hop hs, hbare, ensure_eq_ok_iff]
    refine ⟨isLiteral_of_isPlainLiteral, isPlainLiteral_of_isLiteral, ?_⟩
    cases isPlainLiteral s
    · exact .inr rfl
    · exact .inl rfl
  · rcases hv with hv | hv
    · exact check_of_not_text hname (by rw [hv]; rfl)
    · rw [check_of_text hname hop hv, n.isPlainLiteral_compact hn]
      rfl

/-- Accounts by their revenue, compared with a value. -/
def revenueFrom (v : Json) : Query where
  environmentId := "dev"
  primaryEntity := "account"
  primaryEntityAlias := none
  fields := [⟨"main", "name", none, none⟩]
  givenJoins := none
  givenFilters := some [⟨"main", "name", .contains, some (.text "a"), none⟩, ⟨"main", "revenue", .ge, some v, none⟩]
  givenSorts := none
  top := none

theorem validate_compared_revenue :
    (revenueFrom (.text "2024-01-01T00:00:00Z")).filters[1]? =
      some ⟨"main", "revenue", .ge, some (.text "2024-01-01T00:00:00Z"), none⟩ ∧
    Operator.ge.isComparison = true ∧
    ((revenueFrom (.text "2024-01-01T00:00:00Z")).withValue 1 none).validate = .ok () ∧
    (revenueFrom (.text "2024-01-01T00:00:00Z")).validate = .ok () := by
  obtain ⟨-, -, htext, -⟩ := validate_compared (q := revenueFrom (.text "2024-01-01T00:00:00Z")) (k := 1) rfl rfl rfl
  obtain ⟨-, hpasses, -⟩ := htext _ rfl
  have hstart : StartsPlainly "2024-01-01T00:00:00Z" := fun c hc => by
    cases hc
    rfl
  exact ⟨rfl, rfl, rfl, hpasses (by decide) hstart⟩

/-- An array passes although it is written with brackets, and of a negative number and the string of its text only the
number passes. -/
theorem compared_values_unchecked :
    ¬(∀ (q : Query) (k : Nat) (f : Filter), q.filters[k]? = some f → f.operator.isComparison = true →
      (q.withValue k none).validate = .ok () → (q.validate = .ok () ↔ IsLiteral (bareText f.value))) ∧
    (revenueFrom (.array [.number (.int 5)])).validate = .ok () ∧
    ¬IsLiteral (bareText (some (.array [.number (.int 5)]))) ∧
    (revenueFrom (.number (.int (-5)))).validate = .ok () ∧
    (Json.number (.int (-5))).compact = "-5" ∧ IsLiteral "-5" ∧
    (revenueFrom (.text "-5")).validate = .error (.notPlainLiteral "revenue" "-5") := by
  have harray : ¬IsLiteral (bareText (some (.array [.number (.int 5)]))) := not_isLiteral_compact rfl
  refine ⟨fun h => ?_, rfl, harray, rfl, by decide, by decide, rfl⟩
  exact harray ((h (revenueFrom (.array [.number (.int 5)])) 1 _ rfl rfl rfl).1 rfl)

end Query

end QueryDesk
