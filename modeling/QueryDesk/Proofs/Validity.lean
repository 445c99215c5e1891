import QueryDesk.OData.Name
import QueryDesk.Query.Validation

/-!
# Valid queries

`Query.Valid` lists what validation guarantees: every name that is written out is an identifier, each
alias is declared once and is not that of the primary entity, and text compared by order is a plain
literal. A query passes validation exactly when it is valid (`Query.validate_eq_ok_iff`).
-/

namespace QueryDesk

/-! ### Joined parts -/

theorem List.intercalate_cons_eq_flatMap {α : Type} (separator part : List α) (parts : List (List α)) :
    separator.intercalate (part :: parts) = part ++ parts.flatMap (separator ++ ·) := by
  induction parts generalizing part with
  | nil => simp
  | cons p parts ih => rw [List.intercalate_cons_cons, ih, List.flatMap_cons, List.append_assoc, List.append_assoc]

/-- What holds of the separator and of all parts holds of the parts joined by it. -/
theorem List.forall_mem_intercalate {α : Type} {P : α → Prop} {separator : List α} {parts : List (List α)}
    (hs : ∀ x ∈ separator, P x) (hp : ∀ p ∈ parts, ∀ x ∈ p, P x) : ∀ x ∈ separator.intercalate parts, P x := by
  induction parts with
  | nil => simp
  | cons p parts ih =>
    have hrest : ∀ q ∈ parts, ∀ x ∈ q, P x := fun q hq => hp q (List.mem_cons_of_mem _ hq)
    cases parts with
    | nil => simpa using hp p List.mem_cons_self
    | cons p' parts =>
      rw [List.intercalate_cons_cons]
      exact List.forall_mem_append.2 ⟨List.forall_mem_append.2 ⟨hp p List.mem_cons_self, hs⟩, ih hrest⟩

theorem List.map_ofList_toList (xs : List String) : (xs.map String.toList).map String.ofList = xs := by
  rw [List.map_map, show String.ofList ∘ String.toList = id from funext fun _ => String.ofList_toList, List.map_id]

/-! ### Identifiers -/

namespace Text
variable {s : String} {c : Char}

theorem isIdentifierPart_of_start (h : isIdentifierStart c = true) : isIdentifierPart c = true := by
  simp [isIdentifierPart, h]

theorem isIdentifier_iff : isIdentifier s = true ↔
    ∃ c rest, s.toList = c :: rest ∧ isIdentifierStart c = true ∧ ∀ d ∈ rest, isIdentifierPart d = true := by
  unfold isIdentifier
  cases s.toList with
  | nil => simp
  | cons c rest =>
    constructor
    · intro h
      obtain ⟨hc, hrest⟩ := Bool.and_eq_true_iff.1 h
      exact ⟨c, rest, rfl, hc, List.all_eq_true.1 hrest⟩
    · rintro ⟨c', rest', heq, hc, hrest⟩
      obtain ⟨rfl, rfl⟩ := List.cons.inj heq
      simp only [hc, List.all_eq_true.2 hrest, Bool.and_self]

theorem isIdentifier_ne_nil (h : isIdentifier s = true) : s.toList ≠ [] := by
  obtain ⟨c, rest, heq, -⟩ := isIdentifier_iff.1 h
  simp [heq]

theorem isIdentifier_ne_empty (h : isIdentifier s = true) : s ≠ "" := by
  rintro rfl; exact isIdentifier_ne_nil h rfl

theorem isIdentifier_parts (h : isIdentifier s = true) : ∀ c ∈ s.toList, isIdentifierPart c = true := by
  obtain ⟨c, rest, heq, hc, hrest⟩ := isIdentifier_iff.1 h
  rw [heq]
  intro d hd
  rcases List.mem_cons.1 hd with rfl | hd
  · exact isIdentifierPart_of_start hc
  · exact hrest d hd

theorem isIdentifier_not_mem (h : isIdentifier s = true) (hc : isIdentifierPart c = false) : c ∉ s.toList :=
  fun hmem => by rw [isIdentifier_parts h c hmem] at hc; cases hc

theorem not_mem_of_pathParts {cs : List Char} (h : ∀ c ∈ cs, isIdentifierPart c = true ∨ c = '/')
    (hc : isIdentifierPart c = false) (hslash : c ≠ '/') : c ∉ cs := by
  intro hmem
  rcases h c hmem with hpart | heq
  · rw [hpart] at hc; cases hc
  · exact hslash heq

/-- What is left of an identifier when it is cut off at the end, but not at once. -/
theorem isIdentifier_take {n : Nat} (h : isIdentifier s = true) (hn : n ≠ 0) :
    isIdentifier (String.ofList (s.toList.take n)) = true := by
  obtain ⟨c, rest, heq, hc, hrest⟩ := isIdentifier_iff.1 h
  obtain ⟨m, rfl⟩ := Nat.exists_eq_succ_of_ne_zero hn
  refine isIdentifier_iff.2 ⟨c, rest.take m, by simp [heq], hc, fun d hd => hrest d ?_⟩
  exact List.mem_of_mem_take hd

theorem isIdentifier_not_blank (h : isIdentifier s = true) : isBlankText s = false := by
  obtain ⟨c, rest, heq, hc, -⟩ := isIdentifier_iff.1 h
  have hblank : isBlank c = false := by
    have hn : 65 ≤ c.toNat ∧ c.toNat ≤ 122 := by
      simp only [isIdentifierStart, isAsciiLetter, Bool.or_eq_true, Bool.and_eq_true, decide_eq_true_eq,
        beq_iff_eq, Char.le_def, UInt32.le_iff_toNat_le] at hc
      rcases hc with (⟨h1, h2⟩ | ⟨h1, h2⟩) | rfl
      · exact ⟨Nat.le_trans (by decide) h1, h2⟩
      · exact ⟨h1, Nat.le_trans h2 (by decide)⟩
      · decide
    simp only [isBlank, Bool.or_eq_false_iff, Bool.and_eq_false_iff, decide_eq_false_iff_not, beq_eq_false_iff_ne]
    omega
  simp [isBlankText, heq, hblank]

end Text

open Text

/-! ### Navigation names -/

theorem stripId_eq_take (cs : List Char) : ∃ n, stripId cs = cs.take n ∧ (cs ≠ [] → n ≠ 0) := by
  unfold stripId
  split
  · next d i c rest heq =>
    have hcs : cs = (c :: rest).reverse ++ [i, d] := by
      have := congrArg List.reverse heq
      simpa using this
    split
    · exact ⟨(c :: rest).length, by rw [hcs, ← List.length_reverse, List.take_left], by simp⟩
    · exact ⟨cs.length, by simp, by simp⟩
  · exact ⟨cs.length, by simp, by simp⟩

theorem isIdentifier_navigationProperty {s : String} (h : isIdentifier s = true) :
    isIdentifier (navigationProperty s) = true := by
  obtain ⟨n, hn, hpos⟩ := stripId_eq_take s.toList
  rw [navigationProperty, hn]
  exact isIdentifier_take h (hpos (isIdentifier_ne_nil h))

/-! ### Joins, filters and queries -/

/-- The names of a join are identifiers; its navigation property may be missing or empty. -/
structure Join.Valid (j : Join) : Prop where
  fromField : isIdentifier j.fromField = true
  toEntity : isIdentifier j.toEntity = true
  navigationProperty : ∀ n, j.navigationProperty = some n → n ≠ "" → isIdentifier n = true

theorem Join.Valid.navigation {j : Join} (h : j.Valid) : isIdentifier j.navigation = true := by
  unfold Join.navigation
  split
  · next n hn =>
    split
    · exact isIdentifier_navigationProperty h.fromField
    · next hne => exact h.navigationProperty n hn hne
  · exact isIdentifier_navigationProperty h.fromField

/-- The field of a filter is an identifier, and text that is compared by order is a plain literal. -/
structure Filter.Valid (f : Filter) : Prop where
  fieldName : isIdentifier f.fieldName = true
  literal : f.operator.isComparison = true → ∀ s, f.value = some (.text s) → isPlainLiteral s = true

/-- What validation guarantees. -/
structure Query.Valid (q : Query) : Prop where
  primaryEntity : isIdentifier q.primaryEntity = true
  fields_ne : q.fields ≠ []
  joins : ∀ j ∈ q.joins, j.Valid
  aliases : (q.joins.map Join.toEntityAlias).Nodup
  alias_ne : ∀ j ∈ q.joins, j.toEntityAlias ≠ q.primaryAlias
  fields : ∀ f ∈ q.fields, isIdentifier f.fieldName = true
  filters : ∀ f ∈ q.filters, f.Valid
  sorts : ∀ s ∈ q.sorts, isIdentifier s.fieldName = true

/-! ### What the checks say -/

theorem ensure_eq_ok_iff {b : Bool} {v : Violation} : ensure b v = .ok () ↔ b = true := by
  cases b <;> simp [ensure]

theorem checkName_eq_ok_iff {role : NameRole} {s : String} :
    checkName role s = .ok () ↔ isIdentifier s = true := ensure_eq_ok_iff

theorem Except.bind_eq_ok_iff {ε : Type} {x y : Except ε Unit} :
    (do x; y) = .ok () ↔ x = .ok () ∧ y = .ok () := by
  cases x with
  | error e => simp [bind, Except.bind]
  | ok u => simp [bind, Except.bind]

theorem checkAll_eq_ok_iff {α : Type} {check : α → Except Violation Unit} {xs : List α} :
    checkAll check xs = .ok () ↔ ∀ x ∈ xs, check x = .ok () := by
  induction xs with
  | nil => simp [checkAll]
  | cons x xs ih => rw [checkAll, Except.bind_eq_ok_iff, ih, List.forall_mem_cons]

theorem Join.check_eq_ok_iff {j : Join} : j.check = .ok () ↔ j.Valid := by
  unfold Join.check
  rw [Except.bind_eq_ok_iff, Except.bind_eq_ok_iff, checkName_eq_ok_iff, checkName_eq_ok_iff]
  constructor
  · rintro ⟨hfield, hentity, hnav⟩
    refine ⟨hfield, hentity, fun n hn hne => ?_⟩
    simpa only [hn, hne, if_false, checkName_eq_ok_iff] using hnav
  · intro h
    refine ⟨h.fromField, h.toEntity, ?_⟩
    split
    · next n hn =>
      split
      · rfl
      · next hne => exact checkName_eq_ok_iff.2 (h.navigationProperty n hn hne)
    · rfl

theorem Filter.check_eq_ok_iff {f : Filter} : f.check = .ok () ↔ f.Valid := by
  unfold Filter.check
  rw [Except.bind_eq_ok_iff, checkName_eq_ok_iff]
  constructor
  · rintro ⟨hfield, hvalue⟩
    refine ⟨hfield, fun hcmp s hs => ?_⟩
    simpa only [hs, hcmp, ensure_eq_ok_iff, Bool.not_true, Bool.false_or] using hvalue
  · intro h
    refine ⟨h.fieldName, ?_⟩
    split
    · next s hs =>
      rw [ensure_eq_ok_iff]
      cases hcmp : f.operator.isComparison with
      | false => rfl
      | true => exact h.literal hcmp s hs
    · rfl

namespace Query
variable {q : Query}

theorem isPrimary_iff {a : String} : q.isPrimary a = true ↔ a = q.primaryAlias := beq_iff_eq

/-- The aliases of the joins are new, apart from each other too. -/
theorem checkJoins_eq_ok_iff {seen : List String} {js : List Join} :
    q.checkJoins seen js = .ok () ↔ (∀ j ∈ js, j.Valid) ∧ (∀ j ∈ js, j.toEntityAlias ≠ q.primaryAlias) ∧
      (∀ j ∈ js, j.toEntityAlias ∉ seen) ∧ (js.map Join.toEntityAlias).Nodup := by
  induction js generalizing seen with
  | nil => simp [checkJoins]
  | cons j js ih =>
    have hnew : (!q.isPrimary j.toEntityAlias && !seen.contains j.toEntityAlias) = true ↔
        j.toEntityAlias ≠ q.primaryAlias ∧ j.toEntityAlias ∉ seen := by
      simp [← isPrimary_iff]
    rw [checkJoins, Except.bind_eq_ok_iff, Except.bind_eq_ok_iff, Join.check_eq_ok_iff, ensure_eq_ok_iff, hnew, ih]
    rw [List.forall_mem_cons, List.forall_mem_cons, List.forall_mem_cons, List.map_cons, List.nodup_cons]
    simp only [List.mem_cons, List.mem_map, not_or]
    constructor
    · rintro ⟨hj, ⟨hp, hs⟩, hjs, hps, hss, hnd⟩
      exact ⟨⟨hj, hjs⟩, ⟨hp, hps⟩, ⟨hs, fun k hk => (hss k hk).2⟩, fun ⟨k, hk, he⟩ => (hss k hk).1 he, hnd⟩
    · rintro ⟨⟨hj, hjs⟩, ⟨hp, hps⟩, ⟨hs, hss⟩, hne, hnd⟩
      exact ⟨hj, ⟨hp, hs⟩, hjs, hps, fun k hk => ⟨fun he => hne ⟨k, hk, he⟩, hss k hk⟩, hnd⟩

/-- A query passes validation exactly when it is valid. -/
theorem validate_eq_ok_iff : q.validate = .ok () ↔ q.Valid := by
  unfold validate
  simp only [Except.bind_eq_ok_iff, ensure_eq_ok_iff, checkName_eq_ok_iff, checkJoins_eq_ok_iff,
    checkAll_eq_ok_iff, Filter.check_eq_ok_iff]
  constructor
  · rintro ⟨-, hne, hentity, ⟨hjoins, hprim, -, hnd⟩, hfields, hfilters, hsorts⟩
    exact ⟨hentity, by simpa using hne, hjoins, hnd, hprim, hfields, hfilters, hsorts⟩
  · intro h
    exact ⟨by simp [isIdentifier_not_blank h.primaryEntity], by simpa using h.fields_ne, h.primaryEntity,
      ⟨h.joins, h.alias_ne, by simp, h.aliases⟩, h.fields, h.filters, h.sorts⟩

/-- Opportunities with their accounts and the contacts of those; two more joins hang off each other. -/
def sample : Query where
  environmentId := "dev"
  primaryEntity := "opportunity"
  primaryEntityAlias := none
  fields := [⟨"main", "name", none, none⟩, ⟨"pc", "fullname", none, none⟩, ⟨"acct", "name", none, none⟩,
    ⟨"ping", "subject", none, none⟩, ⟨"pc", "fullname", some "Contact", none⟩]
  givenJoins := some [⟨"main", "parentaccountid", "account", "acct", "accountid", none, none⟩,
    ⟨"acct", "primarycontactid", "contact", "pc", "contactid", none, none⟩,
    ⟨"pong", "taskid", "task", "ping", "taskid", none, none⟩,
    ⟨"ping", "phoneid", "phone", "pong", "phoneid", none, some "phone_calls"⟩]
  givenFilters := some [⟨"pc", "fullname", .contains, some (.text "O'Neil, or"), none⟩,
    ⟨"main", "and", .eq, some (.text "' or 1 eq 1 & x+y"), some .or⟩,
    ⟨"acct", "tags", .ne, some (.array [.text "a ] b", .null]), none⟩,
    ⟨"gone", "revenue", .ge, some (.number (.int 5)), some .and⟩]
  givenSorts := some [⟨"pc", "fullname", some .desc⟩, ⟨"main", "name", none⟩]
  top := none

example : sample.validate = .ok () := rfl

/-! ### Distinct fields -/

theorem dedupFields_sublist (seen : List (String × String)) (fs : List Field) : (dedupFields seen fs).Sublist fs := by
  induction fs generalizing seen with
  | nil => exact List.Sublist.refl _
  | cons f fs ih =>
    rw [dedupFields]
    split
    · exact (ih seen).cons f
    · exact (ih _).cons_cons f

theorem distinctFields_sublist (q : Query) : q.distinctFields.Sublist q.fields := dedupFields_sublist [] q.fields

theorem Valid.distinctFields (h : q.Valid) : ∀ f ∈ q.distinctFields, Text.isIdentifier f.fieldName = true :=
  fun f hf => h.fields f (q.distinctFields_sublist.subset hf)

/-! ### Paths -/

def segments (q : Query) (entityAlias fieldName : String) : List String :=
  (q.joinPath entityAlias).map Join.navigation ++ [fieldName]

theorem segments_ne_nil (a f : String) : q.segments a f ≠ [] := by simp [segments]

theorem mem_joins_of_mem_joinPath {a : String} {j : Join} (h : j ∈ q.joinPath a) : j ∈ q.joins := by
  obtain ⟨i, -, hi⟩ := List.mem_filterMap.1 h
  exact List.mem_of_getElem? hi

theorem Valid.isIdentifier_segments (h : q.Valid) (a : String) {f : String} (hf : isIdentifier f = true) :
    ∀ s ∈ q.segments a f, isIdentifier s = true := by
  refine List.forall_mem_append.2 ⟨fun s hs => ?_, by simpa using hf⟩
  obtain ⟨j, hj, rfl⟩ := List.mem_map.1 hs
  exact (h.joins j (mem_joins_of_mem_joinPath hj)).navigation

theorem toList_propertyPath (a f : String) :
    (q.propertyPath a f).toList = ['/'].intercalate ((q.segments a f).map String.toList) := by
  rw [propertyPath, String.toList_intercalate]; rfl

theorem Valid.propertyPath_parts (h : q.Valid) (a : String) {f : String} (hf : isIdentifier f = true) :
    ∀ c ∈ (q.propertyPath a f).toList, isIdentifierPart c = true ∨ c = '/' := by
  rw [toList_propertyPath]
  refine List.forall_mem_intercalate (fun c hc => .inr (List.mem_singleton.1 hc)) fun cs hcs c hc => .inl ?_
  obtain ⟨s, hs, rfl⟩ := List.mem_map.1 hcs
  exact isIdentifier_parts (h.isIdentifier_segments a hf s hs) c hc

end Query

end QueryDesk
