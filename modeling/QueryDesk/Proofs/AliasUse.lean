import QueryDesk.Proofs.JoinedCells
import QueryDesk.Proofs.RequestText

/-!
# The aliases a query uses

Validation compares the aliases that joins declare with each other and with the primary one. It does not look at the
aliases of fields, filters and sorts, nor at what joins hang off, so an alias can be unknown, or it can be declared and
lead nowhere because there is a circle of joins above it. `Query.Standing` tells these cases apart. What is requested is
told by it: fields are selected where their alias leads to the primary one, and the path of a filter or a sort starts at
the primary entity unless it comes out of a circle, and is the bare field name for an unknown alias as well.
-/

namespace QueryDesk.Query

open OData

variable {q : Query} {a : String} {i : Nat} {j k : Join} {is : List Nat} {js : List Join}

/-- A join declares the alias. -/
def Declares (q : Query) (a : String) : Prop := ∃ j ∈ q.joins, j.toEntityAlias = a

instance : Decidable (q.Declares a) := inferInstanceAs (Decidable (∃ j ∈ q.joins, j.toEntityAlias = a))

/-- The aliases of fields, filters and sorts. -/
def usedAliases (q : Query) : List String :=
  q.fields.map (·.entityAlias) ++ q.filters.map (·.entityAlias) ++ q.sorts.map (·.entityAlias)

/-- The joins lead from the primary entity to an alias: the first hangs off the primary alias, each of the others off
the one before it, and the last declares the alias. -/
inductive Leads (q : Query) : List Join → String → Prop
  | primary : q.Leads [] q.primaryAlias
  | step {i : Nat} {j : Join} {js : List Join} (join : q.joins[i]? = some j) (parent : q.Leads js (q.parentOf i j)) :
      q.Leads (js ++ [j]) j.toEntityAlias

/-- The join is below itself. -/
def Circular (q : Query) (j : Join) : Prop := ∃ i, q.joins[i]? = some j ∧ q.Below j (q.parentOf i j)

/-! ### Chains of joins -/

theorem Valid.leads_joinPath (h : q.Valid) (ha : q.Ascent a is) : q.Leads (q.joinPath a) a := by
  induction ha with
  | primary =>
    rw [joinPath_primary]
    exact .primary
  | @step a i j is ne index join parent ih =>
    obtain rfl := alias_of_joinIndex? index join
    rw [h.joinPath_step join ⟨is, parent⟩]
    exact .step join ih

theorem Valid.reaches_of_leads (h : q.Valid) (ha : q.Leads js a) : q.Reaches a := by
  induction ha with
  | primary => exact .primary
  | step join parent ih =>
    obtain ⟨is, his⟩ := ih
    exact ⟨_, h.ascent_step join his⟩

theorem declares_of_joinIndex? (h : q.joinIndex? a = some i) : q.Declares a := by
  obtain ⟨j, hj, ha⟩ := exists_of_joinIndex? h
  exact ⟨j, List.mem_of_getElem? hj, ha⟩

/-- A join hangs off the primary alias or off one that is declared. -/
theorem parentOf_cases (q : Query) (i : Nat) (j : Join) :
    q.parentOf i j = q.primaryAlias ∨ q.Declares (q.parentOf i j) := by
  rw [parentOf]
  split
  · next k hk =>
    split
    · exact .inl rfl
    · exact .inr (declares_of_joinIndex? hk)
  · exact .inl rfl

theorem joinIndex?_eq_none_iff : q.joinIndex? a = none ↔ ¬q.Declares a := by
  constructor
  · rintro h ⟨j, hj, ha⟩
    exact alias_ne_of_joinIndex? h hj ha
  · intro h
    exact Option.eq_none_iff_forall_ne_some.2 fun i hi => h (declares_of_joinIndex? hi)

/-- The path of an alias is empty only where there is nothing to climb. -/
theorem joinPath_eq_nil_iff : q.joinPath a = [] ↔ a = q.primaryAlias ∨ ¬q.Declares a := by
  by_cases hprimary : a = q.primaryAlias
  · rw [hprimary]
    exact iff_of_true (joinPath_primary q) (.inl rfl)
  rw [or_iff_right hprimary, ← joinIndex?_eq_none_iff]
  cases hi : q.joinIndex? a with
  | none =>
    refine iff_of_true ?_ rfl
    cases hsteps : q.joins.length with
    | zero => rw [joinPath, joinPlaces, hsteps]; rfl
    | succ steps => rw [joinPath, joinPlaces, hsteps, climb, if_neg (mt isPrimary_iff.1 hprimary), hi]; rfl
  | some i =>
    refine iff_of_false (fun hnil => ?_) (Option.some_ne_none i)
    obtain ⟨j, hj, -⟩ := exists_of_joinIndex? hi
    have hlength : q.joins.length ≠ 0 := Nat.ne_of_gt (List.length_pos_of_mem (List.mem_of_getElem? hj))
    obtain ⟨steps, hsteps⟩ := Nat.exists_eq_add_one_of_ne_zero hlength
    rw [joinPath, joinPlaces, hsteps, climb, if_neg (mt isPrimary_iff.1 hprimary), hi] at hnil
    simp [hj] at hnil

theorem Valid.joinPath_eq_nil_iff (h : q.Valid) : q.joinPath a = [] ↔ ¬q.Declares a := by
  refine Query.joinPath_eq_nil_iff.trans (or_iff_right_of_imp ?_)
  rintro rfl ⟨j, hj, hprimary⟩
  exact h.alias_ne j hj hprimary

/-! ### Circles -/

namespace Valid

/-- The ascent of what is above an alias is the end of the ascent of the alias. -/
theorem exists_suffix_of_below (h : q.Valid) (hb : q.Below k a) (ha : q.Ascent a is) :
    ∃ js, q.Ascent k.toEntityAlias js ∧ js <:+ is := by
  induction hb generalizing is with
  | self => exact ⟨is, ha, List.suffix_rfl⟩
  | @step i j join _ ih =>
    cases is with
    | nil => exact absurd ha.eq_primary (h.alias_ne j (List.mem_of_getElem? join))
    | cons i' is =>
      obtain ⟨j', hj', halias, hparent⟩ := ha.parent_of_cons
      obtain ⟨rfl, rfl⟩ := h.join_unique hj' join halias
      obtain ⟨js, hjs, hsuffix⟩ := ih hparent
      exact ⟨js, hjs, hsuffix.trans (List.suffix_cons _ _)⟩

/-- From below a circle nothing leads to the primary alias. -/
theorem not_reaches_of_circular (h : q.Valid) (hk : q.Circular k) (hb : q.Below k a) : ¬q.Reaches a := by
  rintro ⟨is, ha⟩
  obtain ⟨i, hi, hparent⟩ := hk
  obtain ⟨js, hjs, -⟩ := h.exists_suffix_of_below hb ha
  cases js with
  | nil => exact h.alias_ne k (List.mem_of_getElem? hi) hjs.eq_primary
  | cons i' js =>
    obtain ⟨k', hk', halias, hup⟩ := hjs.parent_of_cons
    obtain ⟨rfl, rfl⟩ := h.join_unique hk' hi halias
    -- above the parent of the join stands the join again, with an ascent that would be longer than itself
    obtain ⟨ks, hks, hsuffix⟩ := h.exists_suffix_of_below hparent hup
    have hlength := hsuffix.length_le
    rw [hks.unique hjs, List.length_cons] at hlength
    omega

/-- A climb that does not end at the primary alias comes back to a join it has seen. -/
theorem exists_circular_of_climb (h : q.Valid) {seen : List Nat} {steps : Nat} (hnodup : seen.Nodup)
    (hseen : ∀ i ∈ seen, ∃ k, q.joins[i]? = some k ∧ q.Below j (q.parentOf i k))
    (hsteps : q.joins.length < seen.length + steps) (hj : j ∈ q.joins) (hr : ¬q.Reaches j.toEntityAlias) :
    ∃ k, q.Circular k ∧ q.Below k j.toEntityAlias := by
  induction steps generalizing seen j with
  | zero =>
    have hsubset : seen ⊆ List.range q.joins.length := by
      intro i hi
      obtain ⟨k, hk, -⟩ := hseen i hi
      exact List.mem_range.2 (List.getElem?_eq_some_iff.1 hk).1
    have hle := hnodup.length_le_of_subset hsubset
    rw [List.length_range] at hle
    omega
  | succ steps ih =>
    obtain ⟨i, hi⟩ := List.getElem?_of_mem hj
    by_cases hmem : i ∈ seen
    · obtain ⟨k, hk, hbelow⟩ := hseen i hmem
      obtain rfl : j = k := Option.some.inj (hi.symm.trans hk)
      exact ⟨j, ⟨i, hi, hbelow⟩, .self hj⟩
    · have hparent : ¬q.Reaches (q.parentOf i j) := fun ⟨is, his⟩ => hr ⟨_, h.ascent_step hi his⟩
      rcases q.parentOf_cases i j with hprimary | ⟨j', hj', halias⟩
      · exact absurd (hprimary ▸ .primary) hparent
      · have hbelow : q.Below j' (q.parentOf i j) := halias ▸ .self hj'
        have hseen' : ∀ i' ∈ i :: seen, ∃ k, q.joins[i']? = some k ∧ q.Below j' (q.parentOf i' k) := by
          refine List.forall_mem_cons.2 ⟨⟨j, hi, hbelow⟩, fun i' hi' => ?_⟩
          obtain ⟨k, hk, hb⟩ := hseen i' hi'
          exact ⟨k, hk, (Below.step hi hbelow).trans hb⟩
        have hroom : q.joins.length < (i :: seen).length + steps := by
          rw [List.length_cons]
          omega
        obtain ⟨k, hk, hb⟩ := ih (List.nodup_cons.2 ⟨hmem, hnodup⟩) hseen' hroom hj' (halias ▸ hparent)
        exact ⟨k, hk, .step hi (halias ▸ hb)⟩

/-- A declared alias does not reach the primary one exactly where there is a circle above it. -/
theorem not_reaches_iff (h : q.Valid) (ha : q.Declares a) : ¬q.Reaches a ↔ ∃ k, q.Circular k ∧ q.Below k a := by
  constructor
  · obtain ⟨j, hj, rfl⟩ := ha
    have hsteps : q.joins.length < ([] : List Nat).length + (q.joins.length + 1) := by
      rw [List.length_nil, Nat.zero_add]
      exact Nat.lt_succ_self _
    exact h.exists_circular_of_climb List.nodup_nil (List.forall_mem_nil _) hsteps hj
  · rintro ⟨k, hk, hb⟩
    exact h.not_reaches_of_circular hk hb

end Valid

/-! ### Standing -/

/-- How an alias stands to the joins, and the joins in the paths of its filters and sorts. -/
inductive Standing (q : Query) (a : String) : List Join → Prop
  | primary (eq : a = q.primaryAlias) (undeclared : ¬q.Declares a) : Standing q a []
  | joined {js : List Join} (ne : a ≠ q.primaryAlias) (declared : ∃! j, j ∈ q.joins ∧ j.toEntityAlias = a)
      (reaches : q.Reaches a) (leads : q.Leads js a) (path : js ≠ []) : Standing q a js
  | unknown (ne : a ≠ q.primaryAlias) (undeclared : ¬q.Declares a) : Standing q a []
  | circling {js : List Join} (ne : a ≠ q.primaryAlias) (declared : ∃! j, j ∈ q.joins ∧ j.toEntityAlias = a)
      (circle : ∃ k, q.Circular k ∧ q.Below k a) (lost : ¬q.Reaches a) (astray : ¬q.Leads js a)
      (path : js ≠ []) : Standing q a js

namespace Valid

theorem existsUnique_join (h : q.Valid) (ha : q.Declares a) : ∃! j, j ∈ q.joins ∧ j.toEntityAlias = a := by
  obtain ⟨j, hj, halias⟩ := ha
  refine ⟨j, ⟨hj, halias⟩, ?_⟩
  rintro k ⟨hk, hkalias⟩
  obtain ⟨i, hi⟩ := List.getElem?_of_mem hj
  obtain ⟨i', hi'⟩ := List.getElem?_of_mem hk
  exact (h.join_unique hi' hi (hkalias.trans halias.symm)).2

theorem standing (h : q.Valid) (a : String) : q.Standing a (q.joinPath a) := by
  by_cases ha : q.Declares a
  · have hne : a ≠ q.primaryAlias := by
      obtain ⟨j, hj, rfl⟩ := ha
      exact h.alias_ne j hj
    have hpath : q.joinPath a ≠ [] := mt h.joinPath_eq_nil_iff.1 (not_not.2 ha)
    by_cases hr : q.Reaches a
    · obtain ⟨is, his⟩ := hr
      exact .joined hne (h.existsUnique_join ha) ⟨is, his⟩ (h.leads_joinPath his) hpath
    · exact .circling hne (h.existsUnique_join ha) ((h.not_reaches_iff ha).1 hr) hr (mt h.reaches_of_leads hr) hpath
  · rw [h.joinPath_eq_nil_iff.2 ha]
    by_cases hprimary : a = q.primaryAlias
    · exact .primary hprimary ha
    · exact .unknown hprimary ha

/-- The paths in the filter expression are the segments of the filters. -/
theorem paths_filterExpression (h : q.Valid) :
    (readFilters q.filterExpression).map (·.map Clause.path) =
      some (q.filters.map fun f => q.segments f.entityAlias f.fieldName) := by
  cases hfs : q.filters with
  | nil => rw [filterExpression, hfs]; rfl
  | cons f fs =>
    obtain ⟨hf, hrest⟩ := List.forall_mem_cons.1 (hfs ▸ h.filters)
    have htext := toList_filterExpression hfs
    have hsteps : fs.length < q.filterExpression.toList.length := by
      have hpos := List.length_pos_iff.2 (render_ne_nil (q.predicateOf f))
      have hle := length_le_connectedText (q := q) fs
      rw [htext, List.length_append]
      omega
    have hne : q.filterExpression ≠ "" := fun hempty => by
      rw [hempty] at hsteps
      exact absurd hsteps (Nat.not_lt_zero _)
    rw [readFilters, if_neg hne]
    generalize q.filterExpression.toList.length = steps at hsteps
    rw [htext, h.readClauses hf hrest none hsteps, Option.map_some, List.map_cons, List.map_cons, List.map_map]
    rfl

end Valid

/-- Validation leaves an alias one of four standings, of which only the first two are what a field, a filter or a sort
needs. The fields that are selected are those with one of these two, each where its joins lead, and the paths of filters
and sorts go over the joins that the standing of their alias has. -/
theorem requests_follow_standing (q : Query) (page pageSize : Nat) (countOnly : Bool) (h : q.validate = .ok ()) :
    (∀ a, q.Standing a (q.joinPath a)) ∧
    ∃ o, readOptions (q.compile page pageSize countOnly) = some o ∧
      o.select = (q.distinctFields.filter (·.entityAlias = q.primaryAlias)).map (·.fieldName) ∧
      (selectionsAll [] o.expand).Perm
        ((q.distinctFields.filter fun f => q.Declares f.entityAlias ∧ q.Reaches f.entityAlias).map
          fun f => ((q.joinPath f.entityAlias).map Join.navigation, f.fieldName)) ∧
      (readFilters (o.filter.getD "")).map (·.map Clause.path) =
        some (q.filters.map fun f => (q.joinPath f.entityAlias).map Join.navigation ++ [f.fieldName]) ∧
      o.orderBy.map (fun s => readPath s.1.toList) =
        q.sorts.map fun s => (q.joinPath s.entityAlias).map Join.navigation ++ [s.fieldName] := by
  have hq := validate_eq_ok_iff.1 h
  refine ⟨hq.standing, q.options page pageSize countOnly, ?_, ?_, ?_, ?_, ?_⟩
  · exact (hq.options page pageSize countOnly).readOptions_render
  · rw [options, hq.selectedNames]
    rfl
  · refine hq.selectionsAll_expands.trans (List.Perm.of_eq (congrArg _ (List.filter_congr fun f _ => ?_)))
    rw [decide_eq_decide]
    constructor
    · rintro ⟨j, hj, halias, hr⟩
      exact ⟨⟨j, hj, halias⟩, halias ▸ hr⟩
    · rintro ⟨⟨j, hj, halias⟩, hr⟩
      exact ⟨j, hj, halias, halias ▸ hr⟩
  · have hfilter : (q.options page pageSize countOnly).filter.getD "" = q.filterExpression := by
      rw [options]
      cases hfs : q.filters with
      | nil => rw [filterExpression, hfs]; rfl
      | cons f fs => rfl
    rw [hfilter]
    exact hq.paths_filterExpression
  · rw [options, List.map_map]
    exact List.map_congr_left fun s hs => hq.readPath s.entityAlias (hq.sorts s hs)

/-- The joins of two aliases of the sample go round in a circle, and one of its filters is on an alias that nothing
declares. Its query string asks for what is left. -/
theorem requests_follow_standing_sample : sample.validate = .ok () ∧
    (sample.Reaches "pc" ∧ sample.joinPath "pc" ≠ []) ∧
    (sample.Declares "ping" ∧ ¬sample.Reaches "ping") ∧
    (¬sample.Declares "gone" ∧ sample.joinPath "gone" = []) ∧
    ∃ o, readOptions (sample.compile 1 50 false) = some o ∧ o.select = ["name"] ∧
      (selectionsAll [] o.expand).Perm
        [(["parentaccount", "primarycontact"], "fullname"), (["parentaccount"], "name")] ∧
      (readFilters (o.filter.getD "")).map (·.map Clause.path) =
        some [["parentaccount", "primarycontact", "fullname"], ["and"], ["parentaccount", "tags"], ["revenue"]] := by
  obtain ⟨-, o, ho, hselect, hexpand, hfilter, -⟩ := requests_follow_standing sample 1 50 false rfl
  exact ⟨rfl, by decide, by decide, by decide, o, ho, hselect, hexpand, hfilter⟩

/-- Validation does not see to it that aliases mean anything: the sample is accepted although it has an alias of neither
kind, a field that is selected nowhere, and a filter on an unknown alias that has the bare field name for a path. -/
theorem aliases_unchecked :
    ¬(∀ q : Query, q.validate = .ok () →
      ∀ a ∈ q.usedAliases, a = q.primaryAlias ∨ q.Declares a ∧ q.Reaches a) ∧
    ¬(∀ q : Query, q.validate = .ok () → ∀ f ∈ q.distinctFields,
      f.fieldName ∈ (q.options 1 50 false).select ∨
        ∃ p ∈ selectionsAll [] (q.options 1 50 false).expand, p.2 = f.fieldName) ∧
    ¬(∀ q : Query, q.validate = .ok () → ∀ f ∈ q.filters, f.entityAlias ≠ q.primaryAlias →
      q.propertyPath f.entityAlias f.fieldName ≠ f.fieldName) := by
  refine ⟨fun h => ?_, fun h => ?_, fun h => ?_⟩
  · exact absurd (h sample rfl "gone" (by decide)) (by decide)
  · exact absurd (h sample rfl ⟨"ping", "subject", none, none⟩ (by decide)) (by decide)
  · have hmem : ⟨"gone", "revenue", .ge, some (.number (.int 5)), some .and⟩ ∈ sample.filters := by
      simp [sample, filters]
    exact absurd (h sample rfl _ hmem (by decide)) (by decide)

end QueryDesk.Query
