import Mathlib.Data.List.Pairwise
import QueryDesk.Proofs.ColumnFrame
import QueryDesk.Proofs.RequestText

/-!
# Navigation names of siblings

Beside each other in a request stand the expansions of joins that hang off one alias. Validation compares the aliases
of joins and not their navigation names, so two of them may go by the same name, as two joins over one lookup do. That
is the only way for a name to be repeated at a level (`Query.apart_expand_iff`).
-/

namespace QueryDesk

namespace OData

/-- Siblings have different navigation names, at all levels. -/
inductive Apart : List Expand → Prop
  | mk {es : List Expand} (names : (es.map Expand.navigation).Nodup) (nested : ∀ e ∈ es, Apart e.nested) : Apart es

theorem Expand.asked_of_of?_eq_some {n : String} {select : List String} {nested : List Expand} {e : Expand}
    (h : Expand.of? n select nested = some e) : e = .mk n select nested ∧ (select ≠ [] ∨ nested ≠ []) := by
  unfold Expand.of? at h
  split at h
  · cases h
  · next hne =>
    refine ⟨(Option.some.inj h).symm, ?_⟩
    simp only [Bool.and_eq_true, List.isEmpty_iff] at hne
    exact not_and_or.1 hne

end OData

open OData

namespace Query

variable {q : Query} {a : String} {j k : Join}

/-- The branches belong to different joins that hang off an alias, and so on inside of them. -/
inductive HangsOff (q : Query) : String → List Branch → Prop
  | mk {a : String} {bs : List Branch} (siblings : (bs.map Branch.join).Sublist (q.childrenOf a))
      (nested : ∀ b ∈ bs, HangsOff q b.join.toEntityAlias b.nested) : HangsOff q a bs

theorem hangsOff_branchesBelow (fields : List Field) (levels : Nat) (a : String) :
    q.HangsOff a (q.branchesBelow fields levels a) := by
  induction levels generalizing a with
  | zero => exact .mk (List.nil_sublist _) (List.forall_mem_nil _)
  | succ levels ih =>
    rw [branchesBelow]
    refine .mk (map_join_filterMap_sublist _ _ _) fun b hb => ?_
    obtain ⟨j, -, hof⟩ := List.mem_filterMap.1 hb
    obtain ⟨hjoin, hnested⟩ := join_of_of? hof
    rw [hjoin, hnested]
    exact ih _

theorem below_child (hk : k ∈ q.childrenOf j.toEntityAlias) (hj : j ∈ q.joins) : q.Below j k.toEntityAlias := by
  obtain ⟨i, hi, hparent⟩ := mem_childrenOf.1 hk
  exact .step hi (hparent ▸ .self hj)

theorem Wanted.of_child (hk : k ∈ q.childrenOf j.toEntityAlias) (hj : j ∈ q.joins) (h : q.Wanted k) : q.Wanted j := by
  obtain ⟨f, hf, hb⟩ := h
  exact ⟨f, hf, (below_child hk hj).trans hb⟩

/-- Nothing is expanded that nobody asks for. -/
theorem Valid.wanted_of_asked (h : q.Valid) (hj : j ∈ q.joins) {levels : Nat}
    (hne : QueryDesk.selectedNames q.distinctFields j.toEntityAlias ≠ [] ∨
      q.expandsBelow q.distinctFields levels j.toEntityAlias ≠ []) : q.Wanted j := by
  induction levels generalizing j with
  | zero =>
    rcases hne with hselect | hnested
    · by_contra hwanted
      refine hselect ((h.selectedNames_eq_nil _).2 fun f hf halias => hwanted ⟨f, hf, ?_⟩)
      exact halias ▸ .self hj
    · exact absurd rfl hnested
  | succ levels ih =>
    rcases hne with hselect | hnested
    · exact ih hj (.inl hselect)
    · obtain ⟨e, he⟩ := List.exists_mem_of_ne_nil _ hnested
      obtain ⟨k, hk, hof⟩ := List.mem_filterMap.1 he
      obtain ⟨-, hasked⟩ := Expand.asked_of_of?_eq_some hof
      exact (ih ((q.childrenOf_sublist _).subset hk) hasked).of_child hk hj

/-- The joins that are expanded below an alias have different navigation names. -/
def ApartBelow (q : Query) (a : String) : Prop :=
  ∀ j ∈ q.childrenOf a, ∀ k ∈ q.childrenOf a, q.Wanted j → q.Wanted k → j.navigation = k.navigation → j = k

namespace Valid

theorem apart_expandsBelow (h : q.Valid) (hall : ∀ a, q.Reaches a → q.ApartBelow a) (levels : Nat) (ha : q.Reaches a) :
    Apart (q.expandsBelow q.distinctFields levels a) := by
  induction levels generalizing a with
  | zero => exact .mk List.nodup_nil (List.forall_mem_nil _)
  | succ levels ih =>
    have hmem {j : Join} (hj : j ∈ q.childrenOf a) : j ∈ q.joins := (q.childrenOf_sublist a).subset hj
    constructor
    · rw [Query.expandsBelow, List.Nodup, List.pairwise_map, List.pairwise_filterMap]
      -- a repeated name would belong to two joins, both of them asked for since both are expanded
      refine (h.nodup_childrenOf a).imp_of_mem fun {j k} hj hk hne e he e' he' heq => hne ?_
      obtain ⟨rfl, hasked⟩ := Expand.asked_of_of?_eq_some he
      obtain ⟨rfl, hasked'⟩ := Expand.asked_of_of?_eq_some he'
      have hwj := h.wanted_of_asked (hmem hj) hasked
      have hwk := h.wanted_of_asked (hmem hk) hasked'
      exact hall a ha j hj k hk hwj hwk heq
    · intro e he
      obtain ⟨j, hj, hof⟩ := List.mem_filterMap.1 he
      obtain ⟨rfl, -⟩ := Expand.asked_of_of?_eq_some hof
      exact ih (h.reaches_of_mem_childrenOf ha hj)

/-- What is expanded below a join is nested in what is expanded above it. -/
theorem apart_treeBelow (h : q.Valid) (hq : Apart q.expands) (ha : q.Reaches a) (hk : k ∈ q.childrenOf a)
    (hw : q.Wanted k) : Apart (q.treeBelow a) := by
  -- down from the primary alias: the tree below a join is nested in the expansion of the join
  induction ha using h.reaches_induction generalizing k with
  | primary => exact hq
  | child a j ha hj ih =>
    have hwj : q.Wanted j := hw.of_child hk ((q.childrenOf_sublist a).subset hj)
    obtain ⟨e, he, -, -, hnested⟩ := h.exists_expand_of_wanted ha hj hwj
    cases ih hj hwj with
    | mk _ nested => exact hnested ▸ nested e he

theorem apartBelow (h : q.Valid) (hq : Apart q.expands) (ha : q.Reaches a) : q.ApartBelow a := by
  intro j hj k hk hwj hwk heq
  by_contra hne
  cases h.apart_treeBelow hq ha hj hwj with
  | mk names _ =>
    rw [h.treeBelow_eq ha, List.Nodup, List.pairwise_map, List.pairwise_filterMap] at names
    -- of two joins either may come first
    have hdiffer := @List.Pairwise.forall _ _ _ ⟨fun _ _ hxy e he e' he' heq => hxy e' he' e he heq.symm⟩ names
    exact hdiffer hj hk hne _ (h.of?_of_wanted ha hj hwj) _ (h.of?_of_wanted ha hk hwk) heq

end Valid

/-- The expansions beside each other in a request belong to different joins that hang off one alias. All over the request
no alias has two expansions, an expansion selects the fields of its alias, and the joins that are expanded are those that
reach the primary alias and are asked for. At no level is a navigation name repeated exactly if no two of these joins
hang off one alias under the same name. -/
theorem apart_expand_iff (q : Query) (page pageSize : Nat) (countOnly : Bool) (h : q.validate = .ok ()) :
    ∃ o, readOptions (q.compile page pageSize countOnly) = some o ∧
      o.expand = expandAll q.branches ∧ q.HangsOff q.primaryAlias q.branches ∧
      ((nodesAll [] q.branches).map fun n => n.join.toEntityAlias).Nodup ∧
      (∀ n ∈ nodesAll [] q.branches,
        n.select = (q.distinctFields.filter (·.entityAlias == n.join.toEntityAlias)).map (·.fieldName)) ∧
      (∀ j, (∃ n ∈ nodesAll [] q.branches, n.join = j) ↔ j ∈ q.joins ∧ q.Reaches j.toEntityAlias ∧ q.Wanted j) ∧
      (Apart o.expand ↔ ∀ a, q.Reaches a → ∀ j ∈ q.childrenOf a, ∀ k ∈ q.childrenOf a, q.Wanted j → q.Wanted k →
        j.navigation = k.navigation → j = k) := by
  have hq := validate_eq_ok_iff.1 h
  refine ⟨q.options page pageSize countOnly, (hq.options page pageSize countOnly).readOptions_render,
    (expandAll_branchesBelow _ _ _).symm, hangsOff_branchesBelow _ _ _, hq.nodup_nodesAll_branches, fun n hn => ?_,
    fun j => ⟨?_, ?_⟩, ?_, ?_⟩
  · obtain ⟨-, -, -, hnode⟩ := hq.mem_nodesAll_branches.1 hn
    rw [hnode]
    exact hq.selectedNames _
  · rintro ⟨n, hn, rfl⟩
    obtain ⟨hj, hr, hw, -⟩ := hq.mem_nodesAll_branches.1 hn
    exact ⟨hj, hr, hw⟩
  · rintro ⟨hj, hr, hw⟩
    exact ⟨q.node j, hq.mem_nodesAll_branches.2 ⟨hj, hr, hw, rfl⟩, rfl⟩
  · exact fun hapart a ha => hq.apartBelow hapart ha
  · exact fun hall => hq.apart_expandsBelow hall _ .primary

theorem apart_expand_iff_sample : sample.validate = .ok () ∧
    ∃ o, readOptions (sample.compile 1 50 false) = some o ∧ Apart o.expand := by
  obtain ⟨o, ho, -, -, -, -, -, hapart⟩ := apart_expand_iff sample 1 50 false rfl
  have hnames : (sample.joins.map Join.navigation).Nodup := by decide
  refine ⟨rfl, o, ho, hapart.2 fun a _ j hj k hk _ _ heq => ?_⟩
  exact List.inj_on_of_nodup_map hnames ((sample.childrenOf_sublist a).subset hj)
    ((sample.childrenOf_sublist a).subset hk) heq

/-- Accounts with their primary contact, joined twice. -/
def contactTwice : Query where
  environmentId := "dev"
  primaryEntity := "account"
  primaryEntityAlias := none
  fields := [⟨"main", "name", none, none⟩, ⟨"pc", "fullname", none, none⟩, ⟨"pc2", "jobtitle", none, none⟩]
  givenJoins := some [⟨"main", "primarycontactid", "contact", "pc", "contactid", none, none⟩,
    ⟨"main", "primarycontactid", "contact", "pc2", "contactid", none, none⟩]
  givenFilters := none
  givenSorts := none
  top := none

/-- Two joins over one lookup are expanded beside each other under one name. -/
theorem lookup_expanded_twice :
    ¬(∀ (q : Query) (page pageSize : Nat) (countOnly : Bool), q.validate = .ok () →
      ∃ o, readOptions (q.compile page pageSize countOnly) = some o ∧ Apart o.expand) ∧
    contactTwice.validate = .ok () ∧
    contactTwice.compile 1 50 false = "?$count=true&$select=name&" ++
      "$expand=primarycontact($select=fullname),primarycontact($select=jobtitle)&$top=50" := by
  refine ⟨fun hall => ?_, rfl, by decide⟩
  obtain ⟨o, ho, hapart⟩ := hall contactTwice 1 50 false rfl
  have hvalid : contactTwice.Valid := validate_eq_ok_iff.1 rfl
  have hoptions := (hvalid.options 1 50 false).readOptions_render
  obtain rfl := Option.some.inj (ho.symm.trans hoptions)
  cases hapart with
  | mk names _ => exact absurd names (by decide)

end Query

end QueryDesk
