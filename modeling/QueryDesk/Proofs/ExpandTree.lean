import Mathlib.Data.List.Nodup
import QueryDesk.OData.Options
import QueryDesk.Proofs.JoinGraph

/-!
# The tree of expansions

`Query.expands` goes down the graph of joins and `Query.joinPath` goes up. For a valid query they agree: below
an alias that reaches the primary one stand the joins whose paths continue its path (`Query.Valid.mem_descent`),
so the tree selects every distinct field of a join that reaches the primary alias, under the navigation names
of its path, and nothing else. The bound on the levels is never met, since no path is longer than the list of
joins.
-/

namespace QueryDesk

namespace OData

/-! ### What a tree selects -/

mutual
/-- The fields an expansion selects, each with the navigation names it stands under. -/
def Expand.selections (path : List String) : Expand → List (List String × String)
  | .mk navigation select nested =>
    select.map (path ++ [navigation], ·) ++ selectionsAll (path ++ [navigation]) nested
termination_by structural e => e

def selectionsAll (path : List String) : List Expand → List (List String × String)
  | [] => []
  | e :: es => e.selections path ++ selectionsAll path es
termination_by structural es => es
end

/-! ### Trees with their joins -/

/-- An expansion together with the join it is written for. -/
inductive Branch
  | mk (join : Join) (select : List String) (nested : List Branch)

namespace Branch

def join : Branch → Join
  | mk j _ _ => j

def nested : Branch → List Branch
  | mk _ _ bs => bs

def of? (join : Join) (select : List String) (nested : List Branch) : Option Branch :=
  if select.isEmpty && nested.isEmpty then none else some (mk join select nested)

end Branch

mutual
def Branch.expand : Branch → Expand
  | .mk j select nested => .mk j.navigation select (expandAll nested)
termination_by structural b => b

def expandAll : List Branch → List Expand
  | [] => []
  | b :: bs => b.expand :: expandAll bs
termination_by structural bs => bs
end

/-- A join that is expanded, with the navigation names down to its own one and the fields selected from it. -/
structure Node where
  path : List String
  join : Join
  select : List String

mutual
def Branch.nodes (path : List String) : Branch → List Node
  | .mk j select nested =>
    ⟨path ++ [j.navigation], j, select⟩ :: nodesAll (path ++ [j.navigation]) nested
termination_by structural b => b

def nodesAll (path : List String) : List Branch → List Node
  | [] => []
  | b :: bs => b.nodes path ++ nodesAll path bs
termination_by structural bs => bs
end

/-- Siblings stand in the order of a list, at all levels. -/
inductive InOrder (js : List Join) : List Branch → Prop
  | mk {bs : List Branch} (siblings : (bs.map Branch.join).Sublist js) (nested : ∀ b ∈ bs, InOrder js b.nested) :
      InOrder js bs

/-! ### Lists of trees -/

theorem selectionsAll_eq_flatMap (path : List String) (es : List Expand) :
    selectionsAll path es = es.flatMap (Expand.selections path) := by
  induction es with
  | nil => rfl
  | cons e es ih => rw [selectionsAll, ih, List.flatMap_cons]

theorem nodesAll_eq_flatMap (path : List String) (bs : List Branch) :
    nodesAll path bs = bs.flatMap (Branch.nodes path) := by
  induction bs with
  | nil => rfl
  | cons b bs ih => rw [nodesAll, ih, List.flatMap_cons]

theorem expandAll_eq_map (bs : List Branch) : expandAll bs = bs.map Branch.expand := by
  induction bs with
  | nil => rfl
  | cons b bs ih => rw [expandAll, ih, List.map_cons]

theorem nodesAll_eq_nil {path : List String} {bs : List Branch} : nodesAll path bs = [] ↔ bs = [] := by
  cases bs with
  | nil => simp [nodesAll]
  | cons b bs =>
    obtain ⟨j, s, xs⟩ := b
    simp [nodesAll, Branch.nodes]

/-- An expansion that is left out selects nothing. -/
theorem selections_of? (path : List String) (n : String) (s : List String) (es : List Expand) :
    (Expand.of? n s es).toList.flatMap (Expand.selections path) =
      s.map (path ++ [n], ·) ++ selectionsAll (path ++ [n]) es := by
  unfold Expand.of?
  split
  · next h =>
    obtain ⟨hs, hes⟩ := Bool.and_eq_true_iff.1 h
    rw [List.isEmpty_iff.1 hs, List.isEmpty_iff.1 hes]
    rfl
  · rw [Option.toList_some, List.flatMap_singleton, Expand.selections]

theorem nodes_of? (path : List String) (j : Join) (s : List String) (bs : List Branch) :
    (Branch.of? j s bs).toList.flatMap (Branch.nodes path) =
      if s = [] ∧ bs = [] then [] else ⟨path ++ [j.navigation], j, s⟩ :: nodesAll (path ++ [j.navigation]) bs := by
  have hempty : (s.isEmpty && bs.isEmpty) = true ↔ s = [] ∧ bs = [] := by
    rw [Bool.and_eq_true, List.isEmpty_iff, List.isEmpty_iff]
  by_cases h : s = [] ∧ bs = []
  · rw [Branch.of?, if_pos (hempty.2 h), if_pos h]
    rfl
  · rw [Branch.of?, if_neg (mt hempty.1 h), if_neg h, Option.toList_some, List.flatMap_singleton, Branch.nodes]

theorem expand_of? (j : Join) (s : List String) (bs : List Branch) :
    (Branch.of? j s bs).map Branch.expand = Expand.of? j.navigation s (expandAll bs) := by
  have hempty : (expandAll bs).isEmpty = bs.isEmpty := by rw [expandAll_eq_map, List.isEmpty_map]
  unfold Branch.of? Expand.of?
  rw [hempty]
  split
  · rfl
  · rw [Option.map_some, Branch.expand]

theorem join_of_of? {j : Join} {s : List String} {bs : List Branch} {b : Branch} (h : Branch.of? j s bs = some b) :
    b.join = j ∧ b.nested = bs := by
  unfold Branch.of? at h
  split at h
  · cases h
  · obtain rfl := Option.some.inj h
    exact ⟨rfl, rfl⟩

theorem map_join_filterMap_sublist (select : Join → List String) (nested : Join → List Branch) (js : List Join) :
    ((js.filterMap fun j => Branch.of? j (select j) (nested j)).map Branch.join).Sublist js := by
  induction js with
  | nil => exact List.Sublist.refl _
  | cons j js ih =>
    rw [List.filterMap_cons]
    cases hof : Branch.of? j (select j) (nested j) with
    | none => exact ih.cons j
    | some b =>
      simp only [List.map_cons, (join_of_of? hof).1]
      exact ih.cons_cons j

end OData

/-- Grouping by different keys keeps what has one of them. -/
theorem List.flatMap_filter_perm {α β : Type} [DecidableEq β] (key : α → β) (xs : List α) {keys : List β}
    (h : keys.Nodup) : (keys.flatMap fun k => xs.filter (key · == k)).Perm (xs.filter (key · ∈ keys)) := by
  induction keys with
  | nil => simp
  | cons k keys ih =>
    obtain ⟨hk, hnd⟩ := List.nodup_cons.1 h
    have hfirst : (xs.filter (key · ∈ k :: keys)).filter (key · == k) = xs.filter (key · == k) := by
      rw [List.filter_filter]
      refine List.filter_congr fun x _ => ?_
      by_cases hx : key x = k <;> simp [hx]
    have hrest : (xs.filter (key · ∈ k :: keys)).filter (fun x => !(key x == k)) = xs.filter (key · ∈ keys) := by
      rw [List.filter_filter]
      refine List.filter_congr fun x _ => ?_
      by_cases hx : key x = k <;> simp [hx, hk]
    rw [List.flatMap_cons]
    refine ((ih hnd).append_left _).trans ?_
    rw [← hfirst, ← hrest]
    exact List.filter_append_perm _ _

open OData

namespace Query

variable {q : Query} {a : String} {j : Join} {is : List Nat}

/-! ### Going down -/

/-- The tree of expansions with the joins they are written for. -/
def branchesBelow (q : Query) (fields : List Field) : Nat → String → List Branch
  | 0, _ => []
  | levels + 1, parent =>
    (q.childrenOf parent).filterMap fun j =>
      Branch.of? j (selectedNames fields j.toEntityAlias) (q.branchesBelow fields levels j.toEntityAlias)

def branches (q : Query) : List Branch := q.branchesBelow q.distinctFields (q.joins.length + 1) q.primaryAlias

theorem expandAll_branchesBelow (fields : List Field) (levels : Nat) (a : String) :
    expandAll (q.branchesBelow fields levels a) = q.expandsBelow fields levels a := by
  induction levels generalizing a with
  | zero => rfl
  | succ levels ih =>
    rw [expandAll_eq_map, branchesBelow, expandsBelow, List.map_filterMap]
    refine List.filterMap_congr fun j _ => ?_
    rw [expand_of?, ih]

/-- The joins below an alias, each in front of those below it. -/
def descent (q : Query) : Nat → String → List Join
  | 0, _ => []
  | levels + 1, a => (q.childrenOf a).flatMap fun j => j :: q.descent levels j.toEntityAlias

theorem mem_childrenOf : j ∈ q.childrenOf a ↔ ∃ i, q.joins[i]? = some j ∧ q.parentOf i j = a := by
  rw [childrenOf, List.mem_map]
  constructor
  · rintro ⟨⟨j, i⟩, hmem, rfl⟩
    obtain ⟨hzip, hparent⟩ := List.mem_filter.1 hmem
    exact ⟨i, List.mem_zipIdx_iff_getElem?.1 hzip, beq_iff_eq.1 hparent⟩
  · rintro ⟨i, hj, hparent⟩
    exact ⟨(j, i), List.mem_filter.2 ⟨List.mem_zipIdx_iff_getElem?.2 hj, beq_iff_eq.2 hparent⟩, rfl⟩

theorem childrenOf_sublist (q : Query) (a : String) : (q.childrenOf a).Sublist q.joins := by
  have h : (q.childrenOf a).Sublist (q.joins.zipIdx.map Prod.fst) := List.filter_sublist.map Prod.fst
  rwa [List.zipIdx_map_fst] at h

theorem Valid.nodup_childrenOf (h : q.Valid) (a : String) : (q.childrenOf a).Nodup :=
  (h.aliases.of_map _).sublist (q.childrenOf_sublist a)

/-- Identifiers are not empty, so what is selected is what has the alias. -/
theorem Valid.selectedNames (h : q.Valid) (a : String) :
    selectedNames q.distinctFields a = (q.distinctFields.filter (·.entityAlias == a)).map (·.fieldName) := by
  unfold QueryDesk.selectedNames
  refine if_neg fun hlone => ?_
  have hempty : "" ∈ (q.distinctFields.filter (·.entityAlias == a)).map (·.fieldName) := by
    rw [hlone]
    exact List.mem_singleton_self _
  obtain ⟨f, hf, hname⟩ := List.mem_map.1 hempty
  exact Text.isIdentifier_ne_empty (h.distinctFields f (List.mem_filter.1 hf).1) hname

theorem Valid.selectedNames_eq_nil (h : q.Valid) (a : String) :
    QueryDesk.selectedNames q.distinctFields a = [] ↔ ∀ f ∈ q.distinctFields, f.entityAlias ≠ a := by
  rw [h.selectedNames, List.map_eq_nil_iff, List.filter_eq_nil_iff]
  simp only [beq_iff_eq, ne_eq]

theorem Valid.isIdentifier_selectedNames (h : q.Valid) (a : String) :
    ∀ x ∈ QueryDesk.selectedNames q.distinctFields a, Text.isIdentifier x = true := by
  intro x hx
  rw [h.selectedNames] at hx
  obtain ⟨f, hf, rfl⟩ := List.mem_map.1 hx
  exact h.distinctFields f (List.mem_filter.1 hf).1

namespace Valid

theorem joinPath_child (h : q.Valid) (ha : q.Ascent a is) (hj : j ∈ q.childrenOf a) :
    q.joinPath j.toEntityAlias = q.joinPath a ++ [j] := by
  obtain ⟨i, hi, rfl⟩ := mem_childrenOf.1 hj
  exact h.joinPath_step hi ⟨is, ha⟩

theorem navigations_child (h : q.Valid) (ha : q.Ascent a is) (hj : j ∈ q.childrenOf a) :
    (q.joinPath j.toEntityAlias).map Join.navigation = (q.joinPath a).map Join.navigation ++ [j.navigation] := by
  rw [h.joinPath_child ha hj, List.map_append, List.map_singleton]

theorem ascent_child (h : q.Valid) (ha : q.Ascent a is) (hj : j ∈ q.childrenOf a) :
    ∃ i, q.joins[i]? = some j ∧ q.Ascent j.toEntityAlias (i :: is) := by
  obtain ⟨i, hi, rfl⟩ := mem_childrenOf.1 hj
  exact ⟨i, hi, h.ascent_step hi ha⟩

/-- Below an alias stand the joins whose ascent goes through it. -/
theorem mem_descent (h : q.Valid) (ha : q.Ascent a is) {levels : Nat} : j ∈ q.descent levels a ↔
    ∃ i ks, q.joins[i]? = some j ∧ q.Ascent j.toEntityAlias (i :: (ks ++ is)) ∧ ks.length < levels := by
  induction levels generalizing a is with
  | zero => simp [descent]
  | succ levels ih =>
    rw [descent, List.mem_flatMap]
    constructor
    · rintro ⟨k, hk, hj⟩
      obtain ⟨i, hi, hasc⟩ := h.ascent_child ha hk
      rcases List.mem_cons.1 hj with rfl | hj
      · exact ⟨i, [], hi, hasc, Nat.succ_pos _⟩
      · obtain ⟨i', ks, hi', hasc', hlt⟩ := (ih hasc).1 hj
        refine ⟨i', ks ++ [i], hi', by simpa using hasc', ?_⟩
        rw [List.length_append]
        exact Nat.succ_lt_succ hlt
    · rintro ⟨i, ks, hi, hasc, hlt⟩
      -- the child of `a` is the last place before `is`, so the places between are split at their end
      rcases List.eq_nil_or_concat ks with rfl | ⟨ks, k, rfl⟩
      · obtain ⟨j', hj', -, hp⟩ := hasc.parent_of_cons
        obtain rfl : j' = j := Option.some.inj (hj'.symm.trans hi)
        exact ⟨j', mem_childrenOf.2 ⟨i, hi, hp.alias_eq ha⟩, List.mem_cons_self⟩
      · rw [List.concat_eq_append, List.append_assoc, List.singleton_append] at hasc
        have hsuffix : (k :: is) <:+ (i :: (ks ++ k :: is)) := ⟨i :: ks, rfl⟩
        obtain ⟨b, hb⟩ := hasc.suffix hsuffix
        obtain ⟨j', hj', -, hp⟩ := hb.parent_of_cons
        rw [List.concat_eq_append, List.length_append] at hlt
        have hbelow := (ih (h.ascent_step hj' hp)).2 ⟨i, ks, hi, hasc, Nat.lt_of_succ_lt_succ hlt⟩
        exact ⟨j', mem_childrenOf.2 ⟨k, hj', hp.alias_eq ha⟩, List.mem_cons_of_mem _ hbelow⟩

/-- The ascents from a join and from below it go through the place of the join. -/
theorem ascent_of_mem_descent (h : q.Valid) {i : Nat} {k : Join} (hasc : q.Ascent j.toEntityAlias (i :: is))
    {levels : Nat} (hk : k ∈ j :: q.descent levels j.toEntityAlias) : ∃ ks, q.Ascent k.toEntityAlias (ks ++ i :: is) := by
  rcases List.mem_cons.1 hk with rfl | hk
  · exact ⟨[], hasc⟩
  · obtain ⟨i', ks, -, hasc', -⟩ := (h.mem_descent hasc).1 hk
    exact ⟨i' :: ks, hasc'⟩

/-- What stands below two different children has different ascents. -/
theorem nodup_descent (h : q.Valid) (ha : q.Ascent a is) (levels : Nat) :
    ((q.descent levels a).map Join.toEntityAlias).Nodup := by
  induction levels generalizing a is with
  | zero => exact List.nodup_nil
  | succ levels ih =>
    rw [descent, List.map_flatMap, List.nodup_flatMap]
    constructor
    · intro j hj
      obtain ⟨i, hi, hasc⟩ := h.ascent_child ha hj
      rw [List.map_cons, List.nodup_cons]
      refine ⟨fun hmem => ?_, ih hasc⟩
      obtain ⟨k, hk, hka⟩ := List.mem_map.1 hmem
      obtain ⟨i', ks, -, hasc', -⟩ := (h.mem_descent hasc).1 hk
      have hlen := congrArg List.length ((hka ▸ hasc').unique hasc)
      simp only [List.length_cons, List.length_append] at hlen
      omega
    · have haliases : ((q.childrenOf a).map Join.toEntityAlias).Nodup :=
        h.aliases.sublist ((q.childrenOf_sublist a).map _)
      refine (List.pairwise_map.1 haliases).imp_of_mem fun {j k} hj hk hne => ?_
      obtain ⟨i, hi, hasc⟩ := h.ascent_child ha hj
      obtain ⟨i', hi', hasc'⟩ := h.ascent_child ha hk
      refine List.disjoint_left.2 fun b hb hb' => hne ?_
      obtain ⟨x, hx, rfl⟩ := List.mem_map.1 hb
      obtain ⟨y, hy, hyx⟩ := List.mem_map.1 hb'
      obtain ⟨ks, hks⟩ := h.ascent_of_mem_descent hasc hx
      obtain ⟨ks', hks'⟩ := h.ascent_of_mem_descent hasc' hy
      rw [hyx] at hks'
      -- both children stand at the same height of the one ascent
      have hsame := List.append_inj_right' (hks.unique hks') rfl
      rw [hsame] at hasc
      exact hasc.alias_eq hasc'

/-! ### The fields that are selected -/

/-- What is left out selects nothing, so the tree selects for every join below what is selected for it. -/
theorem selectionsAll_expandsBelow (h : q.Valid) (ha : q.Ascent a is) (fields : List Field) (levels : Nat) :
    selectionsAll ((q.joinPath a).map Join.navigation) (q.expandsBelow fields levels a) =
      (q.descent levels a).flatMap fun j => (QueryDesk.selectedNames fields j.toEntityAlias).map
        ((q.joinPath j.toEntityAlias).map Join.navigation, ·) := by
  induction levels generalizing a is with
  | zero => rfl
  | succ levels ih =>
    rw [expandsBelow, descent, List.flatMap_assoc, selectionsAll_eq_flatMap, List.filterMap_eq_flatMap_toList,
      List.flatMap_assoc]
    refine List.flatMap_congr fun j hj => ?_
    obtain ⟨i, -, hasc⟩ := h.ascent_child ha hj
    rw [selections_of?, List.flatMap_cons, ← h.navigations_child ha hj, ih hasc]

/-- With as many levels as there are joins, what stands below the primary alias is what reaches it. -/
theorem mem_descent_primary (h : q.Valid) {levels : Nat} (hl : q.joins.length ≤ levels) :
    j ∈ q.descent levels q.primaryAlias ↔ j ∈ q.joins ∧ q.Reaches j.toEntityAlias := by
  rw [h.mem_descent .primary]
  constructor
  · rintro ⟨i, ks, hj, hasc, -⟩
    exact ⟨List.mem_of_getElem? hj, _, hasc⟩
  · rintro ⟨hmem, is, his⟩
    cases is with
    | nil => exact absurd his.eq_primary (h.alias_ne j hmem)
    | cons i is =>
      obtain ⟨j', hj', halias, -⟩ := his.parent_of_cons
      obtain ⟨n, hn⟩ := List.getElem?_of_mem hmem
      obtain ⟨-, rfl⟩ := h.join_unique hj' hn halias
      refine ⟨i, is, hj', by rwa [List.append_nil], ?_⟩
      exact Nat.lt_of_lt_of_le his.length_le hl

theorem selectionsAll_expands (h : q.Valid) : (selectionsAll [] q.expands).Perm
    ((q.distinctFields.filter fun f => ∃ j ∈ q.joins, j.toEntityAlias = f.entityAlias ∧ q.Reaches j.toEntityAlias).map
      fun f => ((q.joinPath f.entityAlias).map Join.navigation, f.fieldName)) := by
  have hall := h.selectionsAll_expandsBelow .primary q.distinctFields (q.joins.length + 1)
  rw [joinPath_primary, List.map_nil] at hall
  have hgroup : ∀ j ∈ q.descent (q.joins.length + 1) q.primaryAlias,
      (QueryDesk.selectedNames q.distinctFields j.toEntityAlias).map
          ((q.joinPath j.toEntityAlias).map Join.navigation, ·) =
        (q.distinctFields.filter (·.entityAlias == j.toEntityAlias)).map
          fun f => ((q.joinPath f.entityAlias).map Join.navigation, f.fieldName) := by
    intro j _
    rw [h.selectedNames, List.map_map]
    refine List.map_congr_left fun f hf => ?_
    rw [Function.comp_apply, beq_iff_eq.1 (List.mem_filter.1 hf).2]
  rw [expands, hall, List.flatMap_congr hgroup, ← List.map_flatMap, ← List.flatMap_map Join.toEntityAlias
    fun a => q.distinctFields.filter (·.entityAlias == a)]
  refine ((List.flatMap_filter_perm Field.entityAlias _ (h.nodup_descent .primary _)).trans ?_).map _
  refine List.Perm.of_eq (List.filter_congr fun f _ => decide_eq_decide.2 ?_)
  rw [List.mem_map]
  constructor
  · rintro ⟨j, hj, ha⟩
    obtain ⟨hmem, hr⟩ := (h.mem_descent_primary (Nat.le_succ _)).1 hj
    exact ⟨j, hmem, ha, hr⟩
  · rintro ⟨j, hmem, ha, hr⟩
    exact ⟨j, (h.mem_descent_primary (Nat.le_succ _)).2 ⟨hmem, hr⟩, ha⟩

end Valid

/-! ### The joins that are expanded -/

def node (q : Query) (j : Join) : Node where
  path := (q.joinPath j.toEntityAlias).map Join.navigation
  join := j
  select := selectedNames q.distinctFields j.toEntityAlias

/-- A field is asked for of the join itself or of one below it. -/
def Wanted (q : Query) (j : Join) : Prop := ∃ f ∈ q.distinctFields, q.Below j f.entityAlias

namespace Valid

theorem wanted_iff (h : q.Valid) {i : Nat} (hi : q.joins[i]? = some j) (hasc : q.Ascent j.toEntityAlias (i :: is))
    {levels : Nat} (hl : q.joins.length ≤ levels + (is.length + 1)) :
    q.Wanted j ↔ (∃ f ∈ q.distinctFields, f.entityAlias = j.toEntityAlias) ∨
      ∃ k ∈ q.descent levels j.toEntityAlias, q.Wanted k := by
  constructor
  · rintro ⟨f, hf, hb⟩
    generalize ha : f.entityAlias = a at hb
    cases hb with
    | self => exact .inl ⟨f, hf, ha⟩
    | @step i' k join parent =>
      obtain ⟨ks, hks⟩ := h.ascent_of_below parent hasc
      have hk := h.ascent_step join hks
      have hlen := hk.length_le
      simp only [List.length_cons, List.length_append] at hlen
      refine .inr ⟨k, (h.mem_descent hasc).2 ⟨i', ks, join, hk, by omega⟩, f, hf, ?_⟩
      exact ha ▸ .self (List.mem_of_getElem? join)
  · rintro (⟨f, hf, ha⟩ | ⟨k, hk, f, hf, hb⟩)
    · exact ⟨f, hf, ha ▸ .self (List.mem_of_getElem? hi)⟩
    · obtain ⟨ks, hk⟩ := h.ascent_of_mem_descent hasc (List.mem_cons_of_mem _ hk)
      have hbelow : q.Below j k.toEntityAlias := hk.below_of_mem ks hi
      exact ⟨f, hf, hbelow.trans hb⟩

open scoped Classical in
/-- While the bound on the levels leaves room for the longest path, the joins of the tree are the wanted ones. -/
theorem nodesAll_branchesBelow (h : q.Valid) (ha : q.Ascent a is) {levels : Nat}
    (hl : q.joins.length ≤ levels + is.length) :
    nodesAll ((q.joinPath a).map Join.navigation) (q.branchesBelow q.distinctFields levels a) =
      ((q.descent levels a).filter (q.Wanted ·)).map q.node := by
  induction levels generalizing a is with
  | zero => rfl
  | succ levels ih =>
    rw [branchesBelow, descent, nodesAll_eq_flatMap, List.filterMap_eq_flatMap_toList, List.flatMap_assoc,
      List.filter_flatMap, List.map_flatMap]
    refine List.flatMap_congr fun j hj => ?_
    obtain ⟨i, hi, hasc⟩ := h.ascent_child ha hj
    have hroom : q.joins.length ≤ levels + (i :: is).length := by rw [List.length_cons]; omega
    have hnested := ih hasc hroom
    have hwanted := h.wanted_iff hi hasc hroom
    -- an expansion is left out exactly when nothing below it is wanted either
    have hnone : QueryDesk.selectedNames q.distinctFields j.toEntityAlias = [] ∧
        q.branchesBelow q.distinctFields levels j.toEntityAlias = [] ↔ ¬q.Wanted j := by
      rw [hwanted, not_or, h.selectedNames_eq_nil, ← nodesAll_eq_nil, hnested, List.map_eq_nil_iff,
        List.filter_eq_nil_iff]
      simp only [decide_eq_true_eq, not_exists, not_and, ne_eq]
    rw [nodes_of?, ← h.navigations_child ha hj, hnested, List.filter_cons]
    by_cases hw : q.Wanted j
    · rw [if_neg (mt hnone.1 (not_not.2 hw)), if_pos (decide_eq_true hw), List.map_cons, node]
    · have hrest : (q.descent levels j.toEntityAlias).filter (q.Wanted ·) = [] :=
        List.map_eq_nil_iff.1 (hnested ▸ nodesAll_eq_nil.2 (hnone.2 hw).2)
      rw [if_pos (hnone.2 hw), if_neg (by simpa using hw), hrest, List.map_nil]

open scoped Classical in
theorem nodesAll_branches (h : q.Valid) : nodesAll [] q.branches =
    ((q.descent (q.joins.length + 1) q.primaryAlias).filter (q.Wanted ·)).map q.node := by
  have hall := h.nodesAll_branchesBelow .primary (Nat.le_succ q.joins.length)
  rwa [joinPath_primary, List.map_nil] at hall

theorem mem_nodesAll_branches (h : q.Valid) {n : Node} : n ∈ nodesAll [] q.branches ↔
    n.join ∈ q.joins ∧ q.Reaches n.join.toEntityAlias ∧ q.Wanted n.join ∧ n = q.node n.join := by
  rw [h.nodesAll_branches, List.mem_map]
  simp only [List.mem_filter, decide_eq_true_eq, h.mem_descent_primary (Nat.le_succ _)]
  constructor
  · rintro ⟨j, ⟨⟨hmem, hr⟩, hw⟩, rfl⟩
    exact ⟨hmem, hr, hw, rfl⟩
  · rintro ⟨hmem, hr, hw, heq⟩
    exact ⟨n.join, ⟨⟨hmem, hr⟩, hw⟩, heq.symm⟩

theorem nodup_nodesAll_branches (h : q.Valid) :
    ((nodesAll [] q.branches).map fun n => n.join.toEntityAlias).Nodup := by
  rw [h.nodesAll_branches, List.map_map]
  exact (h.nodup_descent .primary _).sublist (List.filter_sublist.map _)

end Valid

theorem inOrder_branchesBelow (fields : List Field) (levels : Nat) (a : String) :
    InOrder q.joins (q.branchesBelow fields levels a) := by
  induction levels generalizing a with
  | zero => exact .mk (List.nil_sublist _) (List.forall_mem_nil _)
  | succ levels ih =>
    rw [branchesBelow]
    refine .mk (List.Sublist.trans ?_ (q.childrenOf_sublist a)) fun b hb => ?_
    · exact map_join_filterMap_sublist _ _ _
    · obtain ⟨j, -, hof⟩ := List.mem_filterMap.1 hb
      rw [(join_of_of? hof).2]
      exact ih _

/-! ### The bound on the levels -/

/-- At the length of the list of joins nothing is below any more. -/
theorem Valid.expandsBelow_succ (h : q.Valid) (ha : q.Ascent a is) (fields : List Field) {levels : Nat}
    (hl : q.joins.length ≤ levels + is.length) :
    q.expandsBelow fields (levels + 1) a = q.expandsBelow fields levels a := by
  induction levels generalizing a is with
  | zero =>
    have hnone : q.childrenOf a = [] := List.eq_nil_iff_forall_not_mem.2 fun j hj => by
      obtain ⟨i, -, hasc⟩ := h.ascent_child ha hj
      have hlen := hasc.length_le
      rw [List.length_cons] at hlen
      omega
    simp only [Query.expandsBelow, hnone, List.filterMap_nil]
  | succ levels ih =>
    rw [Query.expandsBelow, Query.expandsBelow]
    refine List.filterMap_congr fun j hj => ?_
    obtain ⟨i, -, hasc⟩ := h.ascent_child ha hj
    rw [ih hasc (by rw [List.length_cons]; omega)]

theorem Valid.expandsBelow_eq_expands (h : q.Valid) {levels : Nat} (hl : q.joins.length ≤ levels) :
    q.expandsBelow q.distinctFields levels q.primaryAlias = q.expands := by
  have hbound : q.expandsBelow q.distinctFields levels q.primaryAlias =
      q.expandsBelow q.distinctFields q.joins.length q.primaryAlias := by
    induction hl with
    | refl => rfl
    | step hl ih => rw [h.expandsBelow_succ .primary _ hl, ih]
  rw [hbound, expands, h.expandsBelow_succ .primary _ (Nat.le_refl _)]

/-- The tree of expansions of a valid query selects the distinct fields of the joins that reach the primary alias,
at the paths that filters and sorts use. A join is expanded when it reaches the primary alias and a distinct field
is asked for of it or below it, once and among its siblings in the order of the joins, and no bound on the levels
that leaves room for all joins changes the tree. -/
theorem selections_perm_joinPaths (q : Query) (h : q.validate = .ok ()) :
    (selectionsAll [] q.expands).Perm
      ((q.distinctFields.filter fun f =>
          ∃ j ∈ q.joins, j.toEntityAlias = f.entityAlias ∧ q.Reaches j.toEntityAlias).map
        fun f => ((q.joinPath f.entityAlias).map Join.navigation, f.fieldName)) ∧
    (∀ a f, q.propertyPath a f = "/".intercalate ((q.joinPath a).map Join.navigation ++ [f])) ∧
    expandAll q.branches = q.expands ∧
    (∀ path j select, ⟨path, j, select⟩ ∈ nodesAll [] q.branches ↔
      (j ∈ q.joins ∧ q.Reaches j.toEntityAlias ∧ ∃ f ∈ q.distinctFields, q.Below j f.entityAlias) ∧
        path = (q.joinPath j.toEntityAlias).map Join.navigation ∧
        select = (q.distinctFields.filter (·.entityAlias == j.toEntityAlias)).map (·.fieldName)) ∧
    ((nodesAll [] q.branches).map fun n => n.join.toEntityAlias).Nodup ∧
    InOrder q.joins q.branches ∧
    ∀ levels, q.joins.length ≤ levels → q.expandsBelow q.distinctFields levels q.primaryAlias = q.expands := by
  have hq := validate_eq_ok_iff.1 h
  refine ⟨hq.selectionsAll_expands, fun a f => rfl, expandAll_branchesBelow _ _ _, fun path j select => ?_,
    hq.nodup_nodesAll_branches, inOrder_branchesBelow _ _ _, fun levels hl => hq.expandsBelow_eq_expands hl⟩
  rw [hq.mem_nodesAll_branches, node, Node.mk.injEq, hq.selectedNames, and_assoc, and_assoc]
  simp only [true_and, Wanted]

theorem selections_perm_joinPaths_sample : sample.validate = .ok () ∧
    (selectionsAll [] sample.expands).Perm
      [(["parentaccount", "primarycontact"], "fullname"), (["parentaccount"], "name")] ∧
    sample.expandsBelow sample.distinctFields 100 sample.primaryAlias = sample.expands :=
  have h := selections_perm_joinPaths sample rfl
  ⟨rfl, h.1, h.2.2.2.2.2.2 100 (by decide)⟩

end Query

end QueryDesk
