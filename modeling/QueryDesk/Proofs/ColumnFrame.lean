import QueryDesk.Proofs.JoinedCells

/-!
# What a column depends on

Two records that differ in one requested value give rows that differ in one cell, as long as no alias of a join names
an object that is not the join's own one (`Query.AliasesApart`): the walk from a record to the object of an alias looks
under the alias first, and an alias that is the navigation name of another join makes a column show that other entity.

The main steps: different aliases have different navigation names down to them (`Valid.eq_of_navigations_eq`), a
record of the requested shape holds an object at the end of them (`Valid.shaped_at`), and the walk ends at that
object (`Valid.expanded_eq`). So a cell shows the value at its own place, and of two such places neither lies
inside the other.
-/

namespace QueryDesk

/-! ### Paths in records -/

theorem Json.at?_append (j : Json) (p p' : List String) : j.at? (p ++ p') = (j.at? p).bind (·.at? p') := by
  induction p generalizing j with
  | nil => rfl
  | cons name p ih =>
    rw [List.cons_append, Json.at?, Json.at?]
    cases j.member? name with
    | none => rfl
    | some v => exact ih v

theorem Json.at?_object_cons (ms : Members) (name : String) (p : List String) :
    (Json.object ms).at? (name :: p) = (ms.get? name).bind (·.at? p) := rfl

theorem Json.at?_object_singleton (ms : Members) (name : String) : (Json.object ms).at? [name] = ms.get? name := by
  rw [Json.at?_object_cons]
  cases ms.get? name <;> rfl

/-- A path goes on only from an object. -/
theorem Json.eq_object_of_at? {j v : Json} {p : List String} (hp : p ≠ []) (h : j.at? p = some v) :
    ∃ ms, j = .object ms := by
  obtain ⟨name, rest, rfl⟩ := List.exists_cons_of_ne_nil hp
  cases j with
  | object ms => exact ⟨ms, rfl⟩
  | _ => cases h

namespace OData

/-- An object holds what is asked for: a value that is not null for every selected field, and for every expanded
navigation property an object that holds what is asked for in it. No navigation property shares its name with a
field selected beside it. There may be other members, such as labels. -/
inductive Shaped : List String → List Expand → Members → Prop
  | mk {select : List String} {expand : List Expand} {ms : Members}
      (values : ∀ name ∈ select, ∃ v, ms.get? name = some v ∧ v.isNull = false)
      (apart : ∀ e ∈ expand, e.navigation ∉ select)
      (objects : ∀ e ∈ expand, ∃ ns, ms.get? e.navigation = some (.object ns))
      (nested : ∀ e ∈ expand, ∀ ns, ms.get? e.navigation = some (.object ns) → Shaped e.select e.nested ns) :
      Shaped select expand ms

/-- An expansion is left out only if it asks for nothing. -/
theorem Expand.of?_eq_some {n : String} {select : List String} {nested : List Expand}
    (h : select ≠ [] ∨ nested ≠ []) : Expand.of? n select nested = some (.mk n select nested) := by
  rw [Expand.of?, if_neg]
  intro hempty
  obtain ⟨hselect, hnested⟩ := Bool.and_eq_true_iff.1 hempty
  rcases h with h | h
  · exact h (List.isEmpty_iff.1 hselect)
  · exact h (List.isEmpty_iff.1 hnested)

theorem not_isIdentifier_formattedValueKey (name : String) : ¬Text.isIdentifier (formattedValueKey name) = true := by
  intro hid
  refine Text.isIdentifier_not_mem hid (c := '@') (by decide) ?_
  rw [formattedValueKey, String.toList_append]
  exact List.mem_append_right _ (by decide)

/-- The record holds what a request asks for. -/
def Options.AnsweredBy (o : Options) (record : Members) : Prop := Shaped o.select o.expand record

/-- Two objects that differ at most in one field, or in its label, of the object at the end of a path. -/
inductive DifferAt (fieldName : String) : List String → Members → Members → Prop
  | here {ms ms' : Members}
      (others : ∀ n, n ≠ fieldName → n ≠ formattedValueKey fieldName → ms.get? n = ms'.get? n) :
      DifferAt fieldName [] ms ms'
  | inside {name : String} {path : List String} {ms ms' ns ns' : Members}
      (object : ms.get? name = some (.object ns)) (object' : ms'.get? name = some (.object ns'))
      (others : ∀ n, n ≠ name → ms.get? n = ms'.get? n) (nested : DifferAt fieldName path ns ns') :
      DifferAt fieldName (name :: path) ms ms'

/-- What stands neither inside the value or its label nor on the way to them is the same in both. -/
theorem DifferAt.at?_eq {fieldName : String} {p t : List String} {ms ms' : Members}
    (h : DifferAt fieldName p ms ms') (hvalue : ¬p ++ [fieldName] <+: t)
    (hlabel : ¬p ++ [formattedValueKey fieldName] <+: t) (hway : ¬t <+: p) :
    (Json.object ms).at? t = (Json.object ms').at? t := by
  induction h generalizing t with
  | here others =>
    cases t with
    | nil => exact absurd (List.prefix_refl _) hway
    | cons n t =>
      have hname : n ≠ fieldName := by
        rintro rfl
        exact hvalue ⟨t, rfl⟩
      have hkey : n ≠ formattedValueKey fieldName := by
        rintro rfl
        exact hlabel ⟨t, rfl⟩
      rw [Json.at?_object_cons, Json.at?_object_cons, others n hname hkey]
  | @inside name path ms ms' ns ns' object object' others _ ih =>
    cases t with
    | nil => exact absurd List.nil_prefix hway
    | cons n t =>
      rw [Json.at?_object_cons, Json.at?_object_cons]
      by_cases hn : n = name
      · subst hn
        rw [List.cons_append, List.cons_prefix_cons] at hvalue hlabel
        rw [List.cons_prefix_cons] at hway
        rw [object, object']
        exact ih (fun hp => hvalue ⟨rfl, hp⟩) (fun hp => hlabel ⟨rfl, hp⟩) (fun hp => hway ⟨rfl, hp⟩)
      · rw [others n hn]

end OData

open OData

namespace Query

variable {q : Query} {a b c : String} {j : Join} {ms : Members}

/-! ### Navigation names down to an alias -/

/-- The navigation names on the way to an alias. -/
def navigations (q : Query) (a : String) : List String := (q.joinPath a).map Join.navigation

theorem navigations_primary (q : Query) : q.navigations q.primaryAlias = [] := by
  rw [navigations, joinPath_primary, List.map_nil]

theorem Reaches.eq_primary_or_child (ha : q.Reaches a) :
    a = q.primaryAlias ∨ ∃ b j, q.Reaches b ∧ j ∈ q.childrenOf b ∧ a = j.toEntityAlias := by
  obtain ⟨is, his⟩ := ha
  cases his with
  | primary => exact .inl rfl
  | step _ index join parent =>
    exact .inr ⟨_, _, ⟨_, parent⟩, mem_childrenOf.2 ⟨_, join, rfl⟩, (alias_of_joinIndex? index join).symm⟩

namespace Valid

theorem joinPath_of_mem_childrenOf (h : q.Valid) (ha : q.Reaches a) (hj : j ∈ q.childrenOf a) :
    q.joinPath j.toEntityAlias = q.joinPath a ++ [j] := by
  obtain ⟨is, his⟩ := ha
  exact h.joinPath_child his hj

theorem navigations_of_mem_childrenOf (h : q.Valid) (ha : q.Reaches a) (hj : j ∈ q.childrenOf a) :
    q.navigations j.toEntityAlias = q.navigations a ++ [j.navigation] := by
  rw [navigations, h.joinPath_of_mem_childrenOf ha hj, List.map_append, List.map_singleton, navigations]

theorem reaches_of_mem_childrenOf (h : q.Valid) (ha : q.Reaches a) (hj : j ∈ q.childrenOf a) :
    q.Reaches j.toEntityAlias := by
  obtain ⟨is, his⟩ := ha
  obtain ⟨i, -, hasc⟩ := h.ascent_child his hj
  exact ⟨i :: is, hasc⟩

/-- What holds of the primary alias and passes from an alias to the joins that hang off it holds of every alias that
reaches the primary one. -/
theorem reaches_induction (h : q.Valid) {P : (a : String) → q.Reaches a → Prop}
    (primary : P q.primaryAlias .primary)
    (child : ∀ a j, (ha : q.Reaches a) → (hj : j ∈ q.childrenOf a) → P a ha →
      P j.toEntityAlias (h.reaches_of_mem_childrenOf ha hj))
    {a : String} (ha : q.Reaches a) : P a ha := by
  obtain ⟨is, his⟩ := ha
  induction his with
  | primary => exact primary
  | @step a i j is _ index join parent ih =>
    obtain rfl := alias_of_joinIndex? index join
    exact child _ j ⟨is, parent⟩ (mem_childrenOf.2 ⟨i, join, rfl⟩) ih

/-- Where siblings have different navigation properties, the navigation names tell aliases apart. -/
theorem eq_of_navigations_eq (h : q.Valid) (hs : ∀ a, ((q.childrenOf a).map Join.navigation).Nodup)
    (ha : q.Reaches a) (hb : q.Reaches b) (heq : q.navigations a = q.navigations b) : a = b := by
  induction ha using h.reaches_induction generalizing b with
  | primary =>
    rcases hb.eq_primary_or_child with rfl | ⟨c, k, hc, hk, rfl⟩
    · rfl
    · rw [navigations_primary, h.navigations_of_mem_childrenOf hc hk] at heq
      exact absurd heq.symm (List.append_ne_nil_of_right_ne_nil _ (List.cons_ne_nil _ _))
  | child a j ha hj ih =>
    rw [h.navigations_of_mem_childrenOf ha hj] at heq
    rcases hb.eq_primary_or_child with rfl | ⟨c, k, hc, hk, rfl⟩
    · rw [navigations_primary] at heq
      exact absurd heq (List.append_ne_nil_of_right_ne_nil _ (List.cons_ne_nil _ _))
    · rw [h.navigations_of_mem_childrenOf hc hk] at heq
      obtain ⟨hparents, hlast⟩ := List.append_inj' heq rfl
      obtain rfl : a = c := ih hc hparents
      have hjk : j = k := List.inj_on_of_nodup_map (hs a) hj hk (List.cons.inj hlast).1
      rw [hjk]

/-- Every join of a path hangs off the alias that the joins before it lead to. -/
theorem exists_of_joinPath_eq (h : q.Valid) (hc : q.Reaches c) {js rest : List Join}
    (heq : q.joinPath c = js ++ j :: rest) :
    ∃ a, q.Reaches a ∧ q.joinPath a = js ∧ j ∈ q.childrenOf a ∧ q.Below j c := by
  induction hc using h.reaches_induction generalizing rest with
  | primary =>
    rw [joinPath_primary] at heq
    exact absurd heq.symm (List.append_ne_nil_of_right_ne_nil _ (List.cons_ne_nil _ _))
  | child b k hb hk ih =>
    rw [h.joinPath_of_mem_childrenOf hb hk] at heq
    obtain ⟨i, hi, hparent⟩ := mem_childrenOf.1 hk
    rcases List.eq_nil_or_concat rest with rfl | ⟨rest, l, rfl⟩
    · obtain ⟨hjs, hlast⟩ := List.append_inj' heq rfl
      obtain rfl : k = j := (List.cons.inj hlast).1
      exact ⟨b, hb, hjs, hk, .self (List.mem_of_getElem? hi)⟩
    · rw [List.concat_eq_append, ← List.cons_append, ← List.append_assoc] at heq
      obtain ⟨hjs, -⟩ := List.append_inj' heq rfl
      obtain ⟨a, ha, hpath, hj, hbelow⟩ := ih hjs
      exact ⟨a, ha, hpath, hj, .step hi (hparent ▸ hbelow)⟩

theorem below_of_mem_joinPath (h : q.Valid) (hc : q.Reaches c) (hj : j ∈ q.joinPath c) : q.Below j c := by
  obtain ⟨js, rest, heq⟩ := List.append_of_mem hj
  obtain ⟨-, -, -, -, hbelow⟩ := h.exists_of_joinPath_eq hc heq
  exact hbelow

/-- Navigation names that go on behind those of an alias do so with a join that hangs off it. -/
theorem exists_child_of_navigations (h : q.Valid) (hs : ∀ a, ((q.childrenOf a).map Join.navigation).Nodup)
    (ha : q.Reaches a) (hc : q.Reaches c) {name : String} {rest : List String}
    (heq : q.navigations c = q.navigations a ++ name :: rest) :
    ∃ j ∈ q.childrenOf a, j.navigation = name ∧ q.Below j c := by
  obtain ⟨js, js', hpath, hjs, hjs'⟩ := List.map_eq_append_iff.1 heq
  obtain ⟨j, rest', rfl, hname, -⟩ := List.map_eq_cons_iff.1 hjs'
  obtain ⟨b, hb, hbpath, hj, hbelow⟩ := h.exists_of_joinPath_eq hc hpath
  have hnav : q.navigations b = q.navigations a := by rw [navigations, hbpath, hjs]
  obtain rfl : b = a := h.eq_of_navigations_eq hs hb ha hnav
  exact ⟨j, hj, hname, hbelow⟩

end Valid

/-! ### The object of an alias -/

/-- What is expanded below an alias. -/
def treeBelow (q : Query) (a : String) : List Expand := q.expandsBelow q.distinctFields (q.joins.length + 1) a

namespace Valid

theorem treeBelow_eq (h : q.Valid) (ha : q.Reaches a) :
    q.treeBelow a = (q.childrenOf a).filterMap fun j =>
      Expand.of? j.navigation (QueryDesk.selectedNames q.distinctFields j.toEntityAlias)
        (q.treeBelow j.toEntityAlias) := by
  rw [treeBelow, Query.expandsBelow]
  refine List.filterMap_congr fun j hj => ?_
  obtain ⟨is, his⟩ := h.reaches_of_mem_childrenOf ha hj
  rw [treeBelow, h.expandsBelow_succ his _ (Nat.le_add_right _ _)]

/-- What is asked for below a join is not left out above it. -/
theorem selected_or_expanded (h : q.Valid) (hj : q.Reaches j.toEntityAlias) (hb : q.Below j a)
    (hne : QueryDesk.selectedNames q.distinctFields a ≠ [] ∨ q.treeBelow a ≠ []) :
    QueryDesk.selectedNames q.distinctFields j.toEntityAlias ≠ [] ∨ q.treeBelow j.toEntityAlias ≠ [] := by
  induction hb with
  | self => exact hne
  | @step i k join hb ih =>
    obtain ⟨is, his⟩ := hj
    obtain ⟨ks, hks⟩ := h.ascent_of_below hb his
    refine ih (.inr fun hnil => ?_)
    rw [h.treeBelow_eq ⟨_, hks⟩, List.filterMap_eq_nil_iff] at hnil
    have hk := hnil k (mem_childrenOf.2 ⟨i, join, rfl⟩)
    rw [Expand.of?_eq_some hne] at hk
    cases hk

theorem of?_of_wanted (h : q.Valid) (ha : q.Reaches a) (hj : j ∈ q.childrenOf a) (hw : q.Wanted j) :
    Expand.of? j.navigation (QueryDesk.selectedNames q.distinctFields j.toEntityAlias) (q.treeBelow j.toEntityAlias) =
      some (.mk j.navigation (QueryDesk.selectedNames q.distinctFields j.toEntityAlias)
        (q.treeBelow j.toEntityAlias)) := by
  obtain ⟨f, hf, hb⟩ := hw
  have hselected : QueryDesk.selectedNames q.distinctFields f.entityAlias ≠ [] := fun hnil =>
    (h.selectedNames_eq_nil f.entityAlias).1 hnil f hf rfl
  exact Expand.of?_eq_some (h.selected_or_expanded (h.reaches_of_mem_childrenOf ha hj) hb (.inl hselected))

/-- A wanted join that hangs off an alias is expanded below it. -/
theorem exists_expand_of_wanted (h : q.Valid) (ha : q.Reaches a) (hj : j ∈ q.childrenOf a) (hw : q.Wanted j) :
    ∃ e ∈ q.treeBelow a, e.navigation = j.navigation ∧
      e.select = QueryDesk.selectedNames q.distinctFields j.toEntityAlias ∧
      e.nested = q.treeBelow j.toEntityAlias := by
  refine ⟨.mk j.navigation (QueryDesk.selectedNames q.distinctFields j.toEntityAlias)
    (q.treeBelow j.toEntityAlias), ?_, rfl, rfl, rfl⟩
  rw [h.treeBelow_eq ha, List.mem_filterMap]
  exact ⟨j, hj, h.of?_of_wanted ha hj hw⟩

theorem wanted_of_mem_joinPath (h : q.Valid) {f : Field} (hf : f ∈ q.distinctFields) (hr : q.Reaches f.entityAlias) :
    ∀ j ∈ q.joinPath f.entityAlias, q.Wanted j :=
  fun _ hj => ⟨f, hf, h.below_of_mem_joinPath hr hj⟩

/-- At the end of the navigation names of an alias stands an object with what is asked for of it. -/
theorem shaped_at (h : q.Valid)
    (hms : Shaped (QueryDesk.selectedNames q.distinctFields q.primaryAlias) q.expands ms) (ha : q.Reaches a)
    (hw : ∀ j ∈ q.joinPath a, q.Wanted j) :
    ∃ ns, (Json.object ms).at? (q.navigations a) = some (.object ns) ∧
      Shaped (QueryDesk.selectedNames q.distinctFields a) (q.treeBelow a) ns := by
  induction ha using h.reaches_induction with
  | primary => exact ⟨ms, by rw [navigations_primary]; rfl, hms⟩
  | child a j ha hj ih =>
    rw [h.joinPath_of_mem_childrenOf ha hj, List.forall_mem_append] at hw
    obtain ⟨ns, hns, hshaped⟩ := ih hw.1
    obtain ⟨e, he, hname, hselect, hnested⟩ := h.exists_expand_of_wanted ha hj (hw.2 j (List.mem_singleton_self j))
    cases hshaped with
    | mk _ _ objects nested =>
      obtain ⟨ns', hns'⟩ := objects e he
      have hshaped' := nested e he ns' hns'
      rw [hselect, hnested] at hshaped'
      refine ⟨ns', ?_, hshaped'⟩
      rw [h.navigations_of_mem_childrenOf ha hj, Json.at?_append, hns, ← hname]
      exact (Json.at?_object_singleton ns e.navigation).trans hns'

/-- Where a field was asked for stands a value that is not null. -/
theorem value_at (h : q.Valid)
    (hms : Shaped (QueryDesk.selectedNames q.distinctFields q.primaryAlias) q.expands ms) {f : Field}
    (hf : f ∈ q.distinctFields) (hr : q.Reaches f.entityAlias) :
    ∃ v, (Json.object ms).at? (q.segments f.entityAlias f.fieldName) = some v ∧ v.isNull = false := by
  obtain ⟨ns, hns, hshaped⟩ := h.shaped_at hms hr (h.wanted_of_mem_joinPath hf hr)
  cases hshaped with
  | mk values =>
    have hname : f.fieldName ∈ QueryDesk.selectedNames q.distinctFields f.entityAlias := by
      rw [h.selectedNames]
      exact List.mem_map_of_mem (List.mem_filter.2 ⟨hf, beq_self_eq_true _⟩)
    obtain ⟨v, hv, hnull⟩ := values _ hname
    refine ⟨v, ?_, hnull⟩
    rw [segments, Json.at?_append]
    show ((Json.object ms).at? (q.navigations f.entityAlias)).bind _ = _
    rw [hns]
    exact (Json.at?_object_singleton ns f.fieldName).trans hv

/-- No navigation property shares its name with a field asked for beside it. -/
theorem navigation_ne_fieldName (h : q.Valid)
    (hms : Shaped (QueryDesk.selectedNames q.distinctFields q.primaryAlias) q.expands ms) {f : Field}
    (hf : f ∈ q.distinctFields) (hr : q.Reaches f.entityAlias) (hj : j ∈ q.childrenOf f.entityAlias)
    (hw : q.Wanted j) : j.navigation ≠ f.fieldName := by
  obtain ⟨ns, -, hshaped⟩ := h.shaped_at hms hr (h.wanted_of_mem_joinPath hf hr)
  obtain ⟨e, he, hname, -, -⟩ := h.exists_expand_of_wanted hr hj hw
  cases hshaped with
  | mk _ apart =>
    rintro heq
    refine apart e he ?_
    rw [hname, heq, h.selectedNames]
    exact List.mem_map_of_mem (List.mem_filter.2 ⟨hf, beq_self_eq_true _⟩)

end Valid

/-! ### The walk by aliases -/

/-- Wherever the record, or the object an expanded join hangs off, holds an object under the alias of the join, it is
the join's own one. -/
def AliasesApart (q : Query) (record : Members) : Prop :=
  ∀ j ∈ q.joins, q.Reaches j.toEntityAlias → q.Wanted j →
    ∀ path ∈ [[], (q.navigations j.toEntityAlias).dropLast], ∀ ns,
      (Json.object record).at? (path ++ [j.toEntityAlias]) = some (.object ns) →
        path ++ [j.toEntityAlias] = q.navigations j.toEntityAlias

end Query

theorem Json.mem_memberNames_of_at? {ms : Members} {p : List String} {name : String} {v : Json}
    (h : (Json.object ms).at? (p ++ [name]) = some v) : name ∈ (Json.object ms).memberNames := by
  induction p generalizing ms with
  | nil =>
    rw [List.nil_append, Json.at?_object_singleton] at h
    exact (Json.memberNames_of_get? h).1
  | cons n p ih =>
    rw [List.cons_append, Json.at?_object_cons] at h
    obtain ⟨w, hw, hv⟩ := Option.bind_eq_some_iff.1 h
    obtain ⟨ns, rfl⟩ := Json.eq_object_of_at? (List.append_ne_nil_of_right_ne_nil p (List.cons_ne_nil _ _)) hv
    exact (Json.memberNames_of_get? hw).2 _ (ih hv)

theorem Query.aliasesApart_of_not_mem {q : Query} {ms : Members}
    (h : ∀ j ∈ q.joins, j.toEntityAlias ∉ (Json.object ms).memberNames) : q.AliasesApart ms :=
  fun j hj _ _ _ _ _ hat => absurd (Json.mem_memberNames_of_at? hat) (h j hj)

theorem objectIn_eq_some {ms ns : Members} {name : String} :
    objectIn ms name = some ns ↔ (Json.object ms).at? [name] = some (.object ns) := by
  rw [Json.at?_object_singleton, objectIn]
  cases ms.get? name with
  | none => simp
  | some v => rw [Option.bind_some, Json.members?_eq_some, Option.some_inj]

theorem follow_append (ms : Members) (js : List Join) (j : Join) :
    follow ms (js ++ [j]) =
      (follow ms js).bind fun ns => objectIn ns j.toEntityAlias <|> objectIn ns j.navigation := by
  induction js generalizing ms with
  | nil =>
    rw [List.nil_append, follow, follow, Option.bind_some]
    cases (objectIn ms j.toEntityAlias <|> objectIn ms j.navigation) <;> rfl
  | cons k js ih =>
    rw [List.cons_append, follow, follow]
    cases (objectIn ms k.toEntityAlias <|> objectIn ms k.navigation) with
    | none => rfl
    | some ns => exact ih ns

namespace Query

variable {q : Query} {a : String} {j : Join} {ms : Members}

namespace Valid

/-- The walk ends at the object at the end of the navigation names. -/
theorem follow_joinPath (h : q.Valid) (hms : q.AliasesApart ms) (ha : q.Reaches a)
    (hw : ∀ j ∈ q.joinPath a, q.Wanted j) {ns : Members}
    (hns : (Json.object ms).at? (q.navigations a) = some (.object ns)) : follow ms (q.joinPath a) = some ns := by
  induction ha using h.reaches_induction generalizing ns with
  | primary =>
    rw [navigations_primary] at hns
    rw [joinPath_primary]
    cases hns
    rfl
  | child a j ha hj ih =>
    have hpath := h.joinPath_of_mem_childrenOf ha hj
    have hnav := h.navigations_of_mem_childrenOf ha hj
    rw [hpath, List.forall_mem_append] at hw
    rw [hnav, Json.at?_append] at hns
    cases hparent : (Json.object ms).at? (q.navigations a) with
    | none => rw [hparent] at hns; cases hns
    | some v =>
      rw [hparent, Option.bind_some] at hns
      obtain ⟨ps, rfl⟩ := Json.eq_object_of_at? (List.cons_ne_nil _ _) hns
      have hown : objectIn ps j.navigation = some ns := objectIn_eq_some.2 hns
      rw [hpath, follow_append, ih hw.1 hparent, Option.bind_some, hown]
      cases hother : objectIn ps j.toEntityAlias with
      | none => rfl
      | some os =>
        -- an object under the alias is the own one, so the alias is the navigation name
        have hat : (Json.object ms).at? (q.navigations a ++ [j.toEntityAlias]) = some (.object os) := by
          rw [Json.at?_append, hparent]
          exact objectIn_eq_some.1 hother
        obtain ⟨i, hi, -⟩ := mem_childrenOf.1 hj
        have hmem : q.navigations a ∈ [[], (q.navigations j.toEntityAlias).dropLast] := by
          rw [hnav, List.dropLast_concat]
          exact List.mem_cons_of_mem _ (List.mem_singleton_self _)
        have heq := hms j (List.mem_of_getElem? hi) (h.reaches_of_mem_childrenOf ha hj)
          (hw.2 j (List.mem_singleton_self j)) _ hmem os hat
        rw [hnav] at heq
        obtain ⟨halias, -⟩ := List.cons.inj (List.append_cancel_left heq)
        rw [halias, hown] at hother
        exact hother.symm

/-- The expanded object of an alias stands at the end of its navigation names. -/
theorem expanded_eq (h : q.Valid) (hms : q.AliasesApart ms) (hj : j ∈ q.joins) (hr : q.Reaches j.toEntityAlias)
    (hw : ∀ k ∈ q.joinPath j.toEntityAlias, q.Wanted k) (hwj : q.Wanted j) {ns : Members}
    (hns : (Json.object ms).at? (q.navigations j.toEntityAlias) = some (.object ns)) :
    q.expanded ms j.toEntityAlias = some ns := by
  have hfollow := h.follow_joinPath hms hr hw hns
  have hne := h.joinPath_ne_nil hj hr
  rw [expanded]
  cases hother : objectIn ms j.toEntityAlias with
  | none =>
    cases hjs : q.joinPath j.toEntityAlias with
    | nil => exact absurd hjs hne
    | cons k ks => rw [hjs] at hfollow; exact hfollow
  | some os =>
    have hat := objectIn_eq_some.1 hother
    have heq := hms j hj hr hwj [] List.mem_cons_self os hat
    rw [List.nil_append] at heq
    rw [heq, hns] at hat
    cases hat
    rfl

/-- The cell of a joined field is the value at the place of the field. -/
theorem cell_eq_of_joined (h : q.Valid) (hms : q.AliasesApart ms)
    (hshaped : Shaped (QueryDesk.selectedNames q.distinctFields q.primaryAlias) q.expands ms) {f : Field}
    (hf : f ∈ q.distinctFields) (hr : q.Reaches f.entityAlias) (hne : f.entityAlias ≠ q.primaryAlias) {v : Json}
    (hv : (Json.object ms).at? (q.segments f.entityAlias f.fieldName) = some v) (hnull : v.isNull = false) :
    q.cell (.object ms) f = v := by
  have hw := h.wanted_of_mem_joinPath hf hr
  obtain ⟨ns, hns, -⟩ := h.shaped_at hshaped hr hw
  obtain ⟨j, hj, halias⟩ : ∃ j ∈ q.joins, j.toEntityAlias = f.entityAlias := by
    rcases hr.eq_primary_or_child with hp | ⟨b, j, -, hj, halias⟩
    · exact absurd hp hne
    · exact ⟨j, (q.childrenOf_sublist b).subset hj, halias.symm⟩
  have hwj : q.Wanted j := ⟨f, hf, halias ▸ .self hj⟩
  have hexpanded : q.expanded ms f.entityAlias = some ns := by
    rw [← halias] at hr hw hns ⊢
    exact h.expanded_eq hms hj hr hw hwj hns
  have hget : Members.get? ns f.fieldName = some v := by
    have hsegments : q.segments f.entityAlias f.fieldName = q.navigations f.entityAlias ++ [f.fieldName] := rfl
    rw [hsegments, Json.at?_append, hns] at hv
    rwa [← Json.at?_object_singleton]
  rw [cell_of_joined ms hne, hexpanded, Option.bind_some, hget, firstGiven_of_not_null hnull]

end Valid

theorem get?_row_eq_none (record : Json) {key : String} (h : ¬∃ g ∈ q.distinctFields, g.key = key) :
    Members.get? (q.row record) key = none := by
  rw [row, Members.ofList, Members.get?_foldl_insert_of_not_mem]
  · rfl
  · rw [List.map_map, List.mem_map]
    exact h

/-! ### Two records -/

/-- Two records of the shape a query asks for, in which one requested value differs. -/
structure OneValueDiffers (q : Query) (o : Options) (f : Field) (record record' : Members) : Prop where
  valid : q.validate = .ok ()
  reaches : ∀ g ∈ q.distinctFields, q.Reaches g.entityAlias
  siblings : ∀ a, ((q.childrenOf a).map Join.navigation).Nodup
  compiled : ∃ page pageSize countOnly, o = q.options page pageSize countOnly
  answered : o.AnsweredBy record
  answered' : o.AnsweredBy record'
  requested : f ∈ q.distinctFields
  differ : DifferAt f.fieldName (q.navigations f.entityAlias) record record'

/-- A place of another field lies neither inside the value that differs or its label nor on the way to them. -/
theorem OneValueDiffers.at?_eq {o : Options} {f g : Field} {record record' : Members}
    (h : q.OneValueDiffers o f record record') (hg : g ∈ q.distinctFields) (hne : g.identity ≠ f.identity) :
    (Json.object record).at? (q.segments g.entityAlias g.fieldName) =
      (Json.object record').at? (q.segments g.entityAlias g.fieldName) := by
  have hq := validate_eq_ok_iff.1 h.valid
  have hfr := h.reaches f h.requested
  have hgr := h.reaches g hg
  obtain ⟨page, pageSize, countOnly, rfl⟩ := h.compiled
  have hsegments : q.segments g.entityAlias g.fieldName = q.navigations g.entityAlias ++ [g.fieldName] := rfl
  refine h.differ.at?_eq ?_ ?_ ?_
  · rw [hsegments, List.prefix_concat_iff]
    rintro (heq | ⟨rest, hrest⟩)
    · obtain ⟨hnav, hname⟩ := List.append_inj' heq rfl
      have halias := hq.eq_of_navigations_eq h.siblings hfr hgr hnav
      exact hne (by rw [Field.identity, Field.identity, halias, (List.cons.inj hname).1])
    · rw [List.append_assoc] at hrest
      obtain ⟨j, hj, hname, hbelow⟩ := hq.exists_child_of_navigations h.siblings hfr hgr hrest.symm
      exact hq.navigation_ne_fieldName h.answered h.requested hfr hj ⟨g, hg, hbelow⟩ hname
  · -- the key of a label is no identifier
    intro hprefix
    have hmem : formattedValueKey f.fieldName ∈ q.segments g.entityAlias g.fieldName :=
      hprefix.subset (List.mem_append_right _ (List.mem_singleton_self _))
    have hid := hq.isIdentifier_segments g.entityAlias (hq.distinctFields g hg) _ hmem
    exact not_isIdentifier_formattedValueKey _ hid
  · rintro ⟨rest, hrest⟩
    rw [hsegments, List.append_assoc] at hrest
    obtain ⟨j, hj, hname, hbelow⟩ := hq.exists_child_of_navigations h.siblings hgr hfr hrest.symm
    exact hq.navigation_ne_fieldName h.answered hg hgr hj ⟨f, h.requested, hbelow⟩ hname

theorem OneValueDiffers.label_eq {o : Options} {f g : Field} {record record' : Members}
    (h : q.OneValueDiffers o f record record') (hne : g.identity ≠ f.identity)
    (hprimary : g.entityAlias = q.primaryAlias) :
    formattedValue? record g.fieldName = formattedValue? record' g.fieldName := by
  have hq := validate_eq_ok_iff.1 h.valid
  have hfr := h.reaches f h.requested
  have hfid := hq.distinctFields f h.requested
  rw [formattedValue?, formattedValue?, ← Json.at?_object_singleton, ← Json.at?_object_singleton]
  refine h.differ.at?_eq ?_ ?_ ?_
  · intro hprefix
    have hmem := hprefix.subset (List.mem_append_right _ (List.mem_singleton_self _))
    rw [List.mem_singleton] at hmem
    exact not_isIdentifier_formattedValueKey _ (hmem ▸ hfid)
  · rintro ⟨rest, hrest⟩
    -- the label stands at the top of the record, so the other field is one of the primary entity too
    have hlen := congrArg List.length hrest
    simp only [List.length_append, List.length_singleton] at hlen
    have hnav : q.navigations f.entityAlias = [] := List.length_eq_zero_iff.1 (by omega)
    have halias : f.entityAlias = q.primaryAlias :=
      hq.eq_of_navigations_eq h.siblings hfr .primary (hnav.trans q.navigations_primary.symm)
    rw [hnav] at hrest
    have hname := (List.cons.inj hrest).1
    rw [formattedValueKey, formattedValueKey, String.append_left_inj] at hname
    exact hne (by rw [Field.identity, Field.identity, halias, hprimary, hname])
  · rintro ⟨rest, hrest⟩
    have hmem : formattedValueKey g.fieldName ∈ q.segments f.entityAlias f.fieldName := by
      show _ ∈ q.navigations f.entityAlias ++ _
      rw [← hrest]
      exact List.mem_append_left _ (List.mem_append_left _ (List.mem_singleton_self _))
    exact not_isIdentifier_formattedValueKey _ (hq.isIdentifier_segments f.entityAlias hfid _ hmem)

theorem OneValueDiffers.cell_eq {o : Options} {f g : Field} {record record' : Members}
    (h : q.OneValueDiffers o f record record') (ha : q.AliasesApart record) (ha' : q.AliasesApart record')
    (hg : g ∈ q.distinctFields) (hne : g.identity ≠ f.identity) :
    q.cell (.object record) g = q.cell (.object record') g := by
  have hq := validate_eq_ok_iff.1 h.valid
  have hgr := h.reaches g hg
  have hat := h.at?_eq hg hne
  by_cases hprimary : g.entityAlias = q.primaryAlias
  · have hvalue : Members.get? record g.fieldName = Members.get? record' g.fieldName := by
      rw [segments, hprimary, joinPath_primary, List.map_nil, List.nil_append] at hat
      rwa [← Json.at?_object_singleton, ← Json.at?_object_singleton]
    rw [cell_of_primary record hprimary, cell_of_primary record' hprimary, h.label_eq hne hprimary, hvalue]
  · obtain ⟨page, pageSize, countOnly, rfl⟩ := h.compiled
    obtain ⟨v, hv, hnull⟩ := hq.value_at h.answered hg hgr
    rw [hq.cell_eq_of_joined ha h.answered hg hgr hprimary hv hnull,
      hq.cell_eq_of_joined ha' h.answered' hg hgr hprimary (hat ▸ hv) hnull]

/-- Opportunities, their accounts, and the contacts of those under an alias of choice. -/
def deals (contact : String) : Query where
  environmentId := "dev"
  primaryEntity := "opportunity"
  primaryEntityAlias := none
  fields := [⟨"main", "name", none, none⟩, ⟨"acct", "name", none, none⟩, ⟨contact, "name", none, none⟩]
  givenJoins := some [⟨"main", "parentaccountid", "account", "acct", "accountid", none, none⟩,
    ⟨"acct", "primarycontactid", "contact", contact, "contactid", none, none⟩]
  givenFilters := none
  givenSorts := none
  top := none

/-- An opportunity with its account and the contact of that. -/
def deal (account : String) : Members :=
  [("name", .text "Deal"),
    ("parentaccount", .object [("name", .text account), ("primarycontact", .object [("name", .text "Ann")])])]

theorem shaped_deal (account : String) :
    Shaped ["name"] [.mk "parentaccount" ["name"] [.mk "primarycontact" ["name"] []]] (deal account) := by
  have hcontact : Shaped ["name"] [] [("name", .text "Ann")] :=
    .mk (List.forall_mem_singleton.2 ⟨.text "Ann", rfl, rfl⟩) (List.forall_mem_nil _) (List.forall_mem_nil _)
      (List.forall_mem_nil _)
  have haccount : Shaped ["name"] [.mk "primarycontact" ["name"] []]
      [("name", .text account), ("primarycontact", .object [("name", .text "Ann")])] := by
    refine .mk (List.forall_mem_singleton.2 ⟨.text account, rfl, rfl⟩) (by decide)
      (List.forall_mem_singleton.2 ⟨_, rfl⟩) (List.forall_mem_singleton.2 fun ns hns => ?_)
    cases hns
    exact hcontact
  refine .mk (List.forall_mem_singleton.2 ⟨.text "Deal", rfl, rfl⟩) (by decide)
    (List.forall_mem_singleton.2 ⟨_, rfl⟩) (List.forall_mem_singleton.2 fun ns hns => ?_)
  cases hns
  exact haccount

theorem differAt_deal (account account' : String) :
    DifferAt "name" ["parentaccount"] (deal account) (deal account') := by
  refine .inside rfl rfl (fun n hn => ?_) (.here fun n hn _ => ?_)
  · rw [deal, deal, Members.get?_cons, Members.get?_cons, Members.get?_cons, Members.get?_cons, if_neg hn, if_neg hn]
  · rw [Members.get?_cons, if_neg hn, Members.get?_cons _ (.text account'), if_neg hn]

theorem oneValueDiffers_deal {contact : String} (hvalid : (deals contact).validate = .ok ())
    (hreaches : ∀ g ∈ (deals contact).distinctFields, (deals contact).Reaches g.entityAlias)
    (hnavigations : ((deals contact).joins.map Join.navigation).Nodup)
    (hselect : ((deals contact).options 1 50 false).select = ["name"])
    (hexpand : ((deals contact).options 1 50 false).expand =
      [.mk "parentaccount" ["name"] [.mk "primarycontact" ["name"] []]])
    (hrequested : ⟨"acct", "name", none, none⟩ ∈ (deals contact).distinctFields)
    (hpath : (deals contact).navigations "acct" = ["parentaccount"]) (account account' : String) :
    (deals contact).OneValueDiffers ((deals contact).options 1 50 false) ⟨"acct", "name", none, none⟩ (deal account)
      (deal account') where
  valid := hvalid
  reaches := hreaches
  siblings a := hnavigations.sublist (((deals contact).childrenOf_sublist a).map _)
  compiled := ⟨1, 50, false, rfl⟩
  answered := by
    rw [Options.AnsweredBy, hselect, hexpand]
    exact shaped_deal account
  answered' := by
    rw [Options.AnsweredBy, hselect, hexpand]
    exact shaped_deal account'
  requested := hrequested
  differ := by
    rw [hpath]
    exact differAt_deal account account'

/-- Two records of the shape a query asks for that differ in one requested value give rows that differ at most in the
cell of its field, if no alias of a join names an object that is not the join's own one. -/
theorem rows_agree_elsewhere {q : Query} {o : Options} {f : Field} {record record' : Members}
    (h : q.OneValueDiffers o f record record') (ha : q.AliasesApart record) (ha' : q.AliasesApart record') :
    ∃ row row' : Row, q.rows [.object record, .object record'] = [row, row'] ∧
      ∀ key, key ≠ f.key → Members.get? row key = Members.get? row' key := by
  have hq := validate_eq_ok_iff.1 h.valid
  refine ⟨q.row (.object record), q.row (.object record'), rfl, fun key hkey => ?_⟩
  by_cases hmem : ∃ g ∈ q.distinctFields, g.key = key
  · obtain ⟨g, hg, rfl⟩ := hmem
    have hne : g.identity ≠ f.identity := by
      intro heq
      obtain ⟨halias, hname⟩ := Prod.mk.inj heq
      exact hkey (by rw [Field.key, Field.key, halias, hname])
    rw [hq.get?_row _ hg, hq.get?_row _ hg, h.cell_eq ha ha' hg hne]
  · rw [get?_row_eq_none _ hmem, get?_row_eq_none _ hmem]

theorem rows_agree_elsewhere_deal :
    (deals "pc").OneValueDiffers ((deals "pc").options 1 50 false) ⟨"acct", "name", none, none⟩ (deal "Contoso")
      (deal "Fabrikam") ∧
    (deals "pc").AliasesApart (deal "Contoso") ∧ (deals "pc").AliasesApart (deal "Fabrikam") ∧
    ∃ row row' : Row, (deals "pc").rows [.object (deal "Contoso"), .object (deal "Fabrikam")] = [row, row'] ∧
      ∀ key, key ≠ "acct.name" → Members.get? row key = Members.get? row' key := by
  have hdiffer : (deals "pc").OneValueDiffers ((deals "pc").options 1 50 false) ⟨"acct", "name", none, none⟩
      (deal "Contoso") (deal "Fabrikam") :=
    oneValueDiffers_deal rfl (by decide) (by decide) rfl rfl (by decide) (by decide) _ _
  have hapart : (deals "pc").AliasesApart (deal "Contoso") := aliasesApart_of_not_mem (by decide)
  have hapart' : (deals "pc").AliasesApart (deal "Fabrikam") := aliasesApart_of_not_mem (by decide)
  exact ⟨hdiffer, hapart, hapart', rows_agree_elsewhere hdiffer hapart hapart'⟩

/-- With the alias `parentaccount` for the contacts, their column shows the accounts: without the condition on aliases
a value can show in two columns. -/
theorem alias_hides_navigation : ¬∀ (q : Query) (o : Options) (f : Field) (record record' : Members),
    q.OneValueDiffers o f record record' →
      ∃ row row' : Row, q.rows [.object record, .object record'] = [row, row'] ∧
        ∀ key, key ≠ f.key → Members.get? row key = Members.get? row' key := by
  intro hall
  have hdiffer : (deals "parentaccount").OneValueDiffers ((deals "parentaccount").options 1 50 false)
      ⟨"acct", "name", none, none⟩ (deal "Contoso") (deal "Fabrikam") :=
    oneValueDiffers_deal rfl (by decide) (by decide) rfl rfl (by decide) (by decide) _ _
  obtain ⟨row, row', hrows, hsame⟩ := hall _ _ _ _ _ hdiffer
  obtain ⟨hrow, hrest⟩ := List.cons.inj hrows
  obtain ⟨hrow', -⟩ := List.cons.inj hrest
  have hkey := hsame "parentaccount.name" (by decide)
  have hshown : Members.get? row "parentaccount.name" = some (.text "Contoso") := by rw [← hrow]; rfl
  have hshown' : Members.get? row' "parentaccount.name" = some (.text "Fabrikam") := by rw [← hrow']; rfl
  rw [hshown, hshown', Option.some_inj, Json.text.injEq] at hkey
  exact absurd hkey (by decide)

end Query
end QueryDesk
