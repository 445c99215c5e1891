import Mathlib.Logic.Relation
import QueryDesk.Proofs.JoinedCells

/-!
# Repeated fields

A query may ask for one field several times. What is asked for, the columns and the rows all come from its distinct
fields, and validation stops at the first field that has a bad name, so a field changes nothing if one with the same
alias and name stands somewhere in front of it (`repeated_fields_ignored`). Where fields are selected, the tree of
expansions has the distinct fields of an alias, each of them once.
-/

namespace QueryDesk

open OData

theorem checkAll_append {α : Type} (check : α → Except Violation Unit) (xs ys : List α) :
    checkAll check (xs ++ ys) = (do checkAll check xs; checkAll check ys) := by
  induction xs with
  | nil => rfl
  | cons x xs ih =>
    rw [List.cons_append, checkAll, checkAll, ih]
    cases check x <;> rfl

/-- What is checked like something in front of it is never the first to fail. -/
theorem checkAll_of_repeated {α : Type} {check : α → Except Violation Unit} {xs ys : List α} {x y : α} (hx : x ∈ xs)
    (hy : check y = check x) : checkAll check (xs ++ y :: ys) = checkAll check (xs ++ ys) := by
  rw [checkAll_append, checkAll_append]
  cases hxs : checkAll check xs with
  | error v => rfl
  | ok =>
    have hok : check y = .ok () := hy.trans (checkAll_eq_ok_iff.1 hxs x hx)
    show checkAll check (y :: ys) = checkAll check ys
    rw [checkAll, hok]
    rfl

namespace Query

variable {q q' : Query} {f g : Field} {xs ys : List Field}

/-! ### Fields behind a field of the same identity -/

theorem dedupFields_of_repeated {seen : List (String × String)}
    (h : g.identity ∈ seen ∨ ∃ f ∈ xs, f.identity = g.identity) :
    dedupFields seen (xs ++ g :: ys) = dedupFields seen (xs ++ ys) := by
  induction xs generalizing seen with
  | nil =>
    rcases h with hseen | ⟨f, hf, -⟩
    · exact if_pos hseen
    · cases hf
  | cons x xs ih =>
    rw [List.cons_append, List.cons_append, dedupFields, dedupFields]
    split
    · next hx =>
      refine ih ?_
      rcases h with hseen | ⟨f, hf, heq⟩
      · exact .inl hseen
      · rcases List.mem_cons.1 hf with rfl | hf
        · exact .inl (heq ▸ hx)
        · exact .inr ⟨f, hf, heq⟩
    · refine congrArg _ (ih ?_)
      -- from here on the identity of `x` has been seen as well
      rcases h with hseen | ⟨f, hf, heq⟩
      · exact .inl (List.mem_cons_of_mem _ hseen)
      · rcases List.mem_cons.1 hf with rfl | hf
        · exact .inl (heq ▸ List.mem_cons_self)
        · exact .inr ⟨f, hf, heq⟩

/-! ### What other fields leave as it is -/

def withFields (q : Query) (fs : List Field) : Query := { q with fields := fs }

theorem climb_withFields (q : Query) (fs : List Field) (seen : List Nat) (a : String) (steps : Nat) :
    (q.withFields fs).climb seen a steps = q.climb seen a steps := by
  induction steps generalizing seen a with
  | zero => rfl
  | succ steps ih =>
    simp only [climb, ih]
    rfl

theorem joinPath_withFields (q : Query) (fs : List Field) : (q.withFields fs).joinPath = q.joinPath := by
  funext a
  rw [joinPath, joinPlaces, climb_withFields]
  rfl

theorem propertyPath_withFields (q : Query) (fs : List Field) : (q.withFields fs).propertyPath = q.propertyPath := by
  funext a fieldName
  rw [propertyPath, joinPath_withFields]
  rfl

theorem filterExpression_withFields (q : Query) (fs : List Field) :
    (q.withFields fs).filterExpression = q.filterExpression := by
  have hpredicate : (q.withFields fs).predicateOf = q.predicateOf := by
    funext f
    rw [predicateOf, propertyPath_withFields]
    rfl
  have hconnected : (q.withFields fs).connected = q.connected := by
    funext f
    rw [connected, hpredicate]
    rfl
  rw [filterExpression, hpredicate, hconnected]
  rfl

theorem expandsBelow_withFields (q : Query) (fs fields : List Field) (levels : Nat) (a : String) :
    (q.withFields fs).expandsBelow fields levels a = q.expandsBelow fields levels a := by
  induction levels generalizing a with
  | zero => rfl
  | succ levels ih =>
    simp only [expandsBelow, ih]
    rfl

theorem checkJoins_withFields (q : Query) (fs : List Field) (seen : List String) (js : List Join) :
    (q.withFields fs).checkJoins seen js = q.checkJoins seen js := by
  induction js generalizing seen with
  | nil => rfl
  | cons j js ih =>
    simp only [checkJoins, ih]
    rfl

theorem cell_withFields (q : Query) (fs : List Field) (record : Json) :
    (q.withFields fs).cell record = q.cell record := by
  have hexpanded : (q.withFields fs).expanded = q.expanded := by
    funext ms a
    rw [expanded, joinPath_withFields]
    rfl
  have hjoined : (q.withFields fs).joinedValue = q.joinedValue := by
    funext ms a fieldName
    rw [joinedValue, hexpanded]
    rfl
  funext f
  rw [cell, hjoined]
  rfl

/-! ### Repeated fields -/

/-- The second query has one more field, somewhere behind a field with the same alias and name. -/
def Repeats (q q' : Query) : Prop :=
  ∃ (xs : List Field) (g : Field) (ys : List Field), q.fields = xs ++ ys ∧
    (∃ f ∈ xs, f.entityAlias = g.entityAlias ∧ f.fieldName = g.fieldName) ∧ q' = { q with fields := xs ++ g :: ys }

/-- The second query asks for the same in all respects, if with other fields. -/
structure Agrees (q q' : Query) : Prop where
  validate : q'.validate = q.validate
  compile : ∀ page pageSize countOnly, q'.compile page pageSize countOnly = q.compile page pageSize countOnly
  columns : q'.columns = q.columns
  rows : ∀ records, q'.rows records = q.rows records

theorem Agrees.refl (q : Query) : q.Agrees q := ⟨rfl, fun _ _ _ => rfl, rfl, fun _ => rfl⟩

theorem Agrees.trans {q'' : Query} (h : q.Agrees q') (h' : q'.Agrees q'') : q.Agrees q'' where
  validate := h'.validate.trans h.validate
  compile page pageSize countOnly := (h'.compile page pageSize countOnly).trans (h.compile page pageSize countOnly)
  columns := h'.columns.trans h.columns
  rows records := (h'.rows records).trans (h.rows records)

/-- Behind validation only the distinct fields are looked at. -/
theorem agrees_withFields {fs : List Field} (hvalidate : (q.withFields fs).validate = q.validate)
    (hdistinct : (q.withFields fs).distinctFields = q.distinctFields) : q.Agrees (q.withFields fs) where
  validate := hvalidate
  compile page pageSize countOnly := by
    have hexpands : (q.withFields fs).expands = q.expands := by
      rw [expands, expandsBelow_withFields, hdistinct]
      rfl
    rw [Query.compile, options, hexpands, hdistinct, filterExpression_withFields, propertyPath_withFields]
    rfl
  columns := by
    rw [Query.columns, hdistinct]
    rfl
  rows records := by
    have hrow : (q.withFields fs).row = q.row := by
      funext record
      rw [row, hdistinct, cell_withFields]
      rfl
    rw [Query.rows, hrow]
    rfl

theorem Repeats.agrees (h : q.Repeats q') : q.Agrees q' := by
  obtain ⟨xs, g, ys, hfields, ⟨f, hf, halias, hname⟩, rfl⟩ := h
  refine agrees_withFields ?_ ?_
  · have hchecks : checkAll (fun f : Field => checkName .field f.fieldName) (xs ++ g :: ys) =
        checkAll (fun f : Field => checkName .field f.fieldName) (xs ++ ys) :=
      checkAll_of_repeated hf (congrArg (checkName .field) hname.symm)
    have hsome : (xs ++ g :: ys).isEmpty = (xs ++ ys).isEmpty := by
      cases xs with
      | nil => cases hf
      | cons x xs => rfl
    rw [Query.validate, Query.validate, hfields, checkJoins_withFields]
    show (do _; ensure (!(xs ++ g :: ys).isEmpty) _; _; _; checkAll _ (xs ++ g :: ys); _) = _
    rw [hchecks, hsome]
    rfl
  · have hidentity : f.identity = g.identity := by
      rw [Field.identity, Field.identity, halias, hname]
    show dedupFields [] (xs ++ g :: ys) = dedupFields [] q.fields
    rw [hfields]
    exact dedupFields_of_repeated (.inr ⟨f, hf, hidentity⟩)

/-! ### Lists of selected fields -/

/-- The names are those of fields with the alias, none of them twice. -/
structure SelectsOnce (q : Query) (a : String) (names : List String) : Prop where
  nodup : names.Nodup
  fields : ∀ name ∈ names, ∃ f ∈ q.fields, f.entityAlias = a ∧ f.fieldName = name

theorem selectsOnce_selectedNames (q : Query) (a : String) : q.SelectsOnce a (selectedNames q.distinctFields a) := by
  have hnames : ((q.distinctFields.filter (·.entityAlias == a)).map Field.fieldName).Nodup := by
    have hnodup := List.pairwise_map.1 (dedupFields_nodup [] q.fields).1
    refine List.pairwise_map.2 ((hnodup.filter _).imp_of_mem fun {f g} hf hg hne heq => hne ?_)
    have hfa := beq_iff_eq.1 (List.mem_filter.1 hf).2
    have hga := beq_iff_eq.1 (List.mem_filter.1 hg).2
    rw [Field.identity, Field.identity, hfa, hga, heq]
  unfold selectedNames
  dsimp only
  split
  · exact ⟨List.nodup_nil, List.forall_mem_nil _⟩
  · refine ⟨hnames, fun name hname => ?_⟩
    obtain ⟨f, hf, rfl⟩ := List.mem_map.1 hname
    obtain ⟨hmem, halias⟩ := List.mem_filter.1 hf
    exact ⟨f, q.distinctFields_sublist.subset hmem, beq_iff_eq.1 halias, rfl⟩

theorem select_of_mem_nodesAll {fields : List Field} {levels : Nat} {a : String} {path : List String} {n : Node}
    (h : n ∈ nodesAll path (q.branchesBelow fields levels a)) : n.select = selectedNames fields n.join.toEntityAlias := by
  induction levels generalizing a path with
  | zero => cases h
  | succ levels ih =>
    rw [branchesBelow, nodesAll_eq_flatMap, List.filterMap_eq_flatMap_toList, List.flatMap_assoc] at h
    obtain ⟨j, -, hn⟩ := List.mem_flatMap.1 h
    rw [nodes_of?] at hn
    split at hn
    · cases hn
    · rcases List.mem_cons.1 hn with rfl | hn
      · rfl
      · exact ih hn

/-- Fields behind ones with the same alias and name, however many and whatever they are titled and aggregated by, change
nothing about a query: whether and why it is refused, what it compiles to, its columns and its rows. In what any query
compiles to, valid or not, no list of selected fields has a field of its alias twice. -/
theorem repeated_fields_ignored (q q' : Query) (h : Relation.ReflTransGen Repeats q q') :
    (q'.validate = q.validate ∧
      (∀ page pageSize countOnly, q'.compile page pageSize countOnly = q.compile page pageSize countOnly) ∧
      q'.columns = q.columns ∧ ∀ records, q'.rows records = q.rows records) ∧
    ∀ (p : Query) (page pageSize : Nat) (countOnly : Bool), ∃ o : Options, p.compile page pageSize countOnly = o.render ∧
      p.SelectsOnce p.primaryAlias o.select ∧ o.expand = expandAll p.branches ∧
      ∀ n ∈ nodesAll [] p.branches, p.SelectsOnce n.join.toEntityAlias n.select := by
  have hagrees : q.Agrees q' := by
    induction h with
    | refl => exact .refl q
    | tail _ hstep ih => exact ih.trans hstep.agrees
  refine ⟨⟨hagrees.validate, hagrees.compile, hagrees.columns, hagrees.rows⟩, fun p page pageSize countOnly => ?_⟩
  refine ⟨p.options page pageSize countOnly, rfl, p.selectsOnce_selectedNames _, (expandAll_branchesBelow _ _ _).symm,
    fun n hn => ?_⟩
  rw [select_of_mem_nodesAll hn]
  exact p.selectsOnce_selectedNames _

/-- The sample with its last field left out, which repeats its second one, and the sample. -/
theorem repeated_fields_ignored_sample :
    Relation.ReflTransGen Repeats { sample with fields := sample.fields.take 4 } sample ∧
    { sample with fields := sample.fields.take 4 }.compile 1 50 false = sample.compile 1 50 false ∧
    sample.columns = { sample with fields := sample.fields.take 4 }.columns ∧
    sample.rows [.object sampleRecord] = { sample with fields := sample.fields.take 4 }.rows [.object sampleRecord] := by
  have hrepeats : Repeats { sample with fields := sample.fields.take 4 } sample :=
    ⟨sample.fields.take 4, ⟨"pc", "fullname", some "Contact", none⟩, [], rfl,
      ⟨⟨"pc", "fullname", none, none⟩, by decide, rfl, rfl⟩, rfl⟩
  have hmany := Relation.ReflTransGen.single hrepeats
  obtain ⟨⟨-, hcompile, hcolumns, hrows⟩, -⟩ := repeated_fields_ignored _ _ hmany
  exact ⟨hmany, (hcompile 1 50 false).symm, hcolumns, hrows _⟩

end Query

end QueryDesk
