import Mathlib.Data.List.Forall2
import Mathlib.Logic.Equiv.Basic
import QueryDesk.Proofs.JoinedCells
import QueryDesk.Proofs.MirroredQueries

/-!
# Aliases are only compared

Validation leaves the aliases of a query open. They tell entities apart and are not sent anywhere: under other aliases
the same ones of which are equal a query compiles to the same request. Its rows have the same cells, each under the key
with the new alias, for records that have no members named like aliases.
-/

namespace QueryDesk

open OData

namespace Query

variable {q q' : Query} {r : String → String}

/-- The query with other aliases. -/
def renamed (r : String → String) (q : Query) : Query :=
  { q with
    primaryEntityAlias := some (r q.primaryAlias)
    fields := q.fields.map (Field.renamed r)
    givenJoins := q.givenJoins.map (·.map (Join.renamed r))
    givenFilters := q.givenFilters.map (·.map (Filter.renamed r))
    givenSorts := q.givenSorts.map (·.map (SortKey.renamed r)) }

theorem joins_renamed (r : String → String) (q : Query) : (q.renamed r).joins = q.joins.map (Join.renamed r) := by
  unfold joins renamed
  cases q.givenJoins <;> rfl

theorem filters_renamed (r : String → String) (q : Query) :
    (q.renamed r).filters = q.filters.map (Filter.renamed r) := by
  unfold filters renamed
  cases q.givenFilters <;> rfl

theorem sorts_renamed (r : String → String) (q : Query) : (q.renamed r).sorts = q.sorts.map (SortKey.renamed r) := by
  unfold sorts renamed
  cases q.givenSorts <;> rfl

theorem mirrors_renamed (hr : Function.Injective r) (hprimary : r q.primaryAlias ≠ "") :
    q.Mirrors (q.renamed r) r id where
  alias_injective := hr
  place_injective := Function.injective_id
  primaryAlias := if_neg hprimary
  fields := rfl
  filters := filters_renamed r q
  sorts := sorts_renamed r q
  length_joins := by rw [joins_renamed, List.length_map]
  join i := by rw [joins_renamed, List.getElem?_map]; rfl
  index a := by
    have hdeclares : ((fun j : Join => j.toEntityAlias == r a) ∘ Join.renamed r) = fun j => j.toEntityAlias == a :=
      funext fun j => hr.beq_eq
    rw [joinIndex?, joinIndex?, joins_renamed, List.findIdx?_map, hdeclares, Option.map_id]
    rfl

/-! ### The request -/

theorem childrenOf_renamed (h : q.Mirrors (q.renamed r) r id) (a : String) :
    (q.renamed r).childrenOf (r a) = (q.childrenOf a).map (Join.renamed r) := by
  have hparent : ((fun p : Join × Nat => (q.renamed r).parentOf p.2 p.1 == r a) ∘ Prod.map (Join.renamed r) id) =
      fun p => q.parentOf p.2 p.1 == a := by
    funext ⟨j, i⟩
    show ((q.renamed r).parentOf (id i) (j.renamed r) == r a) = _
    rw [h.parentOf_eq]
    exact h.alias_injective.beq_eq
  unfold childrenOf
  rw [joins_renamed, List.zipIdx_map, List.filter_map, List.map_map, List.map_map]
  show List.map _ (List.filter ((fun p : Join × Nat => (q.renamed r).parentOf p.2 p.1 == r a) ∘ _) _) = _
  rw [hparent]
  rfl

theorem expandsBelow_renamed (h : q.Mirrors (q.renamed r) r id) (levels : Nat) (a : String) :
    (q.renamed r).expandsBelow (q.renamed r).distinctFields levels (r a) =
      q.expandsBelow q.distinctFields levels a := by
  induction levels generalizing a with
  | zero => rfl
  | succ levels ih =>
    rw [expandsBelow, expandsBelow, childrenOf_renamed h, List.filterMap_map]
    refine List.filterMap_congr fun j _ => ?_
    show Expand.of? j.navigation (selectedNames _ (r j.toEntityAlias)) (expandsBelow _ _ levels (r j.toEntityAlias)) = _
    rw [h.selectedNames_eq, ih]

theorem expands_renamed (h : q.Mirrors (q.renamed r) r id) : (q.renamed r).expands = q.expands := by
  rw [expands, expands, h.length_joins, h.primaryAlias, expandsBelow_renamed h]

/-! ### The rows -/

/-- The aliases of the fields and those that the joins declare. -/
def shownAliases (q : Query) : List String := q.fields.map Field.entityAlias ++ q.joins.map Join.toEntityAlias

/-- Both rows have one cell for each distinct field, with the same value, and the key in the second one has the new
alias. -/
def SameCells (q : Query) (r : String → String) (row row' : Row) : Prop :=
  ∃ value : Field → Json,
    row.Perm (q.distinctFields.map fun f => (f.entityAlias ++ "." ++ f.fieldName, value f)) ∧
    row'.Perm (q.distinctFields.map fun f => (r f.entityAlias ++ "." ++ f.fieldName, value f))

theorem mem_shownAliases_of_field {f : Field} (hf : f ∈ q.fields) : f.entityAlias ∈ q.shownAliases :=
  List.mem_append_left _ (List.mem_map_of_mem hf)

theorem mem_shownAliases_of_join {j : Join} (hj : j ∈ q.joins) : j.toEntityAlias ∈ q.shownAliases :=
  List.mem_append_right _ (List.mem_map_of_mem hj)

theorem cell_renamed (h : q.Mirrors (q.renamed r) r id) {record : Json}
    (hq : ∀ name ∈ q.shownAliases, name ∉ record.memberNames)
    (hq' : ∀ name ∈ (q.renamed r).shownAliases, name ∉ record.memberNames) {f : Field} (hf : f ∈ q.fields) :
    (q.renamed r).cell record (f.renamed r) = q.cell record f := by
  cases hms : record.members? with
  | none =>
    unfold cell
    rw [hms]
  | some ms =>
    obtain rfl := Json.members?_eq_some.1 hms
    have halias : (f.renamed r).entityAlias = r f.entityAlias := rfl
    by_cases hprimary : f.entityAlias = q.primaryAlias
    · have hprimary' : (f.renamed r).entityAlias = (q.renamed r).primaryAlias := by
        rw [halias, hprimary, h.primaryAlias]
      rw [cell_of_primary ms hprimary, cell_of_primary ms hprimary']
      rfl
    · have hprimary' : (f.renamed r).entityAlias ≠ (q.renamed r).primaryAlias := by
        rw [halias, h.primaryAlias]
        exact fun heq => hprimary (h.alias_injective heq)
      -- neither alias is found in the record, so both cells are read along the navigation names
      have hf' : f.renamed r ∈ (q.renamed r).fields := List.mem_map_of_mem hf
      have hexpanded := expanded_bind_get? (hq _ (mem_shownAliases_of_field hf))
        (fun j hj => hq _ (mem_shownAliases_of_join hj)) f.fieldName
      have hexpanded' := expanded_bind_get? (hq' _ (mem_shownAliases_of_field hf'))
        (fun j hj => hq' _ (mem_shownAliases_of_join hj)) f.fieldName
      have hpath : (q.renamed r).joinPath (f.renamed r).entityAlias = (q.joinPath f.entityAlias).map (Join.renamed r) :=
        h.joinPath_eq f.entityAlias
      have hnavigations : ((q.joinPath f.entityAlias).map (Join.renamed r)).map Join.navigation =
          (q.joinPath f.entityAlias).map Join.navigation := by
        rw [List.map_map]
        rfl
      rw [hpath, hnavigations] at hexpanded'
      simp only [List.map_eq_nil_iff] at hexpanded'
      rw [cell_of_joined ms hprimary, cell_of_joined ms hprimary', hexpanded]
      show firstGiven [((q.renamed r).expanded ms (f.renamed r).entityAlias).bind (Members.get? · f.fieldName), _, _] = _
      rw [hexpanded']
      rfl

theorem sameCells_row (h : q.Mirrors (q.renamed r) r id) (hnames : ∀ f ∈ q.fields, '.' ∉ f.fieldName.toList)
    {record : Json} (hq : ∀ name ∈ q.shownAliases, name ∉ record.memberNames)
    (hq' : ∀ name ∈ (q.renamed r).shownAliases, name ∉ record.memberNames) :
    q.SameCells r (q.row record) ((q.renamed r).row record) := by
  have hfields : ∀ f ∈ q.distinctFields, f ∈ q.fields := fun f hf => q.distinctFields_sublist.subset hf
  have hdots : ∀ f ∈ (q.renamed r).distinctFields, '.' ∉ f.fieldName.toList := by
    intro f hf
    rw [h.distinctFields_eq] at hf
    obtain ⟨g, hg, rfl⟩ := List.mem_map.1 hf
    exact hnames g (hfields g hg)
  refine ⟨q.cell record, perm_row (nodup_keys fun f hf => hnames f (hfields f hf)) record, ?_⟩
  have hcells : (q.distinctFields.map fun f => (r f.entityAlias ++ "." ++ f.fieldName, q.cell record f)) =
      (q.renamed r).distinctFields.map fun f => (f.key, (q.renamed r).cell record f) := by
    rw [h.distinctFields_eq, List.map_map]
    refine List.map_congr_left fun f hf => ?_
    rw [Function.comp_apply, cell_renamed h hq hq' (hfields f hf)]
    rfl
  rw [hcells]
  exact perm_row (nodup_keys hdots) record

/-- Under other aliases, different ones for different ones, a query compiles to the same request. The rows of records
without members named like aliases have the same cells under the keys with the new aliases, if no field name has a
dot. -/
theorem compile_renamed (q : Query) (hr : Function.Injective r) (hprimary : r q.primaryAlias ≠ "") :
    (∀ page pageSize countOnly,
      (q.renamed r).compile page pageSize countOnly = q.compile page pageSize countOnly) ∧
    ((∀ f ∈ q.fields, '.' ∉ f.fieldName.toList) → ∀ records : List Json,
      (∀ record ∈ records, ∀ name ∈ record.memberNames,
        name ∉ q.shownAliases ∧ name ∉ (q.renamed r).shownAliases) →
      List.Forall₂ (q.SameCells r) (q.rows records) ((q.renamed r).rows records)) := by
  have h := mirrors_renamed hr hprimary
  refine ⟨fun page pageSize countOnly => ?_, fun hnames records hrecords => ?_⟩
  · rw [compile, compile, h.options_eq, expands_renamed h]
    rfl
  · rw [rows, rows, List.forall₂_map_left_iff, List.forall₂_map_right_iff, List.forall₂_same]
    intro record hrecord
    refine sameCells_row h hnames (fun name hname hmem => ?_) fun name hname hmem => ?_
    · exact (hrecords record hrecord name hmem).1 hname
    · exact (hrecords record hrecord name hmem).2 hname

/-- The primary entity and the contact of its account change their aliases. -/
theorem compile_renamed_sample : Function.Injective (Equiv.swap "main" "pc") ∧
    Equiv.swap "main" "pc" sample.primaryAlias ≠ "" ∧ (∀ f ∈ sample.fields, '.' ∉ f.fieldName.toList) ∧
    (∀ record ∈ [Json.object sampleRecord], ∀ name ∈ record.memberNames,
      name ∉ sample.shownAliases ∧ name ∉ (sample.renamed (Equiv.swap "main" "pc")).shownAliases) ∧
    (sample.renamed (Equiv.swap "main" "pc")).compile 2 50 false = sample.compile 2 50 false ∧
    List.Forall₂ (sample.SameCells (Equiv.swap "main" "pc")) (sample.rows [.object sampleRecord])
      ((sample.renamed (Equiv.swap "main" "pc")).rows [.object sampleRecord]) := by
  have hr : Function.Injective (Equiv.swap "main" "pc") := Equiv.injective _
  have hprimary : Equiv.swap "main" "pc" sample.primaryAlias ≠ "" := by decide
  have hdots : ∀ f ∈ sample.fields, '.' ∉ f.fieldName.toList := by decide
  have hrecords : ∀ record ∈ [Json.object sampleRecord], ∀ name ∈ record.memberNames,
      name ∉ sample.shownAliases ∧ name ∉ (sample.renamed (Equiv.swap "main" "pc")).shownAliases := by decide
  obtain ⟨hcompile, hrows⟩ := compile_renamed sample hr hprimary
  exact ⟨hr, hprimary, hdots, hrecords, hcompile 2 50 false, hrows hdots _ hrecords⟩

end Query

end QueryDesk
