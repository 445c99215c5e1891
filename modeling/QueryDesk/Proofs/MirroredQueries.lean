import Mathlib.Data.List.Basic
import Mathlib.Data.Prod.Basic
import QueryDesk.Proofs.ExpandTree

/-!
# Queries that mirror each other

A query mirrors another one if it says the same under other aliases and with its joins in other places
(`Query.Mirrors`). Neither the aliases as such nor the places matter: the way up from an alias takes the same joins in
both (`Mirrors.joinPath_eq`), so that fields are selected, filtered and sorted at the same paths
(`Mirrors.options_eq`).
-/

namespace QueryDesk

/-! ### Renamed aliases -/

variable {r : String → String}

def Field.renamed (r : String → String) (f : Field) : Field := { f with entityAlias := r f.entityAlias }

def Join.renamed (r : String → String) (j : Join) : Join :=
  { j with fromEntityAlias := r j.fromEntityAlias, toEntityAlias := r j.toEntityAlias }

def Filter.renamed (r : String → String) (f : Filter) : Filter := { f with entityAlias := r f.entityAlias }

def SortKey.renamed (r : String → String) (s : SortKey) : SortKey := { s with entityAlias := r s.entityAlias }

theorem selectedNames_renamed (hr : Function.Injective r) (fields : List Field) (a : String) :
    selectedNames (fields.map (Field.renamed r)) (r a) = selectedNames fields a := by
  have hfilter : ((fields.map (Field.renamed r)).filter (·.entityAlias == r a)).map Field.fieldName =
      (fields.filter (·.entityAlias == a)).map Field.fieldName := by
    rw [List.filter_map, List.map_map]
    exact congrArg _ (List.filter_congr fun f _ => hr.beq_eq)
  unfold selectedNames
  rw [hfilter]

open OData

namespace Query

variable {q q' : Query} {σ : Nat → Nat} {a : String}

theorem dedupFields_renamed (hr : Function.Injective r) (seen : List (String × String)) (fs : List Field) :
    dedupFields (seen.map (Prod.map r id)) (fs.map (Field.renamed r)) = (dedupFields seen fs).map (Field.renamed r) := by
  induction fs generalizing seen with
  | nil => rfl
  | cons f fs ih =>
    have hidentity : (f.renamed r).identity = Prod.map r id f.identity := rfl
    have hseen : (f.renamed r).identity ∈ seen.map (Prod.map r id) ↔ f.identity ∈ seen := by
      rw [hidentity]
      exact List.mem_map_of_injective (hr.prodMap Function.injective_id)
    rw [List.map_cons, dedupFields, dedupFields]
    simp only [hseen]
    split
    · exact ih seen
    · rw [List.map_cons, ← ih (f.identity :: seen), List.map_cons, hidentity]

/-! ### Mirrored joins -/

/-- What `q` says is what `q'` says with the aliases renamed and the join at each place moved to another one. -/
structure Mirrors (q q' : Query) (r : String → String) (σ : Nat → Nat) : Prop where
  alias_injective : Function.Injective r
  place_injective : Function.Injective σ
  primaryAlias : q'.primaryAlias = r q.primaryAlias
  fields : q'.fields = q.fields.map (Field.renamed r)
  filters : q'.filters = q.filters.map (Filter.renamed r)
  sorts : q'.sorts = q.sorts.map (SortKey.renamed r)
  length_joins : q'.joins.length = q.joins.length
  join : ∀ i, q'.joins[σ i]? = q.joins[i]?.map (Join.renamed r)
  index : ∀ a, q'.joinIndex? (r a) = (q.joinIndex? a).map σ

namespace Mirrors

theorem isPrimary_eq (h : q.Mirrors q' r σ) (a : String) : q'.isPrimary (r a) = q.isPrimary a := by
  rw [isPrimary, isPrimary, h.primaryAlias]
  exact h.alias_injective.beq_eq

theorem parentOf_eq (h : q.Mirrors q' r σ) (i : Nat) (j : Join) :
    q'.parentOf (σ i) (j.renamed r) = r (q.parentOf i j) := by
  unfold parentOf
  rw [show (j.renamed r).fromEntityAlias = r j.fromEntityAlias from rfl, h.index]
  cases q.joinIndex? j.fromEntityAlias with
  | none => exact h.primaryAlias
  | some k =>
    by_cases hk : k = i
    · simp [hk, h.primaryAlias]
    · have hσ : σ k ≠ σ i := fun heq => hk (h.place_injective heq)
      simp [hk, hσ]

/-- The climbs step over the same joins, and what one has seen the other has seen. -/
theorem climb_eq (h : q.Mirrors q' r σ) (seen : List Nat) (a : String) (steps : Nat) :
    q'.climb (seen.map σ) (r a) steps = (q.climb seen a steps).map σ := by
  -- on the steps that are left; the places seen so far move along
  induction steps generalizing seen a with
  | zero => rfl
  | succ steps ih =>
    unfold climb
    rw [h.isPrimary_eq, h.index]
    split
    · rfl
    · cases q.joinIndex? a with
      | none => rfl
      | some i =>
        have hseen : σ i ∈ seen.map σ ↔ i ∈ seen := List.mem_map_of_injective h.place_injective
        simp only [Option.map_some, hseen, h.join]
        split
        · rfl
        · cases q.joins[i]? with
          | none => rfl
          | some j =>
            simp only [Option.map_some, List.map_cons, h.parentOf_eq]
            rw [← ih (i :: seen), List.map_cons]

theorem joinPlaces_eq (h : q.Mirrors q' r σ) (a : String) : q'.joinPlaces (r a) = (q.joinPlaces a).map σ := by
  rw [joinPlaces, joinPlaces, h.length_joins, List.map_reverse, ← h.climb_eq []]
  rfl

/-- The way up from an alias takes the same joins. -/
theorem joinPath_eq (h : q.Mirrors q' r σ) (a : String) :
    q'.joinPath (r a) = (q.joinPath a).map (Join.renamed r) := by
  rw [joinPath, joinPath, h.joinPlaces_eq, List.filterMap_map, List.map_filterMap]
  exact List.filterMap_congr fun i _ => h.join i

theorem propertyPath_eq (h : q.Mirrors q' r σ) (a fieldName : String) :
    q'.propertyPath (r a) fieldName = q.propertyPath a fieldName := by
  rw [propertyPath, propertyPath, h.joinPath_eq, List.map_map]
  rfl

theorem mem_childrenOf (h : q.Mirrors q' r σ) {j : Join} (hj : j ∈ q.childrenOf a) :
    j.renamed r ∈ q'.childrenOf (r a) := by
  obtain ⟨i, hi, rfl⟩ := Query.mem_childrenOf.1 hj
  refine Query.mem_childrenOf.2 ⟨σ i, ?_, h.parentOf_eq i j⟩
  rw [h.join, hi]
  rfl

/-! ### Mirrored requests -/

theorem distinctFields_eq (h : q.Mirrors q' r σ) : q'.distinctFields = q.distinctFields.map (Field.renamed r) := by
  rw [distinctFields, distinctFields, h.fields, ← dedupFields_renamed h.alias_injective]
  rfl

theorem selectedNames_eq (h : q.Mirrors q' r σ) (a : String) :
    selectedNames q'.distinctFields (r a) = selectedNames q.distinctFields a := by
  rw [h.distinctFields_eq, selectedNames_renamed h.alias_injective]

theorem predicateOf_eq (h : q.Mirrors q' r σ) (f : Filter) : q'.predicateOf (f.renamed r) = q.predicateOf f := by
  unfold predicateOf
  rw [show (f.renamed r).entityAlias = r f.entityAlias from rfl, h.propertyPath_eq]
  rfl

theorem filterExpression_eq (h : q.Mirrors q' r σ) : q'.filterExpression = q.filterExpression := by
  unfold filterExpression
  rw [h.filters]
  cases q.filters with
  | nil => rfl
  | cons f fs =>
    have hconnected : ∀ g ∈ fs, (q'.connected ∘ Filter.renamed r) g = q.connected g := fun g _ => by
      show (g.connector.getD .and).name ++ " " ++ (q'.predicateOf (g.renamed r)).render = q.connected g
      rw [h.predicateOf_eq]
      rfl
    rw [List.map_cons]
    simp only [h.predicateOf_eq, List.map_map, List.map_congr_left hconnected]

/-- All of a request but its tree of expansions is the same. -/
theorem options_eq (h : q.Mirrors q' r σ) (page pageSize : Nat) (countOnly : Bool) :
    q'.options page pageSize countOnly = { q.options page pageSize countOnly with expand := q'.expands } := by
  have hselect : selectedNames q'.distinctFields q'.primaryAlias = selectedNames q.distinctFields q.primaryAlias := by
    rw [h.primaryAlias, h.selectedNames_eq]
  have hfilters : q'.filters.isEmpty = q.filters.isEmpty := by rw [h.filters, List.isEmpty_map]
  have hsorts : (q'.sorts.map fun s => (q'.propertyPath s.entityAlias s.fieldName, s.direction.getD .asc)) =
      q.sorts.map fun s => (q.propertyPath s.entityAlias s.fieldName, s.direction.getD .asc) := by
    rw [h.sorts, List.map_map]
    refine List.map_congr_left fun s _ => ?_
    show (q'.propertyPath (r s.entityAlias) s.fieldName, _) = _
    rw [h.propertyPath_eq]
    rfl
  unfold options
  rw [hselect, hfilters, hsorts, h.filterExpression_eq]

end Mirrors

end Query

end QueryDesk
