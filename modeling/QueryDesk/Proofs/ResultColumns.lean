import Mathlib.Data.List.Forall2
import QueryDesk.Proofs.JoinedCells

/-!
# Columns and rows

Columns and rows are both made from the distinct fields of a query, the columns with their names and the rows under keys
that join the alias, a dot and the name. Aliases may have dots in them, the names of valid fields may not, so different
columns have different keys, and a row of any record has a value under each of these keys and under no other one
(`rows_fit_columns`).
-/

namespace QueryDesk

/-- A row has one value under the key of every column, and nothing else. -/
structure Fits (row : Row) (columns : List Column) : Prop where
  nodup : (row.map Prod.fst).Nodup
  keys : ∀ key, key ∈ row.map Prod.fst ↔ key ∈ columns.map Column.key
  length : row.length = columns.length
  found : ∀ c ∈ columns, ∃ v, Members.get? row c.key = some v

namespace Query

variable {q : Query}

/-! ### First occurrences -/

/-- What is kept of each identity is the first one of those that have not been seen. -/
theorem map_identity_dedupFields (seen : List (String × String)) (fs : List Field) :
    (dedupFields seen fs).map Field.identity = ((fs.map Field.identity).filter (· ∉ seen)).eraseDups := by
  induction fs generalizing seen with
  | nil => rfl
  | cons f fs ih =>
    rw [dedupFields, List.map_cons, List.filter_cons]
    by_cases hf : f.identity ∈ seen
    · rw [if_pos hf, if_neg (by simpa using hf)]
      exact ih seen
    · rw [if_neg hf, if_pos (by simpa using hf), List.map_cons, ih, List.eraseDups_cons, List.filter_filter]
      congr 2
      refine List.filter_congr fun x _ => ?_
      by_cases hx : x = f.identity <;> simp [hx]

theorem find?_of_mem_dedupFields {seen : List (String × String)} {fs : List Field} {f : Field}
    (h : f ∈ dedupFields seen fs) : fs.find? (·.identity == f.identity) = some f := by
  induction fs generalizing seen with
  | nil => cases h
  | cons g fs ih =>
    have hnew := (dedupFields_nodup seen (g :: fs)).2 f h
    rw [dedupFields] at h
    split at h
    · next hg =>
      have hne : g.identity ≠ f.identity := by
        intro heq
        exact hnew (heq ▸ hg)
      rw [List.find?_cons, beq_eq_false_iff_ne.2 hne]
      exact ih h
    · rcases List.mem_cons.1 h with rfl | h
      · rw [List.find?_cons, beq_self_eq_true]
      · have hne : g.identity ≠ f.identity := by
          intro heq
          exact (dedupFields_nodup _ fs).2 f h (heq ▸ List.mem_cons_self)
        rw [List.find?_cons, beq_eq_false_iff_ne.2 hne]
        exact ih h

/-! ### Keys -/

theorem map_key_columns (q : Query) : q.columns.map Column.key = q.distinctFields.map Field.key := by
  rw [columns, List.map_map]
  rfl

theorem Valid.fits_row (h : q.Valid) (record : Json) : Fits (q.row record) q.columns := by
  have hperm := perm_row h.nodup_keys record
  have hkeys : ((q.row record).map Prod.fst).Perm (q.columns.map Column.key) := by
    have hmap := hperm.map Prod.fst
    rw [List.map_map] at hmap
    rw [map_key_columns]
    exact hmap
  constructor
  · rw [hkeys.nodup_iff, map_key_columns]
    exact h.nodup_keys
  · intro key
    exact hkeys.mem_iff
  · rw [hperm.length_eq, columns, List.length_map, List.length_map]
  · intro c hc
    obtain ⟨f, hf, rfl⟩ := List.mem_map.1 hc
    exact ⟨_, h.get?_row record hf⟩

/-- A valid query has one column for each alias and name among its fields, in the order in which they first occur and as
the first field has it. The keys of the columns are different, whatever the aliases are, and every record has a row,
which nothing but the record decides and which fits the columns. -/
theorem rows_fit_columns (q : Query) (h : q.validate = .ok ()) (records : List Json) :
    q.columns.map (fun c => (c.entityAlias, c.name)) = (q.fields.map fun f => (f.entityAlias, f.fieldName)).eraseDups ∧
    (∀ c ∈ q.columns, ∃ f, q.fields.find? (fun f => (f.entityAlias, f.fieldName) == (c.entityAlias, c.name)) = some f ∧
      c = f.column) ∧
    (q.columns.map Column.key).Nodup ∧
    List.Forall₂ (fun record row => q.rows [record] = [row] ∧ Fits row q.columns) records (q.rows records) := by
  have hq := validate_eq_ok_iff.1 h
  refine ⟨?_, ?_, ?_, ?_⟩
  · have hidentities := map_identity_dedupFields [] q.fields
    rw [List.filter_eq_self.2 (by simp)] at hidentities
    rw [columns, List.map_map]
    exact hidentities
  · intro c hc
    obtain ⟨f, hf, rfl⟩ := List.mem_map.1 hc
    exact ⟨f, find?_of_mem_dedupFields hf, rfl⟩
  · rw [map_key_columns]
    exact hq.nodup_keys
  · rw [rows, List.forall₂_map_right_iff, List.forall₂_same]
    intro record _
    exact ⟨rfl, hq.fits_row record⟩

/-- Accounts under aliases that have dots in them or are empty. -/
def dotted : Query where
  environmentId := "dev"
  primaryEntity := "account"
  primaryEntityAlias := none
  fields := [⟨"main", "name", none, none⟩, ⟨"a.main", "name", none, none⟩, ⟨"", "name", none, none⟩,
    ⟨"main", "name", some "Name", none⟩, ⟨".", "name", none, none⟩]
  givenJoins := some [⟨"main", "parentaccountid", "account", "a.main", "accountid", none, none⟩]
  givenFilters := none
  givenSorts := none
  top := none

theorem rows_fit_columns_dotted : dotted.validate = .ok () ∧
    dotted.columns.map (fun c => (c.entityAlias, c.name)) =
      [("main", "name"), ("a.main", "name"), ("", "name"), (".", "name")] ∧
    (dotted.columns.map Column.key).Nodup ∧
    List.Forall₂ (fun record row => dotted.rows [record] = [row] ∧ Fits row dotted.columns)
      [.object sampleRecord, .array [], .null] (dotted.rows [.object sampleRecord, .array [], .null]) := by
  obtain ⟨hcolumns, -, hkeys, hrows⟩ := rows_fit_columns dotted rfl [.object sampleRecord, .array [], .null]
  exact ⟨rfl, hcolumns, hkeys, hrows⟩

end Query

end QueryDesk
