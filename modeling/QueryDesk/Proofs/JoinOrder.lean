import Mathlib.Logic.Equiv.Basic
import QueryDesk.Proofs.JoinedCells
import QueryDesk.Proofs.MirroredQueries
import QueryDesk.Proofs.RequestText

/-!
# The order of the joins

A valid query declares each alias once, so the place of a join in the list says nothing. With its joins in another
order a query mirrors itself (`Query.Valid.mirrors`): it is valid, has the same paths and gives the same rows, and its
request differs at most in the order of siblings in the tree of expansions (`OData.Reordered`).
-/

namespace QueryDesk

/-- Places behind a first one that stays where it is. -/
def placesBehind (σ : Nat → Nat) : Nat → Nat
  | 0 => 0
  | i + 1 => σ i + 1

theorem placesBehind_injective {σ : Nat → Nat} (hσ : Function.Injective σ) : Function.Injective (placesBehind σ) := by
  intro i k hik
  cases i with
  | zero =>
    cases k with
    | zero => rfl
    | succ k => cases hik
  | succ i =>
    cases k with
    | zero => cases hik
    | succ k => rw [hσ (Nat.succ.inj hik)]

/-- An element of a list stands in the rearranged list as well, at a place of its own. -/
theorem List.exists_places_of_perm {α : Type} {xs ys : List α} (h : xs.Perm ys) :
    ∃ σ : Nat → Nat, Function.Injective σ ∧ ∀ i, ys[σ i]? = xs[i]? := by
  induction h with
  | nil => exact ⟨id, Function.injective_id, fun i => rfl⟩
  | @cons x xs ys _ ih =>
    obtain ⟨σ, hσ, hget⟩ := ih
    refine ⟨placesBehind σ, placesBehind_injective hσ, fun i => ?_⟩
    cases i with
    | zero => rfl
    | succ i => simpa [placesBehind] using hget i
  | swap x y xs =>
    refine ⟨Equiv.swap 0 1, Equiv.injective _, fun i => ?_⟩
    rcases i with _ | _ | i
    · rfl
    · rfl
    · rw [Equiv.swap_apply_of_ne_of_ne (by omega) (by omega)]
      rfl
  | trans _ _ ih ih' =>
    obtain ⟨σ, hσ, hget⟩ := ih
    obtain ⟨τ, hτ, hget'⟩ := ih'
    exact ⟨τ ∘ σ, hτ.comp hσ, fun i => (hget' (σ i)).trans (hget i)⟩

namespace OData

/-! ### Trees up to the order of siblings -/

/-- The same expansions, the siblings at each level in any order. -/
inductive Reordered : List Expand → List Expand → Prop
  | nil : Reordered [] []
  | cons (n : String) (s : List String) {xs ys es fs : List Expand} (nested : Reordered xs ys)
      (rest : Reordered es fs) : Reordered (.mk n s xs :: es) (.mk n s ys :: fs)
  | swap (e f : Expand) (es : List Expand) : Reordered (f :: e :: es) (e :: f :: es)
  | trans {es fs gs : List Expand} : Reordered es fs → Reordered fs gs → Reordered es gs

namespace Reordered

theorem refl : ∀ es : List Expand, Reordered es es
  | [] => nil
  | .mk n s xs :: es => cons n s (refl xs) (refl es)

theorem of_perm {es fs : List Expand} (h : es.Perm fs) : Reordered es fs := by
  induction h with
  | nil => exact nil
  | cons e _ ih =>
    obtain ⟨n, s, xs⟩ := e
    exact cons n s (refl xs) ih
  | swap e f es => exact swap e f es
  | trans _ _ ih ih' => exact ih.trans ih'

theorem length_eq {es fs : List Expand} (h : Reordered es fs) : es.length = fs.length := by
  induction h with
  | nil => rfl
  | cons _ _ _ _ _ ih => rw [List.length_cons, List.length_cons, ih]
  | swap => rfl
  | trans _ _ ih ih' => rw [ih, ih']

theorem isEmpty_eq {es fs : List Expand} (h : Reordered es fs) : es.isEmpty = fs.isEmpty := by
  rw [Bool.eq_iff_iff, List.isEmpty_iff_length_eq_zero, List.isEmpty_iff_length_eq_zero, h.length_eq]

/-- Reordering what is nested leaves the same expansions out. -/
theorem filterMap_of? {js : List Join} {select : Join → List String} {nested nested' : Join → List Expand}
    (h : ∀ j ∈ js, Reordered (nested j) (nested' j)) :
    Reordered (js.filterMap fun j => Expand.of? j.navigation (select j) (nested j))
      (js.filterMap fun j => Expand.of? j.navigation (select j) (nested' j)) := by
  induction js with
  | nil => exact nil
  | cons j js ih =>
    obtain ⟨hj, hjs⟩ := List.forall_mem_cons.1 h
    rw [List.filterMap_cons, List.filterMap_cons]
    by_cases hempty : ((select j).isEmpty && (nested j).isEmpty) = true
    · have hnone : Expand.of? j.navigation (select j) (nested j) = none := if_pos hempty
      have hnone' : Expand.of? j.navigation (select j) (nested' j) = none := if_pos (hj.isEmpty_eq ▸ hempty)
      simp only [hnone, hnone']
      exact ih hjs
    · have hsome : Expand.of? j.navigation (select j) (nested j) = some (.mk j.navigation (select j) (nested j)) :=
        if_neg hempty
      have hsome' : Expand.of? j.navigation (select j) (nested' j) = some (.mk j.navigation (select j) (nested' j)) :=
        if_neg (hj.isEmpty_eq ▸ hempty)
      simp only [hsome, hsome']
      exact cons _ _ hj (ih hjs)

end Reordered

end OData

open OData

namespace Query

variable {q q' : Query} {σ τ : Nat → Nat}

/-! ### Rearranged joins -/

/-- The same query with its joins in any order. -/
structure Rearranged (q q' : Query) : Prop where
  joins : q.joins.Perm q'.joins
  rest : ∃ given, q' = { q with givenJoins := given }

theorem Rearranged.symm (h : q.Rearranged q') : q'.Rearranged q := by
  obtain ⟨hjoins, given, rfl⟩ := h
  exact ⟨hjoins.symm, q.givenJoins, rfl⟩

namespace Valid

theorem rearranged (h : q.Valid) (hr : q.Rearranged q') : q'.Valid := by
  obtain ⟨hjoins, given, rfl⟩ := hr
  have hmem : ∀ j ∈ ({ q with givenJoins := given } : Query).joins, j ∈ q.joins := fun j hj => hjoins.mem_iff.2 hj
  exact { h with
    joins := fun j hj => h.joins j (hmem j hj)
    aliases := (hjoins.map _).nodup_iff.1 h.aliases
    alias_ne := fun j hj => h.alias_ne j (hmem j hj) }

theorem mirrors (h : q.Valid) (hr : q.Rearranged q') : ∃ σ, q.Mirrors q' id σ := by
  have h' := h.rearranged hr
  obtain ⟨σ, hσ, hget⟩ := List.exists_places_of_perm hr.joins
  -- no other join declares the alias, so the first one that does is found wherever it stands
  have hindex : ∀ a, q'.joinIndex? a = (q.joinIndex? a).map σ := by
    intro a
    cases ha : q.joinIndex? a with
    | some i =>
      obtain ⟨j, hj, rfl⟩ := exists_of_joinIndex? ha
      exact h'.joinIndex?_eq ((hget i).trans hj)
    | none =>
      cases ha' : q'.joinIndex? a with
      | none => rfl
      | some i =>
        obtain ⟨j, hj, halias⟩ := exists_of_joinIndex? ha'
        have hmem := hr.joins.mem_iff.2 (List.mem_of_getElem? hj)
        exact absurd halias (alias_ne_of_joinIndex? ha hmem)
  obtain ⟨hjoins, given, rfl⟩ := hr
  refine ⟨σ, Function.injective_id, hσ, rfl, (List.map_id _).symm, (List.map_id _).symm, (List.map_id _).symm,
    hjoins.length_eq.symm, fun i => ?_, hindex⟩
  rw [hget]
  exact (Option.map_id' ..).symm

theorem childrenOf_perm (h : q.Valid) (hr : q.Rearranged q') (a : String) : (q.childrenOf a).Perm (q'.childrenOf a) := by
  have h' := h.rearranged hr
  -- each query mirrors the other, so the children are the same ones
  obtain ⟨σ, hm⟩ := h.mirrors hr
  obtain ⟨τ, hm'⟩ := h'.mirrors hr.symm
  exact (List.perm_ext_iff_of_nodup (h.nodup_childrenOf a) (h'.nodup_childrenOf a)).2 fun j =>
    ⟨hm.mem_childrenOf, hm'.mem_childrenOf⟩

theorem reordered_expandsBelow (h : q.Valid) (hr : q.Rearranged q') (fields : List Field) (levels : Nat) (a : String) :
    Reordered (q.expandsBelow fields levels a) (q'.expandsBelow fields levels a) := by
  induction levels generalizing a with
  | zero => exact .nil
  | succ levels ih =>
    have hperm := (h.childrenOf_perm hr a).filterMap fun j =>
      Expand.of? j.navigation (QueryDesk.selectedNames fields j.toEntityAlias) (q'.expandsBelow fields levels j.toEntityAlias)
    rw [Query.expandsBelow, Query.expandsBelow]
    exact (Reordered.filterMap_of? fun j _ => ih j.toEntityAlias).trans (.of_perm hperm)

end Valid

/-! ### What stays the same -/

theorem Mirrors.joinPath_eq_of_id (h : q.Mirrors q' id σ) (a : String) : q'.joinPath a = q.joinPath a :=
  (h.joinPath_eq a).trans (List.map_id _)

theorem Mirrors.distinctFields_eq_of_id (h : q.Mirrors q' id σ) : q'.distinctFields = q.distinctFields :=
  h.distinctFields_eq.trans (List.map_id _)

theorem Mirrors.row_eq (h : q.Mirrors q' id σ) (record : Json) : q'.row record = q.row record := by
  have hexpanded : ∀ ms a, q'.expanded ms a = q.expanded ms a := fun ms a => by
    rw [expanded, expanded, h.joinPath_eq_of_id]
  have hcell : ∀ f, q'.cell record f = q.cell record f := fun f => by
    have hprimary : q'.isPrimary f.entityAlias = q.isPrimary f.entityAlias := h.isPrimary_eq _
    unfold cell joinedValue
    simp only [hprimary, hexpanded]
  unfold row
  simp only [h.distinctFields_eq_of_id, hcell]

/-- With its joins in another order a valid query is valid and asks for the same. The filter, the columns, the rows and
the joins on the way to an alias are the same, and so are all options of the request but the tree of expansions, in
which siblings may change places. -/
theorem joins_rearranged (h : q.validate = .ok ()) (hr : q.Rearranged q') :
    q'.validate = .ok () ∧ q'.filterExpression = q.filterExpression ∧ q'.columns = q.columns ∧
    (∀ records, q'.rows records = q.rows records) ∧ (∀ a, q'.joinPath a = q.joinPath a) ∧
    ∀ page pageSize countOnly, ∃ o es, readOptions (q.compile page pageSize countOnly) = some o ∧
      readOptions (q'.compile page pageSize countOnly) = some { o with expand := es } ∧ Reordered o.expand es := by
  have hq := validate_eq_ok_iff.1 h
  have hq' := hq.rearranged hr
  obtain ⟨σ, hm⟩ := hq.mirrors hr
  refine ⟨validate_eq_ok_iff.2 hq', hm.filterExpression_eq, ?_, fun records => ?_, hm.joinPath_eq_of_id,
    fun page pageSize countOnly => ?_⟩
  · rw [columns, columns, hm.distinctFields_eq_of_id]
  · exact List.map_congr_left fun record _ => hm.row_eq record
  · refine ⟨q.options page pageSize countOnly, q'.expands, (hq.options page pageSize countOnly).readOptions_render,
      ?_, ?_⟩
    · rw [← hm.options_eq]
      exact (hq'.options page pageSize countOnly).readOptions_render
    · have hforest := hq.reordered_expandsBelow hr q.distinctFields (q.joins.length + 1) q.primaryAlias
      have hexpands : q'.expands = q'.expandsBelow q.distinctFields (q.joins.length + 1) q.primaryAlias := by
        rw [expands, hm.distinctFields_eq_of_id, hm.length_joins, hm.primaryAlias]
        rfl
      rw [hexpands]
      exact hforest

/-- The sample with each join in front of the one it hangs off, and its circle entered at the other join. -/
def sampleUpward : Query :=
  { sample with givenJoins := some [⟨"acct", "primarycontactid", "contact", "pc", "contactid", none, none⟩,
      ⟨"ping", "phoneid", "phone", "pong", "phoneid", none, some "phone_calls"⟩,
      ⟨"main", "parentaccountid", "account", "acct", "accountid", none, none⟩,
      ⟨"pong", "taskid", "task", "ping", "taskid", none, none⟩] }

theorem joins_rearranged_sample : sample.validate = .ok () ∧ sample.Rearranged sampleUpward ∧
    sampleUpward.validate = .ok () ∧ sampleUpward.joinPath "pc" = sample.joinPath "pc" ∧
    (∀ records, sampleUpward.rows records = sample.rows records) ∧
    ∃ o es, readOptions (sample.compile 2 50 false) = some o ∧
      readOptions (sampleUpward.compile 2 50 false) = some { o with expand := es } ∧ Reordered o.expand es := by
  have hr : sample.Rearranged sampleUpward := ⟨by decide, _, rfl⟩
  obtain ⟨hvalid, -, -, hrows, hpath, hrequest⟩ := joins_rearranged rfl hr
  exact ⟨rfl, hr, hvalid, hpath "pc", hrows, hrequest 2 50 false⟩

end Query

end QueryDesk
