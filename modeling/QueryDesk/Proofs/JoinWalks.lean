import Mathlib.Data.List.Chain
import QueryDesk.Proofs.AliasUse

/-!
# The walk behind a join path

`Query.climb` is given a number of steps. The walk itself has no such bound: it follows what the joins say until it comes
to the primary alias, to an alias that no join declares, or to a join that is behind it (`Query.next?`). On every graph
of joins, however it is made, the walk ends after at most as many rounds as there are joins, with what `climb` gives
(`ends_climb`). What holds of the joins behind it in every round is `Trail`; a path is what is behind a walk that has
ended (`joinPlaces_simple_chain`).
-/

namespace QueryDesk.Query

variable {q : Query} {a b : String} {i k : Nat} {j : Join}

/-! ### Walks -/

/-- Where a walk towards the primary alias has come to: the alias it is at, and the places of the joins behind it, the
last one first. -/
structure Walk where
  entityAlias : String
  behind : List Nat
  deriving DecidableEq, Repr

/-- One round of a walk, unless it has ended. -/
def next? (q : Query) (w : Walk) : Option Walk :=
  if q.isPrimary w.entityAlias then none
  else do
    let i ← q.joinIndex? w.entityAlias
    let j ← q.joins[i]?
    if i ∈ w.behind then none else some ⟨q.parentOf i j, i :: w.behind⟩

/-- After a number of rounds a walk has ended. -/
inductive Ends (q : Query) : Nat → Walk → Walk → Prop
  | now {w : Walk} (ended : q.next? w = none) : q.Ends 0 w w
  | later {n : Nat} {w w' e : Walk} (round : q.next? w = some w') (rest : q.Ends n w' e) : q.Ends (n + 1) w e

/-- The alias that the join at a place hangs off. -/
def parentAt? (q : Query) (i : Nat) : Option String := (q.joins[i]?).map (q.parentOf i)

/-- The join at place `i` declares the alias that the join at place `k` hangs off. -/
def Above (q : Query) (i k : Nat) : Prop := (q.parentAt? k).bind q.joinIndex? = some i

theorem parentAt?_eq (h : q.joins[i]? = some j) : q.parentAt? i = some (q.parentOf i j) := by
  rw [parentAt?, h, Option.map_some]

theorem joinFor?_eq (q : Query) (a : String) : q.joinFor? a = (q.joinIndex? a).bind (q.joins[·]?) := by
  rw [joinFor?, joinIndex?]
  induction q.joins with
  | nil => rfl
  | cons j js ih =>
    rw [List.find?_cons, List.findIdx?_cons]
    cases j.toEntityAlias == a with
    | true => rfl
    | false =>
      rw [if_neg (by decide), ih, Option.bind_map]
      rfl

/-- All that a round can do. -/
theorem next?_eq_some {w w' : Walk} (h : q.next? w = some w') :
    w.entityAlias ≠ q.primaryAlias ∧ ∃ i j, q.joinIndex? w.entityAlias = some i ∧ q.joins[i]? = some j ∧
      i ∉ w.behind ∧ w' = ⟨q.parentOf i j, i :: w.behind⟩ := by
  rw [next?] at h
  split at h
  · cases h
  · next hne =>
    obtain ⟨i, hi, h⟩ := Option.bind_eq_some_iff.1 h
    obtain ⟨j, hj, h⟩ := Option.bind_eq_some_iff.1 h
    split at h
    · cases h
    · next hmem =>
      obtain rfl := Option.some.inj h
      exact ⟨mt isPrimary_iff.2 hne, i, j, hi, hj, hmem, rfl⟩

/-- When there is no further round. -/
theorem next?_eq_none {w : Walk} (h : q.next? w = none) :
    w.entityAlias = q.primaryAlias ∨ ¬q.Declares w.entityAlias ∨ ∃ i ∈ w.behind, q.joinIndex? w.entityAlias = some i := by
  by_cases hprimary : w.entityAlias = q.primaryAlias
  · exact .inl hprimary
  right
  cases hi : q.joinIndex? w.entityAlias with
  | none => exact .inl (joinIndex?_eq_none_iff.1 hi)
  | some i =>
    right
    by_contra hbehind
    have hmem : i ∉ w.behind := fun hmem => hbehind ⟨i, hmem, rfl⟩
    obtain ⟨j, hj, -⟩ := exists_of_joinIndex? hi
    rw [next?, if_neg (mt isPrimary_iff.1 hprimary), hi] at h
    simp [hj, hmem] at h

/-! ### What is behind a walk -/

/-- What is behind a walk from an alias: different joins, each above the next one, from the one that declares the alias
up to one that hangs off the alias the walk is at. -/
structure Trail (q : Query) (a : String) (w : Walk) : Prop where
  nodup : w.behind.Nodup
  placed : ∀ i ∈ w.behind, i < q.joins.length
  unmoved : w.behind = [] → w.entityAlias = a
  start : ∀ i ∈ w.behind.getLast?, a ≠ q.primaryAlias ∧ q.joinIndex? a = some i
  linked : w.behind.IsChain q.Above
  reached : ∀ i ∈ w.behind.head?, q.parentAt? i = some w.entityAlias

namespace Trail

variable {w w' e : Walk} {n : Nat}

theorem nil (q : Query) (a : String) : q.Trail a ⟨a, []⟩ where
  nodup := List.nodup_nil
  placed := List.forall_mem_nil _
  unmoved _ := rfl
  start := nofun
  linked := .nil
  reached := nofun

theorem next (h : q.Trail a w) (hw : q.next? w = some w') : q.Trail a w' := by
  obtain ⟨hne, i, j, hi, hj, hmem, rfl⟩ := next?_eq_some hw
  have hlt : i < q.joins.length := (List.getElem?_eq_some_iff.1 hj).1
  refine ⟨List.nodup_cons.2 ⟨hmem, h.nodup⟩, List.forall_mem_cons.2 ⟨hlt, h.placed⟩, nofun, ?_, ?_, ?_⟩
  · intro k hk
    by_cases hnil : w.behind = []
    · -- the first round takes the join that declares the alias
      rw [hnil] at hk
      obtain rfl := Option.some.inj hk
      rw [h.unmoved hnil] at hne hi
      exact ⟨hne, hi⟩
    · rw [List.getLast?_cons_of_ne_nil hnil] at hk
      exact h.start k hk
  · refine List.isChain_cons.2 ⟨fun k hk => ?_, h.linked⟩
    rw [Above, h.reached k hk]
    exact hi
  · rintro _ ⟨⟩
    exact parentAt?_eq hj

theorem length_le (h : q.Trail a w) : w.behind.length ≤ q.joins.length := by
  rw [← List.length_range (n := q.joins.length)]
  exact h.nodup.length_le_of_subset fun i hi => List.mem_range.2 (h.placed i hi)

/-- In every round there is one more join behind the walk, and there is none too many. -/
theorem length_lt (h : q.Trail a w) (hw : q.next? w = some w') : w.behind.length < q.joins.length := by
  have hle := (h.next hw).length_le
  obtain ⟨-, i, j, -, -, -, rfl⟩ := next?_eq_some hw
  exact hle

theorem ends (h : q.Trail a w) (he : q.Ends n w e) : q.Trail a e ∧ q.next? e = none := by
  induction he with
  | now ended => exact ⟨h, ended⟩
  | later round _ ih => exact ih (h.next round)

end Trail

/-! ### The bound on the steps -/

theorem climb_of_next?_eq_none {seen : List Nat} (h : q.next? ⟨a, seen⟩ = none) (steps : Nat) :
    q.climb seen a steps = [] := by
  cases steps with
  | zero => rfl
  | succ steps =>
    rw [climb]
    split
    · rfl
    · next hne =>
      rcases next?_eq_none h with hprimary | hundeclared | ⟨i, hmem, hi⟩
      · exact absurd (isPrimary_iff.2 hprimary) hne
      · rw [joinIndex?_eq_none_iff.2 hundeclared]
      · rw [hi]
        exact if_pos hmem

theorem climb_of_next?_eq_some {seen seen' : List Nat} (h : q.next? ⟨a, seen⟩ = some ⟨b, seen'⟩) (steps : Nat) :
    ∃ i, seen' = i :: seen ∧ q.climb seen a (steps + 1) = i :: q.climb seen' b steps := by
  obtain ⟨hne, i, j, hi, hj, hmem, heq⟩ := next?_eq_some h
  obtain ⟨rfl, rfl⟩ := Walk.mk.inj heq
  refine ⟨i, rfl, ?_⟩
  rw [climb, if_neg (mt isPrimary_iff.1 hne)]
  simp only [hi, hmem, if_false, hj]

/-- With a step for every join that is not behind yet, a climb is the rest of the walk. -/
theorem ends_climb {w : Walk} {steps : Nat} (h : q.Trail a w) (hsteps : q.joins.length ≤ w.behind.length + steps) :
    ∃ n ≤ steps, ∃ b, q.Ends n w ⟨b, (q.climb w.behind w.entityAlias steps).reverse ++ w.behind⟩ := by
  induction steps generalizing w with
  | zero =>
    refine ⟨0, Nat.le_refl 0, w.entityAlias, .now ?_⟩
    by_contra hnext
    obtain ⟨w', hw'⟩ := Option.ne_none_iff_exists'.1 hnext
    have hlt := h.length_lt hw'
    omega
  | succ steps ih =>
    cases hnext : q.next? w with
    | none =>
      rw [climb_of_next?_eq_none hnext]
      exact ⟨0, Nat.zero_le _, w.entityAlias, .now hnext⟩
    | some w' =>
      obtain ⟨i, hbehind, hclimb⟩ := climb_of_next?_eq_some hnext steps
      have hroom : q.joins.length ≤ w'.behind.length + steps := by
        rw [hbehind, List.length_cons]
        omega
      obtain ⟨n, hn, b, hends⟩ := ih (h.next hnext) hroom
      refine ⟨n + 1, Nat.succ_le_succ hn, b, .later hnext ?_⟩
      rw [hclimb, List.reverse_cons, List.append_assoc, List.singleton_append, ← hbehind]
      exact hends

theorem ends_joinPlaces (q : Query) (a : String) : ∃ n ≤ q.joins.length, ∃ b, q.Ends n ⟨a, []⟩ ⟨b, q.joinPlaces a⟩ := by
  have hroom : q.joins.length ≤ (⟨a, []⟩ : Walk).behind.length + q.joins.length := Nat.le_add_left _ _
  obtain ⟨n, hn, b, hends⟩ := ends_climb (Trail.nil q a) hroom
  rw [List.append_nil] at hends
  exact ⟨n, hn, b, hends⟩

/-! ### Paths -/

/-- A path has the join of every place. -/
theorem map_joinPath {e : Walk} (h : q.Trail a e) (hplaces : q.joinPlaces a = e.behind) :
    (q.joinPath a).map some = (q.joinPlaces a).map (q.joins[·]?) := by
  rw [joinPath, List.map_filterMap, ← List.filterMap_eq_map]
  refine List.filterMap_congr fun i hi => ?_
  rw [hplaces] at hi
  rw [Function.comp_apply, List.getElem?_eq_getElem (h.placed i hi), Option.map_some]

namespace Trail

variable {e : Walk}

/-- Where a walk ends that has a join behind it: at the primary alias, or at an alias that a join behind it declares. -/
theorem end_cases (h : q.Trail a e) (hend : q.next? e = none) (hi : i ∈ e.behind.head?) :
    e.entityAlias = q.primaryAlias ∨ ∃ k ∈ e.behind, q.joinIndex? e.entityAlias = some k := by
  rcases next?_eq_none hend with hprimary | hundeclared | hseen
  · exact .inl hprimary
  · -- what a join hangs off is never an unknown alias
    obtain ⟨j, hj, hparent⟩ := Option.map_eq_some_iff.1 (h.reached i hi)
    rcases q.parentOf_cases i j with hprimary | hdeclared
    · exact .inl (hparent ▸ hprimary)
    · exact absurd (hparent ▸ hdeclared) hundeclared
  · exact .inr hseen

theorem at_primary_iff (h : q.Trail a e) (hplaces : q.joinPlaces a = e.behind) (hi : i ∈ e.behind.head?) :
    e.entityAlias = q.primaryAlias ↔ q.Reaches a := by
  obtain ⟨j, hj, hparent⟩ := Option.map_eq_some_iff.1 (h.reached i hi)
  have hne : e.behind ≠ [] := by
    intro hnil
    rw [hnil] at hi
    cases hi
  rw [reaches_iff, hplaces]
  constructor
  · intro hprimary
    exact .inr ⟨i, hi, j, hj, hparent.trans hprimary⟩
  · rintro (hprimary | ⟨i', hi', j', hj', hprimary⟩)
    · exact absurd hprimary (h.start _ (List.getLast?_eq_some_getLast hne)).1
    · obtain rfl := Option.some.inj (hi.symm.trans hi')
      obtain rfl := Option.some.inj (hj.symm.trans hj')
      exact hparent.symm.trans hprimary

end Trail

/-- Whatever the joins say, the walk from an alias ends after at most as many rounds as there are joins, and what is behind
it then are the places of the path of the alias. They are different places. The path is empty only for the primary alias
and for one that no join declares. Otherwise it ends with the join of the alias, every join in it declares what the next
one hangs off, and its first join hangs off the primary alias, or, exactly if following the parents never leads there,
off an alias of a join in the path. -/
theorem joinPath_simple_chain (q : Query) (a : String) :
    (∃ n ≤ q.joins.length, ∃ b, q.Ends n ⟨a, []⟩ ⟨b, q.joinPlaces a⟩) ∧
    (q.joinPath a).map some = (q.joinPlaces a).map (q.joins[·]?) ∧
    (∀ b, q.joinFor? b = (q.joinIndex? b).bind (q.joins[·]?)) ∧
    (q.joinPath a).length ≤ q.joins.length ∧ (q.joinPlaces a).Nodup ∧
    (q.joinPath a = [] ↔ a = q.primaryAlias ∨ ¬q.Declares a) ∧
    (∀ i ∈ (q.joinPlaces a).getLast?, q.joinIndex? a = some i) ∧
    (∀ j ∈ (q.joinPath a).getLast?, q.joinFor? a = some j) ∧
    (q.joinPlaces a).IsChain q.Above ∧
    ∀ i ∈ (q.joinPlaces a).head?, ∃ b, q.parentAt? i = some b ∧
      (b = q.primaryAlias ∨ ∃ k ∈ q.joinPlaces a, q.joinIndex? b = some k) ∧
      (b = q.primaryAlias ↔ q.Reaches a) := by
  obtain ⟨n, hn, b, hends⟩ := q.ends_joinPlaces a
  obtain ⟨htrail, hend⟩ := (Trail.nil q a).ends hends
  have hpath := map_joinPath htrail rfl
  have hlength : (q.joinPath a).length = (q.joinPlaces a).length := by
    simpa using congrArg List.length hpath
  have hlast : ∀ i ∈ (q.joinPlaces a).getLast?, q.joinIndex? a = some i := fun i hi => (htrail.start i hi).2
  refine ⟨⟨n, hn, b, hends⟩, hpath, joinFor?_eq q, hlength ▸ htrail.length_le, htrail.nodup,
    joinPath_eq_nil_iff, hlast, fun j hj => ?_, htrail.linked, fun i hi => ?_⟩
  · have hboth := congrArg List.getLast? hpath
    rw [List.getLast?_map, List.getLast?_map, hj, Option.map_some] at hboth
    obtain ⟨i, hi, heq⟩ := Option.map_eq_some_iff.1 hboth.symm
    rw [joinFor?_eq, hlast i hi]
    exact heq
  · exact ⟨b, htrail.reached i hi, htrail.end_cases hend hi, htrail.at_primary_iff rfl hi⟩

example : sample.joinPlaces "ping" = [3, 2] ∧ sample.next? ⟨"ping", [3, 2]⟩ = none := by decide

end QueryDesk.Query
