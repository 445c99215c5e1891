import QueryDesk.Proofs.Validity

/-!
# The graph of joins

Every join hangs off one alias, so from an alias there is one way up. `Query.Ascent` is that way where it
ends at the primary alias. It meets no join twice (`Ascent.nodup`), hence is at most as long as the list of
joins, and it is the way `Query.climb` takes (`Ascent.joinPlaces_eq`). The joins of a cycle have no ascent.
-/

namespace QueryDesk.Query

variable {q : Query} {a b : String} {i : Nat} {j : Join} {is js : List Nat}

/-! ### Ascents -/

/-- The places of the joins from an alias up to the primary one, innermost first. -/
inductive Ascent (q : Query) : String → List Nat → Prop
  | primary : q.Ascent q.primaryAlias []
  | step {a : String} {i : Nat} {j : Join} {is : List Nat} (ne : a ≠ q.primaryAlias) (index : q.joinIndex? a = some i)
      (join : q.joins[i]? = some j) (parent : q.Ascent (q.parentOf i j) is) : q.Ascent a (i :: is)

/-- Following the parents from an alias leads to the primary one. -/
def Reaches (q : Query) (a : String) : Prop := ∃ is, q.Ascent a is

theorem exists_of_joinIndex? (h : q.joinIndex? a = some i) : ∃ j, q.joins[i]? = some j ∧ j.toEntityAlias = a := by
  obtain ⟨hlt, heq, -⟩ := List.findIdx?_eq_some_iff_getElem.1 h
  exact ⟨_, List.getElem?_eq_getElem hlt, beq_iff_eq.1 heq⟩

theorem alias_of_joinIndex? (h : q.joinIndex? a = some i) (hj : q.joins[i]? = some j) : j.toEntityAlias = a := by
  obtain ⟨j', hj', ha⟩ := exists_of_joinIndex? h
  obtain rfl : j = j' := Option.some.inj (hj.symm.trans hj')
  exact ha

theorem alias_ne_of_joinIndex? (h : q.joinIndex? a = none) (hj : j ∈ q.joins) : j.toEntityAlias ≠ a := by
  have hdiffers := List.findIdx?_eq_none_iff.1 h j hj
  exact beq_eq_false_iff_ne.1 hdiffers

namespace Ascent

theorem unique (h : q.Ascent a is) (h' : q.Ascent a js) : is = js := by
  induction h generalizing js with
  | primary =>
    cases h' with
    | primary => rfl
    | step ne => exact absurd rfl ne
  | @step a i j is ne index join parent ih =>
    cases h' with
    | primary => exact absurd rfl ne
    | @step _ i' j' js _ index' join' parent' =>
      obtain rfl : i = i' := Option.some.inj (index.symm.trans index')
      obtain rfl : j = j' := Option.some.inj (join.symm.trans join')
      rw [ih parent']

theorem eq_primary (h : q.Ascent a []) : a = q.primaryAlias := by
  cases h; rfl

theorem parent_of_cons (h : q.Ascent a (i :: is)) :
    ∃ j, q.joins[i]? = some j ∧ j.toEntityAlias = a ∧ q.Ascent (q.parentOf i j) is := by
  cases h with
  | step _ index join parent => exact ⟨_, join, alias_of_joinIndex? index join, parent⟩

/-- The ascent tells where it starts. -/
theorem alias_eq (h : q.Ascent a is) (h' : q.Ascent b is) : a = b := by
  cases is with
  | nil => rw [h.eq_primary, h'.eq_primary]
  | cons i is =>
    obtain ⟨j, hj, rfl, -⟩ := h.parent_of_cons
    obtain ⟨j', hj', rfl, -⟩ := h'.parent_of_cons
    rw [Option.some.inj (hj.symm.trans hj')]

theorem suffix (h : q.Ascent a is) (hs : js <:+ is) : ∃ b, q.Ascent b js := by
  induction h with
  | primary =>
    obtain rfl := List.suffix_nil.1 hs
    exact ⟨_, primary⟩
  | step ne index join parent ih =>
    rcases List.suffix_cons_iff.1 hs with rfl | hs
    · exact ⟨_, step ne index join parent⟩
    · exact ih hs

theorem tail_unique (h : q.Ascent a (i :: is)) (h' : q.Ascent b (i :: js)) : is = js := by
  obtain ⟨j, hj, -, hp⟩ := h.parent_of_cons
  obtain ⟨j', hj', -, hp'⟩ := h'.parent_of_cons
  obtain rfl : j = j' := Option.some.inj (hj.symm.trans hj')
  exact hp.unique hp'

/-- A join met twice would make the ascent from its second place the whole one. -/
theorem nodup (h : q.Ascent a is) : is.Nodup := by
  induction h with
  | primary => exact List.nodup_nil
  | @step a i j is ne index join parent ih =>
    refine List.nodup_cons.2 ⟨fun hmem => ?_, ih⟩
    obtain ⟨s, t, hst⟩ := List.append_of_mem hmem
    have hsuffix : (i :: t) <:+ is := ⟨s, hst.symm⟩
    obtain ⟨b, hb⟩ := parent.suffix hsuffix
    -- the join at `i` settles what follows it, so the whole ascent would equal a proper suffix of itself
    have heq : is = t := (step ne index join parent).tail_unique hb
    have hlen := congrArg List.length hst
    rw [heq] at hlen
    simp only [List.length_append, List.length_cons] at hlen
    omega

theorem lt_length (h : q.Ascent a is) : ∀ i ∈ is, i < q.joins.length := by
  induction h with
  | primary => exact List.forall_mem_nil _
  | step _ _ join _ ih => exact List.forall_mem_cons.2 ⟨(List.getElem?_eq_some_iff.1 join).1, ih⟩

/-- There are no more joins on the way up than there are places for them. -/
theorem length_le (h : q.Ascent a is) : is.length ≤ q.joins.length := by
  rw [← List.length_range (n := q.joins.length)]
  exact h.nodup.length_le_of_subset fun i hi => List.mem_range.2 (h.lt_length i hi)

theorem climb_eq {seen : List Nat} {steps : Nat} (h : q.Ascent a is) (hseen : ∀ i ∈ is, i ∉ seen)
    (hsteps : is.length ≤ steps) : q.climb seen a steps = is := by
  induction h generalizing seen steps with
  | primary =>
    cases steps with
    | zero => rfl
    | succ steps => rw [climb, if_pos (isPrimary_iff.2 rfl)]
  | @step a i j is ne index join parent ih =>
    obtain ⟨steps, rfl⟩ := Nat.exists_eq_add_one_of_ne_zero (Nat.ne_of_gt (Nat.lt_of_lt_of_le (Nat.succ_pos _) hsteps))
    obtain ⟨hi, his⟩ := List.forall_mem_cons.1 hseen
    have hnd := List.nodup_cons.1 (step ne index join parent).nodup
    have hrest : q.climb (i :: seen) (q.parentOf i j) steps = is := by
      refine ih (fun k hk hmem => ?_) (Nat.le_of_succ_le_succ hsteps)
      rcases List.mem_cons.1 hmem with rfl | hmem
      · exact hnd.1 hk
      · exact his k hk hmem
    rw [climb, if_neg (mt isPrimary_iff.1 ne), index]
    simp only [hi, if_false, join, hrest]

theorem joinPlaces_eq (h : q.Ascent a is) : q.joinPlaces a = is.reverse := by
  rw [joinPlaces, h.climb_eq (by simp) h.length_le]

end Ascent

theorem joinPath_primary (q : Query) : q.joinPath q.primaryAlias = [] := by
  rw [joinPath, Ascent.primary.joinPlaces_eq]
  rfl

/-! ### Reaching the primary alias -/

theorem Reaches.primary : q.Reaches q.primaryAlias := ⟨[], .primary⟩

/-- A climb whose last join hangs off the primary alias is an ascent. -/
theorem ascent_climb {seen : List Nat} {steps : Nat}
    (h : ∃ i ∈ (q.climb seen a steps).getLast?, ∃ j ∈ q.joins[i]?, q.parentOf i j = q.primaryAlias) :
    q.Ascent a (q.climb seen a steps) := by
  induction steps generalizing seen a with
  | zero => simp [climb] at h
  | succ steps ih =>
    rw [climb] at h ⊢
    split at h
    · simp at h
    · next hne =>
      rw [if_neg hne]
      split at h
      · simp at h
      · next i hi =>
        split at h
        · simp at h
        · next hseen =>
          rw [if_neg hseen]
          split at h
          · simp at h
          · next j hj =>
            refine .step (mt isPrimary_iff.2 hne) hi hj ?_
            by_cases hnil : q.climb (i :: seen) (q.parentOf i j) steps = []
            · obtain ⟨i', hi', j', hj', hprimary⟩ := h
              rw [hnil] at hi'
              obtain rfl : i = i' := Option.some.inj hi'
              obtain rfl : j = j' := Option.some.inj (hj.symm.trans hj')
              rw [hnil, hprimary]
              exact .primary
            · rw [List.getLast?_cons_of_ne_nil hnil] at h
              exact ih h

/-- An alias reaches the primary one when it is that, or when the outermost join of its path hangs off it. -/
theorem reaches_iff : q.Reaches a ↔
    a = q.primaryAlias ∨ ∃ i ∈ (q.joinPlaces a).head?, ∃ j ∈ q.joins[i]?, q.parentOf i j = q.primaryAlias := by
  constructor
  · rintro ⟨is, h⟩
    rw [h.joinPlaces_eq, List.head?_reverse]
    induction h with
    | primary => exact .inl rfl
    | @step a i j is ne index join parent ih =>
      right
      by_cases hnil : is = []
      · subst hnil
        exact ⟨i, rfl, j, join, parent.eq_primary⟩
      · rw [List.getLast?_cons_of_ne_nil hnil]
        rcases ih with hp | h
        · rw [hp] at parent
          exact absurd (parent.unique .primary) hnil
        · exact h
  · rintro (rfl | h)
    · exact .primary
    · rw [joinPlaces, List.head?_reverse] at h
      exact ⟨_, ascent_climb h⟩

instance (q : Query) (a : String) : Decidable (q.Reaches a) := decidable_of_iff _ reaches_iff.symm

/-! ### Valid queries -/

namespace Valid

theorem joinIndex?_eq (h : q.Valid) (hj : q.joins[i]? = some j) : q.joinIndex? j.toEntityAlias = some i := by
  obtain ⟨hlt, heq⟩ := List.getElem?_eq_some_iff.1 hj
  refine List.findIdx?_eq_some_iff_getElem.2 ⟨hlt, by rw [heq, beq_iff_eq], fun k hk hbeq => ?_⟩
  have halias : (q.joins.map Join.toEntityAlias)[k]? = (q.joins.map Join.toEntityAlias)[i]? := by
    rw [List.getElem?_map, List.getElem?_map, hj, List.getElem?_eq_getElem (Nat.lt_trans hk hlt), Option.map_some,
      Option.map_some, beq_iff_eq.1 hbeq]
  have hlt' : k < (q.joins.map Join.toEntityAlias).length := by rw [List.length_map]; omega
  exact absurd ((List.getElem?_inj hlt' h.aliases).1 halias) (Nat.ne_of_lt hk)

theorem join_unique {i' : Nat} {j' : Join} (h : q.Valid) (hj : q.joins[i]? = some j) (hj' : q.joins[i']? = some j')
    (ha : j.toEntityAlias = j'.toEntityAlias) : i = i' ∧ j = j' := by
  have hi : i = i' := Option.some.inj ((h.joinIndex?_eq hj).symm.trans (ha ▸ h.joinIndex?_eq hj'))
  subst hi
  exact ⟨rfl, Option.some.inj (hj.symm.trans hj')⟩

theorem ascent_step (h : q.Valid) (hj : q.joins[i]? = some j) (hp : q.Ascent (q.parentOf i j) is) :
    q.Ascent j.toEntityAlias (i :: is) :=
  .step (h.alias_ne j (List.mem_of_getElem? hj)) (h.joinIndex?_eq hj) hj hp

theorem joinPath_step (h : q.Valid) (hj : q.joins[i]? = some j) (hp : q.Reaches (q.parentOf i j)) :
    q.joinPath j.toEntityAlias = q.joinPath (q.parentOf i j) ++ [j] := by
  obtain ⟨is, his⟩ := hp
  rw [joinPath, (h.ascent_step hj his).joinPlaces_eq, List.reverse_cons, List.filterMap_append, joinPath,
    his.joinPlaces_eq]
  simp [hj]

end Valid

/-! ### Joins above an alias -/

/-- The alias is that of the join or of a join below it. -/
inductive Below (q : Query) (j : Join) : String → Prop
  | self (mem : j ∈ q.joins) : q.Below j j.toEntityAlias
  | step {i : Nat} {k : Join} (join : q.joins[i]? = some k) (parent : q.Below j (q.parentOf i k)) :
      q.Below j k.toEntityAlias

theorem Below.trans {k : Join} (hj : q.Below j k.toEntityAlias) (hk : q.Below k a) : q.Below j a := by
  induction hk with
  | self => exact hj
  | step join _ ih => exact .step join ih

theorem Ascent.below_of_mem (ks : List Nat) (ha : q.Ascent a (ks ++ i :: is)) (hj : q.joins[i]? = some j) :
    q.Below j a := by
  induction ks generalizing a with
  | nil =>
    obtain ⟨j', hj', rfl, -⟩ := ha.parent_of_cons
    obtain rfl : j = j' := Option.some.inj (hj.symm.trans hj')
    exact .self (List.mem_of_getElem? hj)
  | cons k ks ih =>
    obtain ⟨j', hj', rfl, hp⟩ := ha.parent_of_cons
    exact .step hj' (ih hp)

namespace Valid

/-- The ascent from below a join goes on with that of the join. -/
theorem ascent_of_below (h : q.Valid) (hb : q.Below j a) (hj : q.Ascent j.toEntityAlias is) :
    ∃ ks, q.Ascent a (ks ++ is) := by
  induction hb with
  | self => exact ⟨[], hj⟩
  | @step i k join _ ih =>
    obtain ⟨ks, hks⟩ := ih
    exact ⟨i :: ks, h.ascent_step join hks⟩

end Valid

end QueryDesk.Query
