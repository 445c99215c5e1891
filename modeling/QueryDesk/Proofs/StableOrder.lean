import Mathlib.Data.List.Nodup
import Mathlib.Data.String.Basic
import QueryDesk.Arrangement

/-!
# Stable order

What it means for a list to be another one in the order of a key, where what has one key keeps its order, and that
sorting by the key does it (`stablySorted_mergeSort`). It is the only list that does (`Arrangement.eq_of_filter_eq`), so
that a list can be arranged before or after items are left out (`Arrangement.filter_arrange`). Where the order within
one key is not told, lists in order still have the same keys (`map_key_eq_of_perm`), and where the keys are different
they are the same (`eq_of_perm_of_ordered`).
-/

namespace QueryDesk

section

variable {α : Type} {key : α → String}

/-- The items of a list in the order of their keys; items of one key stay in their order. -/
structure StablySorted (key : α → String) (xs sorted : List α) : Prop where
  ordered : sorted.Pairwise fun a b => key a ≤ key b
  perm : sorted.Perm xs
  stable : ∀ k, sorted.filter (key · == k) = xs.filter (key · == k)

end

variable {α β : Type}

section

variable {r : β → β → Prop} {key : α → β} {xs ys : List α}

/-- The same items in order have the same keys in order. -/
theorem map_key_eq_of_perm (hantisymm : ∀ a b, r a b → r b a → a = b) (hperm : xs.Perm ys)
    (hxs : xs.Pairwise fun a b => r (key a) (key b)) (hys : ys.Pairwise fun a b => r (key a) (key b)) :
    xs.map key = ys.map key :=
  List.Perm.eq_of_pairwise (fun a b _ _ => hantisymm a b) (List.pairwise_map.2 hxs) (List.pairwise_map.2 hys)
    (hperm.map key)

/-- Where no key repeats, there is one way to have the same items in order. -/
theorem eq_of_perm_of_ordered (hantisymm : ∀ a b, r a b → r b a → a = b) (hkeys : (xs.map key).Nodup)
    (hperm : xs.Perm ys) (hxs : xs.Pairwise fun a b => r (key a) (key b))
    (hys : ys.Pairwise fun a b => r (key a) (key b)) : xs = ys := by
  refine List.Perm.eq_of_pairwise (fun a b ha hb hab hba => ?_) hxs hys hperm
  exact List.inj_on_of_nodup_map hkeys ha (hperm.mem_iff.2 hb) (hantisymm _ _ hab hba)

end

namespace Arrangement

variable {o : Arrangement β} {key : α → β} {xs ys : List α}

theorem perm_arrange (o : Arrangement β) (key : α → β) (xs : List α) : (o.arrange key xs).Perm xs :=
  List.mergeSort_perm xs _

theorem ordered_arrange (o : Arrangement β) (key : α → β) (xs : List α) :
    (o.arrange key xs).Pairwise fun a b => o.le (key a) (key b) = true :=
  List.pairwise_mergeSort (fun a b c => o.trans (key a) (key b) (key c)) (fun a b => o.total (key a) (key b)) xs

/-- Items that are not told apart by their keys stay in their order. -/
theorem filter_key_arrange [BEq β] [LawfulBEq β] (o : Arrangement β) (key : α → β) (xs : List α) (k : β) :
    (o.arrange key xs).filter (key · == k) = xs.filter (key · == k) := by
  -- the items of one key are in order as they are, so they stand like that in the arranged list
  have hsame : (xs.filter (key · == k)).Pairwise fun a b => o.le (key a) (key b) = true := by
    refine List.pairwise_of_forall_mem_list fun a ha b hb => ?_
    rw [beq_iff_eq.1 (List.mem_filter.1 ha).2, beq_iff_eq.1 (List.mem_filter.1 hb).2]
    simpa using o.total k k
  have hsub := List.sublist_mergeSort (fun a b c => o.trans (key a) (key b) (key c))
    (fun a b => o.total (key a) (key b)) hsame List.filter_sublist
  have hkept := hsub.filter (key · == k)
  simp only [List.filter_filter, Bool.and_self] at hkept
  exact (hkept.eq_of_length ((o.perm_arrange key xs).filter _).length_eq.symm).symm

/-- Lists in order are the same if they have the same items of each key in the same order. -/
theorem eq_of_filter_eq [BEq β] [LawfulBEq β] (hxs : xs.Pairwise fun a b => o.le (key a) (key b) = true)
    (hys : ys.Pairwise fun a b => o.le (key a) (key b) = true)
    (hsame : ∀ k, xs.filter (key · == k) = ys.filter (key · == k)) : xs = ys := by
  induction xs generalizing ys with
  | nil =>
    cases ys with
    | nil => rfl
    | cons y ys => simpa using hsame (key y)
  | cons x xs ih =>
    have hmem : ∀ a, a ∈ x :: xs ↔ a ∈ ys := by
      intro a
      have h : a ∈ (x :: xs).filter (key · == key a) ↔ a ∈ ys.filter (key · == key a) := by rw [hsame]
      simpa only [List.mem_filter, beq_self_eq_true, and_true] using h
    cases ys with
    | nil => exact absurd ((hmem x).1 List.mem_cons_self) List.not_mem_nil
    | cons y ys =>
      rw [List.pairwise_cons] at hxs hys
      obtain ⟨hx, hxs⟩ := hxs
      obtain ⟨hy, hys⟩ := hys
      -- each of the two first items stands in the other list, so neither comes before the other
      have hkey : key x = key y := by
        rcases List.mem_cons.1 ((hmem y).2 List.mem_cons_self) with heq | hyx
        · rw [heq]
        · rcases List.mem_cons.1 ((hmem x).1 List.mem_cons_self) with heq | hxy
          · rw [heq]
          · exact o.antisymm _ _ (hx y hyx) (hy x hxy)
      have hfirst := hsame (key x)
      simp only [List.filter_cons, hkey, beq_self_eq_true, if_true] at hfirst
      obtain ⟨rfl, -⟩ := List.cons.inj hfirst
      refine congrArg (x :: ·) (ih hxs hys fun k => ?_)
      have h := hsame k
      simp only [List.filter_cons] at h
      split at h
      · exact (List.cons.inj h).2
      · exact h

/-- What is left of an arranged list is what is left, arranged. -/
theorem filter_arrange [DecidableEq β] (o : Arrangement β) (key : α → β) (p : α → Bool) (xs : List α) :
    (o.arrange key xs).filter p = o.arrange key (xs.filter p) := by
  refine eq_of_filter_eq ((o.ordered_arrange key xs).sublist List.filter_sublist) (o.ordered_arrange key _) fun k => ?_
  have hswap (ys : List α) : (ys.filter p).filter (key · == k) = (ys.filter (key · == k)).filter p := by
    simp only [List.filter_filter, Bool.and_comm]
  rw [hswap, filter_key_arrange, filter_key_arrange, hswap]

end Arrangement

theorem stablySorted_mergeSort (key : α → String) (xs : List α) :
    StablySorted key xs (xs.mergeSort fun a b => key a ≤ key b) where
  ordered := (Arrangement.alphabetical.ordered_arrange key xs).imp of_decide_eq_true
  perm := Arrangement.alphabetical.perm_arrange key xs
  stable := Arrangement.alphabetical.filter_key_arrange key xs

end QueryDesk
