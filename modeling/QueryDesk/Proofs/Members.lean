import QueryDesk.Json.Basic

/-!
# Members and paths

`Members.insert` sets one member and leaves the others (`Members.get?_insert`), so members made from a list of
different names hold what the list says. `Json.at?` follows a path of member names.
-/

namespace QueryDesk

namespace Members

variable {ms acc : Members} {name other : String} {v : Json}

theorem get?_cons (n : String) (w : Json) (ms : Members) (name : String) :
    get? ((n, w) :: ms) name = if name = n then some w else ms.get? name := by
  rw [get?, List.lookup_cons]
  by_cases h : name = n
  · rw [if_pos h, beq_iff_eq.2 h]
  · rw [if_neg h, beq_eq_false_iff_ne.2 h, get?]

theorem get?_insert (ms : Members) (name : String) (v : Json) (other : String) :
    (ms.insert name v).get? other = if other = name then some v else ms.get? other := by
  induction ms with
  | nil => rw [insert, get?_cons]
  | cons m ms ih =>
    obtain ⟨n, w⟩ := m
    rw [insert]
    split
    · rw [get?_cons]
    · split
      · next h => subst h; rw [get?_cons, get?_cons]; split <;> rfl
      · next h =>
        rw [get?_cons, get?_cons, ih]
        by_cases hn : other = n
        · subst hn
          rw [if_pos rfl, if_pos rfl, if_neg (Ne.symm h)]
        · rw [if_neg hn, if_neg hn]

theorem get?_foldl_insert_of_not_mem {xs : List (String × Json)} (h : name ∉ xs.map Prod.fst) :
    (xs.foldl (fun acc (name, v) => acc.insert name v) acc).get? name = acc.get? name := by
  induction xs generalizing acc with
  | nil => rfl
  | cons x xs ih =>
    obtain ⟨n, w⟩ := x
    rw [List.map_cons, List.mem_cons, not_or] at h
    rw [List.foldl_cons, ih h.2, get?_insert, if_neg h.1]

theorem get?_ofList {xs : List (String × Json)} (hnd : (xs.map Prod.fst).Nodup) (h : (name, v) ∈ xs) :
    (ofList xs).get? name = some v := by
  rw [ofList]
  generalize ([] : Members) = acc
  induction xs generalizing acc with
  | nil => exact absurd h List.not_mem_nil
  | cons x xs ih =>
    obtain ⟨hx, hxs⟩ := List.nodup_cons.1 hnd
    rw [List.foldl_cons]
    rcases List.mem_cons.1 h with rfl | h
    · rw [get?_foldl_insert_of_not_mem hx, get?_insert, if_pos rfl]
    · exact ih hxs h _

theorem perm_insert {ms : Members} {name : String} (v : Json) (h : name ∉ ms.map Prod.fst) :
    (ms.insert name v).Perm ((name, v) :: ms) := by
  induction ms with
  | nil => exact .refl _
  | cons m ms ih =>
    obtain ⟨n, w⟩ := m
    rw [List.map_cons, List.mem_cons, not_or] at h
    rw [Members.insert]
    split
    · exact .refl _
    · rw [if_neg h.1]
      exact ((ih h.2).cons _).trans (.swap _ _ _)

theorem perm_foldl_insert {xs : List (String × Json)} (acc : Members) (h : ((acc ++ xs).map Prod.fst).Nodup) :
    (xs.foldl (fun acc (name, v) => acc.insert name v) acc).Perm (acc ++ xs) := by
  induction xs generalizing acc with
  | nil => rw [List.append_nil]; exact .refl _
  | cons x xs ih =>
    obtain ⟨name, v⟩ := x
    have hmiddle : (acc ++ (name, v) :: xs).Perm ((name, v) :: (acc ++ xs)) := List.perm_middle
    have hnd := ((hmiddle.map Prod.fst).nodup_iff).1 h
    obtain ⟨hname, -⟩ := List.nodup_cons.1 hnd
    have hinsert : (acc.insert name v ++ xs).Perm ((name, v) :: (acc ++ xs)) := by
      refine (perm_insert v fun hmem => hname ?_).append_right xs
      rw [List.map_append]
      exact List.mem_append_left _ hmem
    rw [List.foldl_cons]
    refine (ih _ ?_).trans (hinsert.trans hmiddle.symm)
    exact ((hinsert.map Prod.fst).nodup_iff).2 hnd

/-- Different names all become members. -/
theorem perm_ofList {xs : List (String × Json)} (h : (xs.map Prod.fst).Nodup) : (ofList xs).Perm xs :=
  perm_foldl_insert [] h

end Members

namespace Json

/-- The value at the end of a path of member names, on which all values but the last are objects. -/
def at? : Json → List String → Option Json
  | j, [] => some j
  | j, name :: path => (j.member? name).bind (·.at? path)

theorem members?_eq_some {j : Json} {ms : Members} : j.members? = some ms ↔ j = .object ms := by
  cases j <;> simp [members?]

mutual
/-- The names of the members of a value and of all values in it. -/
def memberNames : Json → List String
  | .array items => memberNamesOfItems items
  | .object ms => memberNamesOfMembers ms
  | _ => []
termination_by structural j => j

def memberNamesOfItems : List Json → List String
  | [] => []
  | j :: rest => j.memberNames ++ memberNamesOfItems rest
termination_by structural js => js

def memberNamesOfMembers : List (String × Json) → List String
  | [] => []
  | (name, j) :: rest => name :: (j.memberNames ++ memberNamesOfMembers rest)
termination_by structural ms => ms
end

theorem memberNames_of_get? {ms : Members} {name : String} {j : Json} (h : ms.get? name = some j) :
    name ∈ (object ms).memberNames ∧ ∀ n ∈ j.memberNames, n ∈ (object ms).memberNames := by
  rw [memberNames]
  induction ms with
  | nil => cases h
  | cons m ms ih =>
    obtain ⟨n, w⟩ := m
    rw [Members.get?_cons] at h
    rw [memberNamesOfMembers]
    split at h
    · next heq =>
      obtain rfl := Option.some.inj h
      exact ⟨heq ▸ List.mem_cons_self, fun x hx => List.mem_cons_of_mem _ (List.mem_append_left _ hx)⟩
    · obtain ⟨hname, hnested⟩ := ih h
      exact ⟨List.mem_cons_of_mem _ (List.mem_append_right _ hname),
        fun x hx => List.mem_cons_of_mem _ (List.mem_append_right _ (hnested x hx))⟩

theorem get?_eq_none {ms : Members} {name : String} (h : name ∉ (object ms).memberNames) : ms.get? name = none :=
  Option.eq_none_iff_forall_ne_some.2 fun _ hj => h (memberNames_of_get? hj).1

end Json

end QueryDesk
