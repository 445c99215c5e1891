import QueryDesk.Proofs.Registrations

/-!
# Walks of the stores

What the order in which a store is walked shows. An environment is given out the same whatever the walk
(`EnvironmentStore.owned_walked`), and a call on saved queries leaves the same rows and gets the same reply unless it
lists them (`SavedCall.run_perm`). Lists that come of two walks have the same items, and what they are sorted by is the
same at each place; so they are the same where no two items tie.
-/

namespace QueryDesk

/-! ### Environments -/

namespace EnvironmentStore

variable {s s' : EnvironmentStore}

theorem perm_walked (s : EnvironmentStore) (o : Arrangement String) : (s.walked o).entries.Perm s.entries :=
  o.perm_arrange _ _

/-- Those of one id keep their order, so the first of them stays the first. -/
theorem owned_walked (s : EnvironmentStore) (o : Arrangement String) (userId id : String) :
    (s.walked o).owned userId id = s.owned userId id := by
  have hfind : (s.walked o).entries.find? (·.id == id) = s.entries.find? (·.id == id) := by
    rw [← List.head?_filter, ← List.head?_filter]
    exact congrArg List.head? (o.filter_key_arrange Environment.id s.entries id)
  rw [owned, owned, hfind]

theorem perm_listFor (h : s.entries.Perm s'.entries) (userId : String) :
    (s.listFor userId).Perm (s'.listFor userId) :=
  (List.mergeSort_perm _ _).trans ((h.filter _).trans (List.mergeSort_perm _ _).symm)

theorem names_listFor (h : s.entries.Perm s'.entries) (userId : String) :
    (s.listFor userId).map (·.name) = (s'.listFor userId).map (·.name) :=
  map_key_eq_of_perm (fun _ _ => le_antisymm) (perm_listFor h userId) (pairwise_listFor s userId)
    (pairwise_listFor s' userId)

theorem listFor_eq_of_perm (h : s.entries.Perm s'.entries) {userId : String}
    (hnames : ((s.entries.filter (·.userId == userId)).map (·.name)).Nodup) : s.listFor userId = s'.listFor userId := by
  refine eq_of_perm_of_ordered (fun _ _ => le_antisymm) ?_ (perm_listFor h userId) (pairwise_listFor s userId)
    (pairwise_listFor s' userId)
  exact ((List.mergeSort_perm _ _).map _).nodup_iff.2 hnames

end EnvironmentStore

/-! ### Saved queries -/

theorem Time.le_antisymm {a b : Time} (hab : a ≤ b) (hba : b ≤ a) : a = b :=
  congrArg Time.mk (Nat.le_antisymm hab hba)

namespace SavedRows

variable {s s' : SavedRows}

theorem perm_walked (s : SavedRows) (o : Arrangement Uuid) : (s.walked o).rows.Perm s.rows := o.perm_arrange _ _

theorem find?_perm (hids : (s.rows.map (·.id)).Nodup) (h : s.rows.Perm s'.rows) (i : Uuid) :
    s'.find? i = s.find? i := by
  refine Option.ext fun q => ?_
  rw [find?_eq_some_iff hids, find?_eq_some_iff ((h.map _).nodup_iff.1 hids), h.mem_iff]

theorem perm_insert (h : s.rows.Perm s'.rows) (q : SavedQuery) : (s.insert q).rows.Perm (s'.insert q).rows :=
  (h.filter _).cons q

theorem perm_replace (h : s.rows.Perm s'.rows) (q : SavedQuery) :
    (s.replace q).2.rows.Perm (s'.replace q).2.rows := h.map _

theorem perm_remove (h : s.rows.Perm s'.rows) (i : Uuid) : (s.remove i).2.rows.Perm (s'.remove i).2.rows :=
  h.filter _

end SavedRows

namespace SavedQuery

variable {s s' : SavedRows}

theorem inEnvironment_perm {rows rows' : List SavedQuery} (h : rows.Perm rows') (environmentId : Option String) :
    (inEnvironment environmentId rows).Perm (inEnvironment environmentId rows') := by
  cases environmentId with
  | none => exact h
  | some e => exact h.filter _

theorem perm_list (h : s.rows.Perm s'.rows) (userId : String) (environmentId : Option String) :
    ((list userId environmentId).run s).1.Perm ((list userId environmentId).run s').1 := by
  rw [run_list, run_list]
  refine (List.mergeSort_perm _ _).trans (.trans ?_ (List.mergeSort_perm _ _).symm)
  exact inEnvironment_perm (h.filter _) environmentId

theorem times_list (h : s.rows.Perm s'.rows) (userId : String) (environmentId : Option String) :
    ((list userId environmentId).run s).1.map (·.updatedAt) =
      ((list userId environmentId).run s').1.map (·.updatedAt) :=
  map_key_eq_of_perm (fun _ _ hab hba => Time.le_antisymm hba hab) (perm_list h userId environmentId)
    (ordered_list s userId environmentId) (ordered_list s' userId environmentId)

theorem list_eq_of_perm (h : s.rows.Perm s'.rows) (htimes : (s.rows.map (·.updatedAt)).Nodup) (userId : String)
    (environmentId : Option String) :
    ((list userId environmentId).run s).1 = ((list userId environmentId).run s').1 :=
  eq_of_perm_of_ordered (fun _ _ hab hba => Time.le_antisymm hba hab) (nodup_times_list htimes userId environmentId)
    (perm_list h userId environmentId) (ordered_list s userId environmentId) (ordered_list s' userId environmentId)

end SavedQuery

namespace SavedCall

variable {s s' : SavedRows}

/-- A call leaves the same rows whatever their order was, and unless it lists rows its reply is the same. -/
theorem run_perm (hids : (s.rows.map (·.id)).Nodup) (h : s.rows.Perm s'.rows) (environments : EnvironmentStore)
    (c : SavedCall) :
    (c.run environments s).2.rows.Perm (c.run environments s').2.rows ∧
      ((∃ userId environmentId, c = .list userId environmentId) ∨
        (c.run environments s).1 = (c.run environments s').1) := by
  cases c with
  | create userId i now n =>
    simp only [run, SavedQuery.run_create]
    cases SavedQuery.creationFault environments userId n with
    | some e => exact ⟨h, .inr rfl⟩
    | none => exact ⟨SavedRows.perm_insert h _, .inr rfl⟩
  | get userId i =>
    simp only [run, SavedQuery.run_get, SavedRows.find?_perm hids h]
    exact ⟨h, .inr rfl⟩
  | list userId environmentId => exact ⟨h, .inl ⟨userId, environmentId, rfl⟩⟩
  | update userId i now u =>
    simp only [run, SavedQuery.run_update, SavedRows.find?_perm hids h]
    cases SavedQuery.ownedBy userId i (s.find? i) with
    | error e => exact ⟨h, .inr rfl⟩
    | ok q =>
      cases hfault : SavedQuery.changeFault q.environmentId u with
      | some e =>
        simp only [hfault]
        exact ⟨h, .inr rfl⟩
      | none =>
        simp only [hfault]
        exact ⟨SavedRows.perm_replace h _, .inr rfl⟩
  | delete userId i =>
    simp only [run, SavedQuery.run_delete, SavedRows.find?_perm hids h]
    cases SavedQuery.ownedBy userId i (s.find? i) with
    | error e => exact ⟨h, .inr rfl⟩
    | ok q => exact ⟨SavedRows.perm_remove h i, .inr rfl⟩

end SavedCall

end QueryDesk
