import QueryDesk.Proofs.OwnerAccess
import QueryDesk.Proofs.StableOrder

/-!
# Registered environments

A store is what a history of registrations leaves: of those under one id the last one counts (`Latest`), whoever they
belong to. `views_agree` says what a user is given out of it: the list of the user has the latest environments that the
user owns, and asking for one by its id finds it exactly if it is listed. An id of someone else is answered like one that
nobody has.
-/

namespace QueryDesk.EnvironmentStore

variable {s : EnvironmentStore} {history : List Environment} {e f : Environment} {userId id : String}

/-! ### The latest environments -/

/-- The environment was registered last under its id. -/
def Latest (history : List Environment) (e : Environment) : Prop :=
  ∃ earlier later, history = earlier ++ e :: later ∧ ∀ f ∈ later, f.id ≠ e.id

theorem Latest.mem (h : Latest history e) : e ∈ history := by
  obtain ⟨earlier, later, rfl, -⟩ := h
  exact List.mem_append_right _ List.mem_cons_self

theorem latest_concat : Latest (history ++ [f]) e ↔ e = f ∨ Latest history e ∧ e.id ≠ f.id := by
  constructor
  · rintro ⟨earlier, later, heq, hlater⟩
    rcases List.eq_nil_or_concat later with rfl | ⟨later, last, rfl⟩
    · obtain ⟨-, hlast⟩ := List.append_inj' heq rfl
      exact .inl (List.cons.inj hlast).1.symm
    · rw [List.concat_eq_append, ← List.cons_append, ← List.append_assoc] at heq
      obtain ⟨rfl, hlast⟩ := List.append_inj' heq rfl
      obtain rfl : f = last := (List.cons.inj hlast).1
      rw [List.concat_eq_append, List.forall_mem_append] at hlater
      exact .inr ⟨⟨earlier, later, rfl, hlater.1⟩, (hlater.2 f List.mem_cons_self).symm⟩
  · rintro (rfl | ⟨⟨earlier, later, rfl, hlater⟩, hid⟩)
    · exact ⟨history, [], rfl, nofun⟩
    · refine ⟨earlier, later ++ [f], by rw [List.append_assoc, List.cons_append], List.forall_mem_append.2 ⟨hlater, ?_⟩⟩
      exact List.forall_mem_singleton.2 hid.symm

/-! ### The entries of a store -/

theorem mem_insert : e ∈ (s.insert f).entries ↔ e = f ∨ e ∈ s.entries ∧ e.id ≠ f.id := by
  rw [insert, List.mem_cons, List.mem_filter, bne_iff_ne]

theorem nodup_ids_insert (hids : (s.entries.map (·.id)).Nodup) (f : Environment) :
    ((s.insert f).entries.map (·.id)).Nodup := by
  rw [insert, List.map_cons, List.nodup_cons]
  refine ⟨fun hmem => ?_, hids.sublist (List.filter_sublist.map _)⟩
  obtain ⟨e, he, hid⟩ := List.mem_map.1 hmem
  exact bne_iff_ne.1 (List.mem_filter.1 he).2 hid

theorem ofList_concat (history : List Environment) (f : Environment) :
    ofList (history ++ [f]) = (ofList history).insert f := List.foldl_concat ..

/-- What is registered is what was registered last under its id. -/
theorem mem_ofList : e ∈ (ofList history).entries ↔ Latest history e := by
  induction history using List.reverseRecOn with
  | nil =>
    refine iff_of_false List.not_mem_nil fun h => ?_
    exact List.not_mem_nil h.mem
  | append_singleton history f ih => rw [ofList_concat, mem_insert, latest_concat, ih]

theorem nodup_ids_ofList (history : List Environment) : ((ofList history).entries.map (·.id)).Nodup := by
  induction history using List.reverseRecOn with
  | nil => exact List.nodup_nil
  | append_singleton history f ih => exact ofList_concat history f ▸ nodup_ids_insert ih f

/-! ### The two views -/

theorem mem_listFor : e ∈ s.listFor userId ↔ e ∈ s.entries ∧ e.userId = userId := by
  rw [listFor, List.mem_mergeSort, List.mem_filter, beq_iff_eq]

theorem nodup_ids_listFor (hids : (s.entries.map (·.id)).Nodup) (userId : String) :
    ((s.listFor userId).map (·.id)).Nodup :=
  ((List.mergeSort_perm _ _).map _).nodup_iff.2 (hids.sublist (List.filter_sublist.map _))

theorem pairwise_listFor (s : EnvironmentStore) (userId : String) :
    (s.listFor userId).Pairwise fun a b => a.name ≤ b.name :=
  (stablySorted_mergeSort Environment.name _).ordered

/-- An environment is given out under its id if it is registered and the user owns it. -/
theorem owned_eq_ok_iff (hids : (s.entries.map (·.id)).Nodup) :
    s.owned userId id = .ok e ↔ e ∈ s.entries ∧ e.id = id ∧ e.userId = userId := by
  constructor
  · exact of_owned
  · rintro ⟨hmem, rfl, rfl⟩
    cases hfind : s.entries.find? (·.id == e.id) with
    | none => exact absurd (beq_self_eq_true e.id) (List.find?_eq_none.1 hfind e hmem)
    | some found =>
      have hid : found.id = e.id := beq_iff_eq.1 (List.find?_some (p := fun f : Environment => f.id == e.id) hfind)
      obtain rfl : found = e := List.inj_on_of_nodup_map hids (List.mem_of_find?_eq_some hfind) hmem hid
      simp only [owned, hfind, if_true]

/-- There is one way only in which an environment is not given out. -/
theorem owned_eq_error (h : ∀ e, s.owned userId id ≠ .ok e) : s.owned userId id = .error (.notFound (.environment id)) := by
  unfold owned at h ⊢
  cases hfind : s.entries.find? (·.id == id) with
  | none => rfl
  | some found =>
    simp only [hfind] at h ⊢
    split
    case isTrue howner => exact absurd (if_pos howner) (h found)
    case isFalse => rfl

/-! ### What is given out -/

/-- What a store gives out after a history of registrations. -/
structure GivesOut (history : List Environment) (s : EnvironmentStore) : Prop where
  /-- Asking by id and listing agree. -/
  owned_iff : ∀ userId id e, s.owned userId id = .ok e ↔ e ∈ s.listFor userId ∧ e.id = id
  /-- The latest environments are listed for their owners. -/
  listed_iff : ∀ userId e, e ∈ s.listFor userId ↔ Latest history e ∧ e.userId = userId
  once : ∀ userId, ((s.listFor userId).map (·.id)).Nodup
  ordered : ∀ userId, (s.listFor userId).Pairwise fun a b => a.name ≤ b.name
  /-- No id is listed for two users. -/
  apart : ∀ userId userId', ∀ e ∈ s.listFor userId, ∀ e' ∈ s.listFor userId', e.id = e'.id → userId = userId'
  foreign : ∀ userId e, Latest history e → e.userId ≠ userId →
    s.owned userId e.id = .error (.notFound (.environment e.id))
  missing : ∀ userId id, (∀ e ∈ history, e.id ≠ id) → s.owned userId id = .error (.notFound (.environment id))

theorem givesOut_ofList (history : List Environment) : GivesOut history (ofList history) where
  owned_iff userId id e := by
    rw [owned_eq_ok_iff (nodup_ids_ofList history), mem_listFor, and_assoc, and_comm (a := e.userId = userId)]
  listed_iff userId e := by rw [mem_listFor, mem_ofList]
  once := nodup_ids_listFor (nodup_ids_ofList history)
  ordered := pairwise_listFor _
  apart userId userId' e he e' he' hid := by
    obtain ⟨hmem, rfl⟩ := mem_listFor.1 he
    obtain ⟨hmem', rfl⟩ := mem_listFor.1 he'
    rw [List.inj_on_of_nodup_map (nodup_ids_ofList history) hmem hmem' hid]
  foreign userId e he howner := by
    refine owned_eq_error fun found hfound => howner ?_
    obtain ⟨hmem, hid, rfl⟩ := of_owned hfound
    rw [List.inj_on_of_nodup_map (nodup_ids_ofList history) hmem (mem_ofList.2 he) hid]
  missing userId id hnone := by
    refine owned_eq_error fun found hfound => ?_
    obtain ⟨hmem, hid, -⟩ := of_owned hfound
    exact hnone found (mem_ofList.1 hmem).mem hid

/-- However environments are registered, first those of the settings and then others, with ids and owners that may
repeat, what the users are given out one by one is what is listed for them, and both are the latest registrations. -/
theorem views_agree (seed inserted : List Environment) :
    GivesOut (seed ++ inserted) (inserted.foldl insert (ofList seed)) := by
  have hstore : inserted.foldl insert (ofList seed) = ofList (seed ++ inserted) := (List.foldl_append ..).symm
  exact hstore ▸ givesOut_ofList (seed ++ inserted)

end QueryDesk.EnvironmentStore
