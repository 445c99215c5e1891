import QueryDesk.Proofs.DecodedText
import QueryDesk.Proofs.SavedCalls

/-!
# Soundness of the saved queries

Whatever calls have been carried out, each row can be read again: `SavedQuery.Sound` holds of what is created, is kept
by every change, and so holds of all rows. The definition of a sound row decodes, hence is JSON
(`SavedQuery.Sound.reread`). A row keeps its owner, its environment and the time of its creation for as long as no new
one takes its id (`SavedRows.exists_of_mem_serve`).
-/

namespace QueryDesk

/-- A text that begins and ends with something other than white space. -/
structure Text.Trimmed (s : String) : Prop where
  nonempty : s ≠ ""
  first : ∀ c ∈ s.toList.head?, isBlank c = false
  last : ∀ c ∈ s.toList.getLast?, isBlank c = false

theorem Text.trimmed_trim {s : String} (h : isBlankText s ≠ true) : Trimmed (trim s) where
  nonempty := mt trim_eq_empty_iff.1 h
  first := by
    rw [trim, String.toList_ofList]
    exact head?_trimWhile
  last := by
    rw [trim, String.toList_ofList]
    exact getLast?_trimWhile

namespace SavedQuery

variable {environments : EnvironmentStore} {environmentId : String} {q r : SavedQuery}

/-- What the checks of a creation and of a change ensure. -/
structure Sound (environments : EnvironmentStore) (q : SavedQuery) : Prop where
  definition : ∃ d, q.query = .ok d ∧ d.environmentId = q.environmentId
  environment : ∃ e ∈ environments.entries, e.id = q.environmentId ∧ e.userId = q.userId ∧
    environments.owned q.userId q.environmentId = .ok e
  name : Text.Trimmed q.name

/-! ### Checks -/

theorem trimmed_of_nameFault {name : String} (h : nameFault name = none) : Text.Trimmed (Text.trim name) := by
  refine Text.trimmed_trim fun hblank => ?_
  rw [nameFault, if_pos hblank] at h
  cases h

theorem query_of_definitionFault {definition : String} (h : definitionFault environmentId definition = none) :
    ∃ d, parseDefinition definition = .ok d ∧ d.environmentId = environmentId := by
  rw [definitionFault] at h
  cases hparse : parseDefinition definition with
  | error e =>
    rw [hparse] at h
    cases h
  | ok d =>
    simp only [hparse] at h
    split at h
    · next heq => exact ⟨d, rfl, heq⟩
    · cases h

theorem sound_created {userId : String} {i : Uuid} {now : Time} {n : NewSavedQuery}
    (h : creationFault environments userId n = none) : Sound environments (.created userId i now n) := by
  rw [creationFault, Option.or_eq_none_iff, Option.or_eq_none_iff] at h
  obtain ⟨hname, hdefinition, henvironment⟩ := h
  obtain ⟨e, howned, hmem, hid, howner⟩ := environmentFault_eq_none_iff.1 henvironment
  exact ⟨query_of_definitionFault hdefinition, ⟨e, hmem, hid, howner, howned⟩, trimmed_of_nameFault hname⟩

/-- What a change names has been checked, and the rest was sound before. -/
theorem Sound.revised {now : Time} {u : SavedQueryUpdate} (h : q.Sound environments)
    (hfault : changeFault q.environmentId u = none) : (q.revised now u).Sound environments := by
  rw [changeFault, Option.or_eq_none_iff] at hfault
  obtain ⟨hname, hdefinition⟩ := hfault
  refine ⟨?_, h.environment, ?_⟩
  · show ∃ d, parseDefinition (u.definition.getD q.definition) = .ok d ∧ d.environmentId = q.environmentId
    cases hu : u.definition with
    | none => exact h.definition
    | some d =>
      rw [hu, Option.bind_some] at hdefinition
      exact query_of_definitionFault hdefinition
  · show Text.Trimmed ((u.name.map Text.trim).getD q.name)
    cases hu : u.name with
    | none => exact h.name
    | some name =>
      rw [hu, Option.bind_some] at hname
      exact trimmed_of_nameFault hname

/-! ### Reading again -/

theorem reread_eq {definition : String} (h : Json.sourceText q.definition = .ok definition) :
    q.reread = .ok { q with definition } := by
  rw [reread, h]
  rfl

theorem Sound.sourceText (h : q.Sound environments) : Json.sourceText q.definition = .ok (Json.bare q.definition) := by
  obtain ⟨d, hd, -⟩ := h.definition
  rw [query, parseDefinition] at hd
  cases hread : Query.ofText q.definition with
  | error e =>
    rw [hread] at hd
    cases hd
  | ok d' => exact Query.sourceText_of_ofText hread

theorem Sound.reread (h : q.Sound environments) : q.reread = .ok { q with definition := Json.bare q.definition } :=
  reread_eq h.sourceText

theorem Sound.reread_eq_self (h : q.Sound environments) (hbare : Json.bare q.definition = q.definition) :
    q.reread = .ok q := by
  rw [h.reread, hbare]

end SavedQuery

/-! ### All rows -/

namespace SavedRows

open SavedQuery

variable {environments : EnvironmentStore} {calls : List SavedCall}

theorem sound_serve : ∀ q ∈ (empty.serve environments calls).2.rows, q.Sound environments :=
  forall_rows_serve (fun _ _ _ _ _ hfault => sound_created hfault) (fun _ _ _ _ hfault hq => hq.revised hfault)

theorem bare_serve (hbare : ∀ d ∈ calls.filterMap SavedCall.definition?, Json.bare d = d) :
    ∀ q ∈ (empty.serve environments calls).2.rows, Json.bare q.definition = q.definition := by
  refine forall_rows_serve (fun userId i now n hmem _ => ?_) (fun q now u hmem _ hq => ?_)
  · exact hbare _ (List.mem_filterMap.2 ⟨_, hmem, rfl⟩)
  · show Json.bare (u.definition.getD q.definition) = u.definition.getD q.definition
    cases hu : u.definition with
    | none => exact hq
    | some d => exact hbare d (List.mem_filterMap.2 ⟨_, hmem, hu⟩)

theorem createdAt_mem_times :
    ∀ q ∈ (empty.serve environments calls).2.rows, q.createdAt ∈ calls.filterMap SavedCall.time? :=
  forall_rows_serve (fun _ _ _ _ hmem _ => List.mem_filterMap.2 ⟨_, hmem, rfl⟩) (fun _ _ _ _ _ hq => hq)

theorem createdAt_le_updatedAt (hclock : (calls.filterMap SavedCall.time?).Pairwise (· ≤ ·)) :
    ∀ q ∈ (empty.serve environments calls).2.rows, q.createdAt ≤ q.updatedAt := by
  induction calls using List.reverseRecOn with
  | nil =>
    intro q hq
    cases hq
  | append_singleton cs c ih =>
    rw [List.filterMap_append, List.pairwise_append] at hclock
    intro q hq
    rw [serve_concat] at hq
    rcases (c.writes_run environments _).cases_of_mem hq with
      hq | ⟨userId, i, now, n, rfl, -, rfl⟩ | ⟨q₀, hq₀, now, u, rfl, -, rfl⟩
    · exact ih hclock.1 q hq
    · exact Nat.le_refl _
    · exact hclock.2.2 _ (createdAt_mem_times q₀ hq₀) now (List.mem_singleton_self now)

/-! ### The life of a row -/

/-- A row of which the id has not been given out again was there before, of the same owner and environment and created
at the same time. -/
theorem exists_of_mem_serve {s : SavedRows} {later : List SavedCall} {r : SavedQuery}
    (hr : r ∈ (s.serve environments later).2.rows) (hfresh : ∀ c ∈ later, c.freshId? ≠ some r.id) :
    ∃ q ∈ s.rows, q.id = r.id ∧ q.userId = r.userId ∧ q.environmentId = r.environmentId ∧
      q.createdAt = r.createdAt := by
  induction later using List.reverseRecOn generalizing r with
  | nil => exact ⟨r, hr, rfl, rfl, rfl, rfl⟩
  | append_singleton cs c ih =>
    have hcs : ∀ d ∈ cs, d.freshId? ≠ some r.id := fun d hd => hfresh d (List.mem_append_left _ hd)
    rw [serve_concat] at hr
    rcases (c.writes_run environments _).cases_of_mem hr with
      hr | ⟨userId, i, now, n, rfl, -, rfl⟩ | ⟨q₀, hq₀, now, u, rfl, -, rfl⟩
    · exact ih hr hcs
    · exact absurd rfl (hfresh _ (List.mem_append_right _ (List.mem_singleton_self _)))
    · exact ih (r := q₀) hq₀ hcs

/-- Whatever calls were carried out, every row is sound, was changed at its creation or later if the clock does not go
back, and can be read again, which changes nothing in it if definitions are given without blanks around them. Later
calls leave the row its owner, its environment and the time of its creation. -/
theorem reachable_rows_sound (environments : EnvironmentStore) (calls : List SavedCall) :
    (∀ q ∈ (empty.serve environments calls).2.rows, q.Sound environments) ∧
      ((calls.filterMap SavedCall.time?).Pairwise (· ≤ ·) →
        ∀ q ∈ (empty.serve environments calls).2.rows, q.createdAt ≤ q.updatedAt) ∧
      (∀ later, ∀ q ∈ (empty.serve environments calls).2.rows, (∀ c ∈ later, c.freshId? ≠ some q.id) →
        ∀ r ∈ (empty.serve environments (calls ++ later)).2.rows, r.id = q.id →
          r.userId = q.userId ∧ r.environmentId = q.environmentId ∧ r.createdAt = q.createdAt) ∧
      (∀ q ∈ (empty.serve environments calls).2.rows, (∃ r, q.reread = .ok r) ∧ ∃ d, q.query = .ok d) ∧
      ((∀ d ∈ calls.filterMap SavedCall.definition?, Json.bare d = d) →
        ∀ q ∈ (empty.serve environments calls).2.rows, q.reread = .ok q) := by
  refine ⟨sound_serve, createdAt_le_updatedAt, ?_, ?_, ?_⟩
  · intro later q hq hfresh r hr hid
    rw [serve_append] at hr
    obtain ⟨q', hq', hid', howner, henvironment, hcreatedAt⟩ := exists_of_mem_serve hr (hid ▸ hfresh)
    -- the row it has come from has its id, and there is one row for an id
    obtain rfl := List.inj_on_of_nodup_map (nodup_ids_serve environments calls) hq' hq (hid'.trans hid)
    exact ⟨howner.symm, henvironment.symm, hcreatedAt.symm⟩
  · intro q hq
    obtain ⟨d, hd, -⟩ := (sound_serve q hq).definition
    exact ⟨⟨_, (sound_serve q hq).reread⟩, d, hd⟩
  · intro hbare q hq
    exact (sound_serve q hq).reread_eq_self (bare_serve hbare q hq)

theorem reachable_rows_sound_sample :
    sampleRow ∈ (empty.serve sampleEnvironments sampleCalls).2.rows ∧ sampleRow.name = "Customers" ∧
      sampleRow.Sound sampleEnvironments ∧ sampleRow.createdAt ≤ sampleRow.updatedAt ∧
      sampleRow.reread = .ok sampleRow ∧
      ∀ r ∈ (empty.serve sampleEnvironments (sampleCalls ++ [.delete "bob" (.ofNat 1)])).2.rows,
        r.id = sampleRow.id → r.createdAt = ⟨10⟩ := by
  have hclock : (sampleCalls.filterMap SavedCall.time?).Pairwise (· ≤ ·) := by decide
  have hbare : ∀ d ∈ sampleCalls.filterMap SavedCall.definition?, Json.bare d = d := by
    intro d hd
    obtain rfl : d = sampleNew.definition := List.mem_singleton.1 hd
    cbv
  have hmem : sampleRow ∈ (empty.serve sampleEnvironments sampleCalls).2.rows := by
    rw [rows_sample]
    exact List.mem_singleton_self _
  have hname : sampleRow.name = "Customers" := rfl
  obtain ⟨hsound, hordered, hlife, -, hreread⟩ := reachable_rows_sound sampleEnvironments sampleCalls
  refine ⟨hmem, hname, hsound _ hmem, hordered hclock _ hmem, hreread hbare _ hmem, fun r hr hid => ?_⟩
  exact (hlife [.delete "bob" (.ofNat 1)] _ hmem (by simp [SavedCall.freshId?]) r hr hid).2.2

end SavedRows

end QueryDesk
