import QueryDesk.Proofs.SavedSoundness

/-!
# Saved queries as a register

The operations on saved queries are those of a register: a map from ids to saved queries that gives each to its owner
only. `SavedRegister.Step` says what the register answers to a call and what it becomes; calls carried out one after
the other are a run of the register. What a run leaves under an id is told from its answered calls: the saved query is
there if it was created and not deleted (`Run.isSome_own_iff_live`), with what was accepted last for each of its fields
(`Run.lastAccepted_eq`).
-/

namespace QueryDesk

/-! ### The register -/

/-- The saved query of each id. -/
abbrev SavedRegister := Uuid → Option SavedQuery

namespace SavedRegister

open SavedQuery (creationFault changeFault missing)

/-- The saved query of an id, if it is the user's. -/
def own (m : SavedRegister) (userId : String) (i : Uuid) : Option SavedQuery := (m i).filter (·.userId == userId)

/-- The saved queries of a user, of one environment if that is given, each once and the one last changed first. -/
structure Lists (m : SavedRegister) (userId : String) (environmentId : Option String) (qs : List SavedQuery) :
    Prop where
  mem : ∀ q, q ∈ qs ↔ m q.id = some q ∧ q.userId = userId ∧ ∀ e ∈ environmentId, q.environmentId = e
  ordered : qs.Pairwise fun a b => b.updatedAt < a.updatedAt

/-- What the register answers to a call, and what it becomes. -/
inductive Step (environments : EnvironmentStore) (m : SavedRegister) : SavedCall → SavedReply → SavedRegister → Prop
  | created {userId : String} {i : Uuid} {now : Time} {n : NewSavedQuery}
      (hfault : creationFault environments userId n = none) :
      Step environments m (.create userId i now n) (.saved (.ok (.created userId i now n)))
        (Function.update m i (some (.created userId i now n)))
  | notCreated {userId : String} {i : Uuid} {now : Time} {n : NewSavedQuery} {e : Error}
      (hfault : creationFault environments userId n = some e) :
      Step environments m (.create userId i now n) (.saved (.error e)) m
  | got {userId : String} {i : Uuid} {q : SavedQuery} (hown : m.own userId i = some q) :
      Step environments m (.get userId i) (.saved (.ok q)) m
  | notGot {userId : String} {i : Uuid} (hown : m.own userId i = none) :
      Step environments m (.get userId i) (.saved (.error (missing i))) m
  | listed {userId : String} {environmentId : Option String} {qs : List SavedQuery}
      (hlists : m.Lists userId environmentId qs) :
      Step environments m (.list userId environmentId) (.listed qs) m
  | revised {userId : String} {i : Uuid} {now : Time} {u : SavedQueryUpdate} {q : SavedQuery}
      (hown : m.own userId i = some q) (hfault : changeFault q.environmentId u = none) :
      Step environments m (.update userId i now u) (.saved (.ok (q.revised now u)))
        (Function.update m i (some (q.revised now u)))
  | refused {userId : String} {i : Uuid} {now : Time} {u : SavedQueryUpdate} {q : SavedQuery} {e : Error}
      (hown : m.own userId i = some q) (hfault : changeFault q.environmentId u = some e) :
      Step environments m (.update userId i now u) (.saved (.error e)) m
  | notRevised {userId : String} {i : Uuid} {now : Time} {u : SavedQueryUpdate} (hown : m.own userId i = none) :
      Step environments m (.update userId i now u) (.saved (.error (missing i))) m
  | deleted {userId : String} {i : Uuid} {q : SavedQuery} (hown : m.own userId i = some q) :
      Step environments m (.delete userId i) (.deleted (.ok ())) (Function.update m i none)
  | notDeleted {userId : String} {i : Uuid} (hown : m.own userId i = none) :
      Step environments m (.delete userId i) (.deleted (.error (missing i))) m

/-- Calls that the empty register answers one after the other, and what it becomes. -/
inductive Run (environments : EnvironmentStore) : List (SavedCall × SavedReply) → SavedRegister → Prop
  | start : Run environments [] fun _ => none
  | call {t : List (SavedCall × SavedReply)} {m m' : SavedRegister} {c : SavedCall} {r : SavedReply}
      (hrun : Run environments t m) (hstep : Step environments m c r m') : Run environments (t ++ [(c, r)]) m'

variable {environments : EnvironmentStore} {m m' : SavedRegister} {t : List (SavedCall × SavedReply)}
variable {userId : String} {i : Uuid} {q : SavedQuery}

theorem own_eq_some_iff : m.own userId i = some q ↔ m i = some q ∧ q.userId = userId := by
  rw [own, Option.filter_eq_some_iff, beq_iff_eq]

theorem eq_some_of_update {k : Uuid} {v : Option SavedQuery} (h : Function.update m k v i = some q) :
    i = k ∧ v = some q ∨ i ≠ k ∧ m i = some q := by
  rw [Function.update_apply] at h
  by_cases hk : i = k
  · exact .inl ⟨hk, by rwa [if_pos hk] at h⟩
  · exact .inr ⟨hk, by rwa [if_neg hk] at h⟩

theorem isSome_own_iff : (m.own userId i).isSome ↔ ∃ q, m i = some q ∧ q.userId = userId := by
  rw [Option.isSome_iff_exists]
  exact exists_congr fun q => own_eq_some_iff

/-! ### The answers are determined -/

/-- A list is told from its members where each was changed later than the next. -/
theorem Lists.unique {environmentId : Option String} {qs rs : List SavedQuery} (hqs : m.Lists userId environmentId qs)
    (hrs : m.Lists userId environmentId rs) : qs = rs := by
  have hnodup : ∀ {l : List SavedQuery}, l.Pairwise (fun a b => b.updatedAt < a.updatedAt) → l.Nodup := by
    intro l hl
    refine hl.imp fun {a b} hab heq => ?_
    rw [heq] at hab
    exact Nat.lt_irrefl _ hab
  have hperm : qs.Perm rs := by
    rw [List.perm_ext_iff_of_nodup (hnodup hqs.ordered) (hnodup hrs.ordered)]
    exact fun q => (hqs.mem q).trans (hrs.mem q).symm
  refine hperm.eq_of_pairwise (fun a b _ _ hab hba => ?_) hqs.ordered hrs.ordered
  exact absurd hba (Nat.lt_asymm hab)

theorem Step.unique {c : SavedCall} {r r' : SavedReply} {m₁ m₂ : SavedRegister} (h₁ : Step environments m c r m₁)
    (h₂ : Step environments m c r' m₂) : r = r' ∧ m₁ = m₂ := by
  cases h₁ <;> cases h₂
  case listed.listed hqs _ hrs => exact ⟨congrArg _ (hqs.unique hrs), rfl⟩
  all_goals simp_all

theorem Run.unique {t' : List (SavedCall × SavedReply)} (h : Run environments t m) (h' : Run environments t' m')
    (hcalls : t'.map Prod.fst = t.map Prod.fst) : t' = t ∧ m' = m := by
  induction h generalizing t' m' with
  | start =>
    rw [List.map_nil, List.map_eq_nil_iff] at hcalls
    subst hcalls
    generalize hnil : ([] : List (SavedCall × SavedReply)) = t' at h'
    cases h' with
    | start => exact ⟨rfl, rfl⟩
    | call hrun hstep => simp at hnil
  | call hrun hstep ih =>
    cases h' with
    | start => simp at hcalls
    | call hrun' hstep' =>
      rw [List.map_append, List.map_append] at hcalls
      obtain ⟨hbefore, hlast⟩ := List.append_inj' hcalls rfl
      obtain ⟨rfl, rfl⟩ := ih hrun' hbefore
      obtain rfl := List.singleton_inj.1 hlast
      obtain ⟨rfl, rfl⟩ := hstep.unique hstep'
      exact ⟨rfl, rfl⟩

/-! ### What answered calls tell -/

section Told

/-- A call of the user has created the saved query of an id. -/
def Created (t : List (SavedCall × SavedReply)) (userId : String) (i : Uuid) : Prop :=
  ∃ now n q, (SavedCall.create userId i now n, SavedReply.saved (.ok q)) ∈ t

def Deleted (t : List (SavedCall × SavedReply)) (i : Uuid) : Prop :=
  ∃ userId, (SavedCall.delete userId i, SavedReply.deleted (.ok ())) ∈ t

/-- The saved query of an id was created by the user, and not deleted. -/
def Live (t : List (SavedCall × SavedReply)) (userId : String) (i : Uuid) : Prop :=
  Created t userId i ∧ ¬ Deleted t i

variable {α : Type} (ofNew : NewSavedQuery → α) (ofChange : SavedQueryUpdate → Option α)

/-- What an answered call was given for a field of the saved query of an id, if it succeeded. -/
def accepted (i : Uuid) : SavedCall × SavedReply → Option α
  | (.create _ k _ n, .saved (.ok _)) => if k = i then some (ofNew n) else none
  | (.update _ k _ u, .saved (.ok _)) => if k = i then ofChange u else none
  | _ => none

/-- What the successful calls gave last for a field of the saved query of an id. -/
def lastAccepted (t : List (SavedCall × SavedReply)) (i : Uuid) : Option α :=
  (t.filterMap (accepted ofNew ofChange i)).getLast?

theorem lastAccepted_concat (t : List (SavedCall × SavedReply)) (a : SavedCall × SavedReply) (i : Uuid) :
    lastAccepted ofNew ofChange (t ++ [a]) i =
      (accepted ofNew ofChange i a).or (lastAccepted ofNew ofChange t i) := by
  rw [lastAccepted, lastAccepted, List.filterMap_append, List.getLast?_append]
  cases h : accepted ofNew ofChange i a with
  | none => rw [List.filterMap_cons_none h]; rfl
  | some x => rw [List.filterMap_cons_some h]; rfl

variable {ofNew ofChange} {field : SavedQuery → α}

/-- In a step, a field becomes what the call was given for it, or stays as it is. -/
theorem Step.field_eq {c : SavedCall} {r : SavedReply}
    (hnew : ∀ userId i now n, field (.created userId i now n) = ofNew n)
    (hchange : ∀ q now u, field (.revised q now u) = (ofChange u).getD (field q))
    (h : Step environments m c r m') (hq : m' i = some q) :
    some (field q) = (accepted ofNew ofChange i (c, r)).or ((m i).map field) := by
  cases h with
  | created hfault =>
    rcases eq_some_of_update hq with ⟨rfl, hv⟩ | ⟨hne, hq⟩
    · obtain rfl := Option.some.inj hv
      rw [accepted, if_pos rfl, hnew]
      rfl
    · rw [accepted, if_neg hne.symm, hq]
      rfl
  | @revised _ _ _ u _ hown hfault =>
    rcases eq_some_of_update hq with ⟨rfl, hv⟩ | ⟨hne, hq⟩
    · obtain rfl := Option.some.inj hv
      rw [accepted, if_pos rfl, hchange, (own_eq_some_iff.1 hown).1]
      cases ofChange u <;> rfl
    · rw [accepted, if_neg hne.symm, hq]
      rfl
  | deleted hown =>
    rcases eq_some_of_update hq with ⟨-, hv⟩ | ⟨-, hq⟩
    · cases hv
    · rw [hq]
      rfl
  | _ =>
    rw [hq]
    rfl

theorem Run.lastAccepted_eq (hnew : ∀ userId i now n, field (.created userId i now n) = ofNew n)
    (hchange : ∀ q now u, field (.revised q now u) = (ofChange u).getD (field q))
    (h : Run environments t m) (hq : m i = some q) : lastAccepted ofNew ofChange t i = some (field q) := by
  induction h generalizing q with
  | start => cases hq
  | @call t m m' c r hrun hstep ih =>
    rw [lastAccepted_concat, hstep.field_eq hnew hchange hq]
    cases hm : m i with
    | none =>
      have hset := hstep.field_eq hnew hchange hq
      rw [hm, Option.map_none, Option.or_none] at hset
      rw [← hset]
      rfl
    | some q₀ => rw [ih hm, Option.map_some]

end Told

/-! ### What is there -/

/-- What is there after a step was there for its owner, or is created in the step. -/
theorem Step.some_before {c : SavedCall} {r : SavedReply} (h : Step environments m c r m') (hq : m' i = some q) :
    (∃ now n, (c, r) = (.create q.userId i now n, .saved (.ok q))) ∨ ∃ q₀, m i = some q₀ ∧ q₀.userId = q.userId := by
  cases h with
  | @created _ _ now n hfault =>
    rcases eq_some_of_update hq with ⟨rfl, hv⟩ | ⟨-, hq⟩
    · obtain rfl := Option.some.inj hv
      exact .inl ⟨now, n, rfl⟩
    · exact .inr ⟨q, hq, rfl⟩
  | @revised _ _ _ _ q₀ hown hfault =>
    rcases eq_some_of_update hq with ⟨rfl, hv⟩ | ⟨-, hq⟩
    · obtain rfl := Option.some.inj hv
      exact .inr ⟨q₀, (own_eq_some_iff.1 hown).1, rfl⟩
    · exact .inr ⟨q, hq, rfl⟩
  | deleted hown =>
    rcases eq_some_of_update hq with ⟨-, hv⟩ | ⟨-, hq⟩
    · cases hv
    · exact .inr ⟨q, hq, rfl⟩
  | _ => exact .inr ⟨q, hq, rfl⟩

/-- What is there before a step stays its owner's, unless it is deleted or its id is created once more. -/
theorem Step.some_after {c : SavedCall} {r : SavedReply} (h : Step environments m c r m') (hq : m i = some q) :
    (c.freshId? = some i) ∨ (∃ userId, (c, r) = (.delete userId i, .deleted (.ok ()))) ∨
      ∃ q', m' i = some q' ∧ q'.userId = q.userId := by
  cases h with
  | @created _ k _ n hfault =>
    by_cases hk : i = k
    · exact .inl (congrArg some hk.symm)
    · exact .inr (.inr ⟨q, by rw [Function.update_apply, if_neg hk, hq], rfl⟩)
  | @revised _ k now u q₀ hown hfault =>
    by_cases hk : i = k
    · rw [← hk, own_eq_some_iff, hq] at hown
      obtain ⟨hq₀, rfl⟩ := hown
      have howner : q₀.userId = q.userId := congrArg SavedQuery.userId (Option.some.inj hq₀).symm
      exact .inr (.inr ⟨q₀.revised now u, by rw [Function.update_apply, if_pos hk], howner⟩)
    · exact .inr (.inr ⟨q, by rw [Function.update_apply, if_neg hk, hq], rfl⟩)
  | @deleted userId k _ hown =>
    by_cases hk : i = k
    · exact .inr (.inl ⟨userId, by rw [hk]⟩)
    · exact .inr (.inr ⟨q, by rw [Function.update_apply, if_neg hk, hq], rfl⟩)
  | _ => exact .inr (.inr ⟨q, hq, rfl⟩)

theorem Step.some_of_created {now : Time} {n : NewSavedQuery}
    (h : Step environments m (.create userId i now n) (.saved (.ok q)) m') :
    m' i = some q ∧ q.userId = userId := by
  cases h with
  | created hfault => exact ⟨by rw [Function.update_apply, if_pos rfl], rfl⟩

theorem Step.none_of_deleted (h : Step environments m (.delete userId i) (.deleted (.ok ())) m') :
    (∃ q, m i = some q) ∧ m' i = none := by
  cases h with
  | deleted hown => exact ⟨⟨_, (own_eq_some_iff.1 hown).1⟩, by rw [Function.update_apply, if_pos rfl]⟩

theorem Created.concat (h : Created t userId i) (a : SavedCall × SavedReply) : Created (t ++ [a]) userId i := by
  obtain ⟨now, n, q, hmem⟩ := h
  exact ⟨now, n, q, List.mem_append_left _ hmem⟩

theorem Created.mem_freshIds (h : Created t userId i) : i ∈ t.filterMap (·.1.freshId?) := by
  obtain ⟨now, n, q, hmem⟩ := h
  exact List.mem_filterMap.2 ⟨_, hmem, rfl⟩

theorem Run.created_of_some (h : Run environments t m) (hq : m i = some q) : Created t q.userId i := by
  induction h generalizing q with
  | start => cases hq
  | call hrun hstep ih =>
    rcases hstep.some_before hq with ⟨now, n, hcall⟩ | ⟨q₀, hq₀, howner⟩
    · exact ⟨now, n, q, List.mem_append_right _ (List.mem_singleton.2 hcall.symm)⟩
    · rw [← howner]
      exact (ih hq₀).concat _

theorem Run.created_of_deleted (h : Run environments t m) (hdeleted : Deleted t i) : ∃ userId, Created t userId i := by
  induction h with
  | start =>
    obtain ⟨userId, hmem⟩ := hdeleted
    cases hmem
  | call hrun hstep ih =>
    obtain ⟨userId, hmem⟩ := hdeleted
    rcases List.mem_append.1 hmem with hmem | hmem
    · obtain ⟨owner, hcreated⟩ := ih ⟨userId, hmem⟩
      exact ⟨owner, hcreated.concat _⟩
    · obtain ⟨rfl, rfl⟩ := Prod.mk.inj (List.mem_singleton.1 hmem)
      obtain ⟨⟨q, hq⟩, -⟩ := hstep.none_of_deleted
      exact ⟨q.userId, (hrun.created_of_some hq).concat _⟩

/-- The user finds what the user created and nobody deleted. -/
theorem Run.isSome_own_iff_live (h : Run environments t m) (hfresh : (t.filterMap (·.1.freshId?)).Nodup) :
    (m.own userId i).isSome ↔ Live t userId i := by
  rw [isSome_own_iff]
  induction h with
  | start =>
    constructor
    · rintro ⟨q, hq, -⟩
      cases hq
    · rintro ⟨⟨now, n, q, hmem⟩, -⟩
      cases hmem
  | @call t m m' c r hrun hstep ih =>
    rw [List.filterMap_append, List.nodup_append] at hfresh
    obtain ⟨hbefore, -, hnew⟩ := hfresh
    -- so the creation of an id comes before everything else that is told of it
    have hnotAgain : ∀ owner, c.freshId? = some i → ¬ Created t owner i := by
      intro owner hc hcreated
      exact hnew i hcreated.mem_freshIds i (List.mem_filterMap.2 ⟨_, List.mem_singleton_self _, hc⟩) rfl
    constructor
    · rintro ⟨q, hq, rfl⟩
      refine ⟨(hrun.call hstep).created_of_some hq, ?_⟩
      rintro ⟨deleter, hdeleted⟩
      rcases List.mem_append.1 hdeleted with hearlier | hnow
      · obtain ⟨owner, hcreated⟩ := hrun.created_of_deleted ⟨deleter, hearlier⟩
        rcases hstep.some_before hq with ⟨now, n, hcall⟩ | hq₀
        · obtain ⟨rfl, -⟩ := Prod.mk.inj hcall
          exact hnotAgain owner rfl hcreated
        · exact ((ih hbefore).1 hq₀).2 ⟨deleter, hearlier⟩
      · obtain ⟨rfl, rfl⟩ := Prod.mk.inj (List.mem_singleton.1 hnow)
        rw [hstep.none_of_deleted.2] at hq
        cases hq
    · rintro ⟨⟨now, n, q, hmem⟩, hlive⟩
      rcases List.mem_append.1 hmem with hmem | hmem
      · have hcreated : Created t userId i := ⟨now, n, q, hmem⟩
        obtain ⟨q₀, hq₀, rfl⟩ := (ih hbefore).2
          ⟨hcreated, fun ⟨deleter, hdeleted⟩ => hlive ⟨deleter, List.mem_append_left _ hdeleted⟩⟩
        rcases hstep.some_after hq₀ with hc | ⟨deleter, hcall⟩ | hafter
        · exact absurd hcreated (hnotAgain _ hc)
        · exact absurd ⟨deleter, List.mem_append_right _ (List.mem_singleton.2 hcall.symm)⟩ hlive
        · exact hafter
      · obtain ⟨rfl, rfl⟩ := Prod.mk.inj (List.mem_singleton.1 hmem)
        exact ⟨q, hstep.some_of_created⟩

end SavedRegister

/-! ### The rows as a register -/

namespace SavedRows

open SavedQuery

variable {environments : EnvironmentStore} {s : SavedRows}

theorem find?_insert_eq (s : SavedRows) (q : SavedQuery) :
    (s.insert q).find? = Function.update s.find? q.id (some q) := by
  funext i
  rw [find?_insert, Function.update_apply]

theorem find?_replace_eq {q : SavedQuery} {i : Uuid} {q₀ : SavedQuery} (hfind : s.find? i = some q₀) (hid : q.id = i) :
    (s.replace q).2.find? = Function.update s.find? i (some q) := by
  funext k
  rw [find?_replace, Function.update_apply, hid]
  by_cases hk : k = i
  · rw [if_pos hk, if_pos hk, hk, hfind, Option.map_some]
  · rw [if_neg hk, if_neg hk]

theorem find?_remove_eq (s : SavedRows) (i : Uuid) : (s.remove i).2.find? = Function.update s.find? i none := by
  funext k
  rw [find?_remove, Function.update_apply]

theorem ownedBy_find? (s : SavedRows) (userId : String) (i : Uuid) :
    ownedBy userId i (s.find? i) =
      match SavedRegister.own s.find? userId i with
      | some q => .ok q
      | none => .error (missing i) := by
  rw [SavedRegister.own]
  cases s.find? i with
  | none => rfl
  | some q =>
    rw [ownedBy]
    by_cases h : q.userId = userId <;> simp [Option.filter_some, h]

theorem mem_inEnvironment {environmentId : Option String} {qs : List SavedQuery} {q : SavedQuery} :
    q ∈ inEnvironment environmentId qs ↔ q ∈ qs ∧ ∀ e ∈ environmentId, q.environmentId = e := by
  cases environmentId with
  | none => simp [inEnvironment]
  | some e => simp [inEnvironment]

/-- The list of a user has the user's rows, each changed later than the next where no two were changed at once. -/
theorem lists_run (hids : (s.rows.map (·.id)).Nodup) (htimes : (s.rows.map (·.updatedAt)).Nodup)
    (userId : String) (environmentId : Option String) :
    SavedRegister.Lists s.find? userId environmentId ((SavedQuery.list userId environmentId).run s).1 := by
  rw [run_list]
  constructor
  · intro q
    rw [List.mem_mergeSort, mem_inEnvironment, listOf, List.mem_filter, beq_iff_eq, find?_eq_some_iff hids]
    constructor
    · rintro ⟨⟨hq, howner⟩, henvironment⟩
      exact ⟨⟨hq, rfl⟩, howner, henvironment⟩
    · rintro ⟨⟨hq, -⟩, howner, henvironment⟩
      exact ⟨⟨hq, howner⟩, henvironment⟩
  · -- the order of the rows is strict since no two of them have one time
    have hdistinct := List.pairwise_map.1 (nodup_times_list htimes userId environmentId)
    refine ((ordered_list s userId environmentId).and hdistinct).imp fun {a b} hab => ?_
    exact Nat.lt_of_le_of_ne hab.1 fun heq => hab.2 (congrArg Time.mk heq.symm)

/-- A call on the rows is a step of the register. -/
theorem step_run (hids : (s.rows.map (·.id)).Nodup) (htimes : (s.rows.map (·.updatedAt)).Nodup) (c : SavedCall) :
    SavedRegister.Step environments s.find? c (c.run environments s).1 (c.run environments s).2.find? := by
  cases c with
  | create userId i now n =>
    rw [SavedCall.run, run_create]
    cases hfault : creationFault environments userId n with
    | some e => exact .notCreated hfault
    | none =>
      show SavedRegister.Step _ _ _ (.saved (.ok _)) (s.insert (created userId i now n)).find?
      rw [find?_insert_eq]
      exact .created hfault
  | get userId i =>
    rw [SavedCall.run, run_get, ownedBy_find?]
    cases hown : SavedRegister.own s.find? userId i with
    | some q => exact .got hown
    | none => exact .notGot hown
  | list userId environmentId => exact .listed (lists_run hids htimes userId environmentId)
  | update userId i now u =>
    rw [SavedCall.run, run_update, ownedBy_find?]
    cases hown : SavedRegister.own s.find? userId i with
    | none => exact .notRevised hown
    | some q =>
      simp only
      cases hfault : changeFault q.environmentId u with
      | some e => exact .refused hown hfault
      | none =>
        have hfind : s.find? i = some q := (SavedRegister.own_eq_some_iff.1 hown).1
        have hid : q.id = i := id_of_find? hfind
        show SavedRegister.Step _ _ _ (.saved (.ok _)) (s.replace (q.revised now u)).2.find?
        rw [find?_replace_eq (q := q.revised now u) hfind hid]
        exact .revised hown hfault
  | delete userId i =>
    rw [SavedCall.run, run_delete, ownedBy_find?]
    cases hown : SavedRegister.own s.find? userId i with
    | none => exact .notDeleted hown
    | some q =>
      show SavedRegister.Step _ _ _ (.deleted (.ok ())) (s.remove i).2.find?
      rw [find?_remove_eq]
      exact .deleted hown

theorem updatedAt_mem_times {calls : List SavedCall} :
    ∀ q ∈ (empty.serve environments calls).2.rows, q.updatedAt ∈ calls.filterMap SavedCall.time? := by
  refine forall_rows_serve (fun userId i now n hmem _ => ?_) (fun q now u hmem _ _ => ?_)
  · exact List.mem_filterMap.2 ⟨_, hmem, rfl⟩
  · exact List.mem_filterMap.2 ⟨_, hmem, rfl⟩

theorem nodup_times_serve {calls : List SavedCall} (hclock : (calls.filterMap SavedCall.time?).Pairwise (· < ·)) :
    ((empty.serve environments calls).2.rows.map (·.updatedAt)).Nodup := by
  induction calls using List.reverseRecOn with
  | nil => exact .nil
  | append_singleton cs c ih =>
    rw [List.filterMap_append, List.pairwise_append] at hclock
    rw [serve_concat]
    refine (c.writes_run environments _).nodup_times (nodup_ids_serve environments cs) (ih hclock.1) ?_
    rintro now hnow q hq rfl
    exact Nat.lt_irrefl _ <|
      hclock.2.2 _ (updatedAt_mem_times q hq) _ (List.mem_filterMap.2 ⟨c, List.mem_singleton_self c, hnow⟩)

theorem map_fst_serve (environments : EnvironmentStore) (s : SavedRows) (calls : List SavedCall) :
    (s.serve environments calls).1.map Prod.fst = calls := by
  induction calls generalizing s with
  | nil => rfl
  | cons c cs ih => rw [serve_cons, List.map_cons, ih]

/-- Calls carried out one after the other are a run of the register. -/
theorem run_serve {calls : List SavedCall} (hclock : (calls.filterMap SavedCall.time?).Pairwise (· < ·)) :
    SavedRegister.Run environments (empty.serve environments calls).1 (empty.serve environments calls).2.find? := by
  induction calls using List.reverseRecOn with
  | nil => exact .start
  | append_singleton cs c ih =>
    rw [List.filterMap_append, List.pairwise_append] at hclock
    rw [serve_concat]
    exact (ih hclock.1).call (step_run (nodup_ids_serve environments cs) (nodup_times_serve hclock.1) c)

/-- Calls, each with a fresh id and at a later time, are answered as the register answers them. A user gets what the
user has created and nobody has deleted, with what was accepted last for each field; to everyone else, and afterwards,
it does not exist. A call that fails changes nothing. -/
theorem serve_refines_register {calls : List SavedCall} {t : List (SavedCall × SavedReply)} {s : SavedRows}
    (hserve : empty.serve environments calls = (t, s)) (hfresh : (calls.filterMap SavedCall.freshId?).Nodup)
    (hclock : (calls.filterMap SavedCall.time?).Pairwise (· < ·)) :
    SavedRegister.Run environments t s.find? ∧
      (∀ t' m, SavedRegister.Run environments t' m → t'.map Prod.fst = calls → t' = t ∧ m = s.find?) ∧
      (∀ userId i, (∃ q, ((get userId i).run s).1 = .ok q) ↔ SavedRegister.Live t userId i) ∧
      (∀ userId i q, ((get userId i).run s).1 = .ok q →
        SavedRegister.lastAccepted (·.definition) (·.definition) t i = some q.definition ∧
        SavedRegister.lastAccepted (Text.trim ·.name) (·.name.map Text.trim) t i = some q.name ∧
        SavedRegister.lastAccepted (·.description) (·.description.map presentDescription) t i = some q.description) ∧
      (∀ userId i, ¬ SavedRegister.Live t userId i →
        ((get userId i).run s).1 = .error (missing i) ∧ ((delete userId i).run s).1 = .error (missing i) ∧
          ∀ now u, ((update userId i now u).run s).1 = .error (missing i)) ∧
      (∀ userId environmentId,
        SavedRegister.Lists s.find? userId environmentId ((SavedQuery.list userId environmentId).run s).1) ∧
      (∀ c : SavedCall, (c.run environments s).1.Fails → (c.run environments s).2 = s) ∧
      ((∀ d ∈ calls.filterMap SavedCall.definition?, Json.bare d = d) →
        ∀ userId i q, ((get userId i).run s).1 = .ok q → q.reread = .ok q) := by
  obtain ⟨rfl, rfl⟩ : (empty.serve environments calls).1 = t ∧ (empty.serve environments calls).2 = s :=
    Prod.mk.inj hserve
  have hcalls := map_fst_serve environments empty calls
  have hrun : SavedRegister.Run environments _ _ := run_serve hclock
  have hget : ∀ userId i q, ((get userId i).run (empty.serve environments calls).2).1 = .ok q ↔
      SavedRegister.own (empty.serve environments calls).2.find? userId i = some q := by
    intro userId i q
    rw [run_get, ownedBy_eq_ok_iff, SavedRegister.own_eq_some_iff]
  have hfresh' : ((empty.serve environments calls).1.filterMap (·.1.freshId?)).Nodup := by
    rw [← hcalls, List.filterMap_map] at hfresh
    exact hfresh
  have hlive : ∀ userId i, (SavedRegister.own (empty.serve environments calls).2.find? userId i).isSome ↔
      SavedRegister.Live (empty.serve environments calls).1 userId i :=
    fun userId i => hrun.isSome_own_iff_live hfresh'
  refine ⟨hrun, fun t' m hrun' hcalls' => hrun.unique hrun' (hcalls'.trans hcalls.symm), ?_, ?_, ?_,
    lists_run (nodup_ids_serve environments calls) (nodup_times_serve hclock), fun c => c.rows_of_fails, ?_⟩
  · intro userId i
    rw [← hlive, Option.isSome_iff_exists]
    exact exists_congr (hget userId i)
  · intro userId i q hq
    have hfind := (SavedRegister.own_eq_some_iff.1 ((hget userId i q).1 hq)).1
    refine ⟨?_, ?_, ?_⟩
    · exact hrun.lastAccepted_eq (fun _ _ _ _ => rfl) (fun _ _ _ => rfl) hfind
    · exact hrun.lastAccepted_eq (fun _ _ _ _ => rfl) (fun _ _ _ => rfl) hfind
    · exact hrun.lastAccepted_eq (fun _ _ _ _ => rfl) (fun _ _ _ => rfl) hfind
  · intro userId i hdead
    have hown : SavedRegister.own (empty.serve environments calls).2.find? userId i = none :=
      Option.not_isSome_iff_eq_none.1 (mt (hlive userId i).1 hdead)
    have hnot := ownedBy_find? (empty.serve environments calls).2 userId i
    rw [hown] at hnot
    refine ⟨?_, ?_, fun now u => ?_⟩
    · rw [run_get, hnot]
    · rw [run_delete, hnot]
    · rw [run_update, hnot]
  · intro hbare userId i q hq
    have hfind := (SavedRegister.own_eq_some_iff.1 ((hget userId i q).1 hq)).1
    have hmem := mem_of_find? hfind
    exact (sound_serve q hmem).reread_eq_self (bare_serve hbare q hmem)

theorem serve_refines_register_sample :
    (sampleCalls.filterMap SavedCall.freshId?).Nodup ∧ (sampleCalls.filterMap SavedCall.time?).Pairwise (· < ·) ∧
      SavedRegister.Live (empty.serve sampleEnvironments sampleCalls).1 "ann" (.ofNat 1) ∧
      SavedRegister.lastAccepted (Text.trim ·.name) (·.name.map Text.trim)
        (empty.serve sampleEnvironments sampleCalls).1 (.ofNat 1) = some "Customers" := by
  have hfresh : (sampleCalls.filterMap SavedCall.freshId?).Nodup := by decide
  have hclock : (sampleCalls.filterMap SavedCall.time?).Pairwise (· < ·) := by decide
  have hget : ((get "ann" (.ofNat 1)).run (empty.serve sampleEnvironments sampleCalls).2).1 = .ok sampleRow := by
    rw [run_get, find?, rows_sample]
    rfl
  have hserve : empty.serve sampleEnvironments sampleCalls = (_, _) := (Prod.eta _).symm
  obtain ⟨-, -, hlive, hfields, -⟩ := serve_refines_register hserve hfresh hclock
  exact ⟨hfresh, hclock, (hlive _ _).1 ⟨_, hget⟩, (hfields _ _ _ hget).2.1⟩

end SavedRows

end QueryDesk
